import Courier.Proofs.Text.Cuts
import Courier.Span.Parser

/-! Which texts are lengths of time. A text is one if it can be spelled as a sequence of terms, each a
number and its unit, or as a bare zero, with blanks around it. -/

namespace Courier.Span

/-- ASCII digits, at least one, with a single point before, among or behind them at most. -/
structure IsNumber (text : List Char) : Prop where
  numerals : ∀ c ∈ text, c.isDigit = true ∨ c = '.'
  points : text.count '.' ≤ 1
  digits : ∃ c ∈ text, c.isDigit = true

def TimeUnit.spellings : TimeUnit → List (List Char)
  | .nanosecond => ["ns".toList]
  | .microsecond => ["us".toList, "µs".toList]
  | .millisecond => ["ms".toList]
  | .second => ["s".toList]
  | .minute => ["m".toList]
  | .hour => ["h".toList]

/-- `Spells text terms`: the text is that of the terms, one directly behind the other. -/
inductive Spells : List Char → List (Float × TimeUnit) → Prop where
  | nil : Spells [] []
  | cons {number unitText rest : List Char} {value : Float} {unit : TimeUnit}
      {terms : List (Float × TimeUnit)} (isNumber : IsNumber number)
      (read : numeral? number = some value) (isUnit : unitText ∈ unit.spellings)
      (more : Spells rest terms) :
      Spells (number ++ (unitText ++ rest)) ((value, unit) :: terms)

section Units

variable {text : List Char} {unit : TimeUnit}

theorem TimeUnit.ofText?_eq_some_iff :
    TimeUnit.ofText? text = some unit ↔ text ∈ unit.spellings := by
  constructor
  · intro read
    unfold TimeUnit.ofText? at read
    split at read <;> cases read <;> decide
  · intro spelled
    cases unit <;> simp only [TimeUnit.spellings, List.mem_cons, List.not_mem_nil, or_false] at spelled
    case microsecond => rcases spelled with rfl | rfl <;> rfl
    all_goals subst spelled; rfl

theorem TimeUnit.unit_of_spelled (spelled : text ∈ unit.spellings) :
    text ≠ [] ∧ ∀ c ∈ text, isNumeral c = false ∧ Text.isBlank c = false := by
  have all : ∀ unit : TimeUnit, ∀ text ∈ unit.spellings,
      text ≠ [] ∧ text.all (fun c => !isNumeral c && !Text.isBlank c) = true := by
    rintro (_ | _ | _ | _ | _ | _) <;> decide
  obtain ⟨filled, seen⟩ := all unit text spelled
  exact ⟨filled, fun c member => by simpa using List.all_eq_true.mp seen c member⟩

end Units

section Numbers

variable {text whole fraction : List Char} {c : Char}

theorem isNumeral_iff : isNumeral c = true ↔ c.isDigit = true ∨ c = '.' := by
  rw [isNumeral, Bool.or_eq_true, beq_iff_eq]

theorem isBlank_of_isNumeral (numeral : isNumeral c = true) : Text.isBlank c = false := by
  rcases isNumeral_iff.mp numeral with digit | rfl
  · have bounds : 48 ≤ c.toNat ∧ c.toNat ≤ 57 := by
      simpa [Char.isDigit, UInt32.le_iff_toNat_le] using digit
    simp only [Text.isBlank, Text.inRanges, Text.blankRanges, List.any_cons, List.any_nil,
      Bool.or_false, Bool.or_eq_false_iff, Bool.and_eq_false_iff, decide_eq_false_iff_not]
    omega
  · decide

def IsDigits (text : List Char) : Prop := ∀ c ∈ text, c.isDigit = true

theorem IsDigits.point_not_mem (digits : IsDigits text) : '.' ∉ text :=
  fun member => Bool.false_ne_true (digits '.' member)

theorem isNumber_of_digits (digits : IsDigits text) : IsNumber text ↔ text ≠ [] := by
  constructor
  · rintro ⟨_, _, c, member, _⟩
    exact List.ne_nil_of_mem member
  · intro filled
    obtain ⟨c, member⟩ := List.exists_mem_of_ne_nil text filled
    refine ⟨fun c member => .inl (digits c member), ?_, c, member, digits c member⟩
    rw [List.count_eq_zero.mpr digits.point_not_mem]
    exact Nat.zero_le _

theorem isNumber_point (digits : IsDigits whole) :
    IsNumber (whole ++ '.' :: fraction) ↔
      IsDigits fraction ∧ ¬(whole = [] ∧ fraction = []) := by
  have points : (whole ++ '.' :: fraction).count '.' = fraction.count '.' + 1 := by
    rw [List.count_append, List.count_eq_zero.mpr digits.point_not_mem, List.count_cons_self,
      Nat.zero_add]
  constructor
  · rintro ⟨numerals, single, c, member, digit⟩
    rw [points] at single
    have pointless : '.' ∉ fraction := List.count_eq_zero.mp (by omega)
    refine ⟨?_, ?_⟩
    · intro d member
      rcases numerals d (by simp [member]) with digit | rfl
      · exact digit
      · exact absurd member pointless
    · rintro ⟨rfl, rfl⟩
      cases List.mem_singleton.mp member
      cases digit
  · rintro ⟨digits', filled⟩
    refine ⟨?_, ?_, ?_⟩
    · intro d member
      rcases List.mem_append.mp member with early | later
      · exact .inl (digits d early)
      · rcases List.mem_cons.mp later with rfl | late
        · exact .inr rfl
        · exact .inl (digits' d late)
    · exact Nat.le_of_eq (by rw [points, List.count_eq_zero.mpr digits'.point_not_mem])
    · rcases List.eq_nil_or_concat whole with rfl | ⟨_, d, rfl⟩
      · obtain ⟨d, member⟩ := List.exists_mem_of_ne_nil fraction fun empty => filled ⟨rfl, empty⟩
        exact ⟨d, by simp [member], digits' d member⟩
      · exact ⟨d, by simp, digits d (by simp)⟩

theorem isNumber_iff (numerals : ∀ c ∈ text, isNumeral c = true) :
    IsNumber text ↔ ∃ value, numeral? text = some value := by
  have same := List.takeWhile_append_dropWhile (p := Char.isDigit) (l := text)
  have digits : IsDigits (text.takeWhile Char.isDigit) :=
    fun _ member => List.all_eq_true.mp List.all_takeWhile _ member
  unfold numeral?
  cases tail : text.dropWhile Char.isDigit with
  | nil =>
      rw [tail, List.append_nil] at same
      rw [same] at digits
      rw [isNumber_of_digits digits, same]
      cases text <;> simp
  | cons c fraction =>
      have other : c.isDigit = false := by
        simpa [tail] using List.head?_dropWhile_not Char.isDigit text
      have point : c = '.' := by
        have numeral := numerals c (by rw [← same, tail]; simp)
        exact (isNumeral_iff.mp numeral).resolve_left (by simp [other])
      have number : IsNumber _ ↔ IsDigits fraction ∧ _ := isNumber_point digits
      rw [← point, ← tail, same] at number
      rw [number]
      simp only [Option.ite_none_right_eq_some, Option.some.injEq, exists_and_left, exists_eq',
        and_true, Bool.and_eq_true, List.all_eq_true, Bool.not_eq_true', Bool.and_eq_false_iff,
        List.isEmpty_eq_false_iff, IsDigits, not_and_or, ne_eq]

end Numbers

section Terms

variable {whole text number unitText rest : List Char} {terms : List (Float × TimeUnit)}
  {span : Span}

theorem IsNumber.isNumeral_of_mem (isNumber : IsNumber number) {c : Char} (member : c ∈ number) :
    isNumeral c = true :=
  isNumeral_iff.mpr (isNumber.numerals c member)

theorem Spells.starts (spelled : Spells text terms) : text.takeWhile (!isNumeral ·) = [] := by
  cases spelled with
  | nil => rfl
  | @cons number _ _ _ _ _ isNumber =>
      cases number with
      | nil =>
          obtain ⟨_, _, _, member, _⟩ := isNumber
          cases member
      | cons c number =>
          have numeral := isNumber.isNumeral_of_mem List.mem_cons_self
          rw [List.cons_append, List.takeWhile_cons_of_neg (by simp [numeral])]

theorem cut_eq (isNumber : IsNumber number) {unit : TimeUnit} (spelled : unitText ∈ unit.spellings)
    (starts : rest.takeWhile (!isNumeral ·) = []) :
    cut (number ++ (unitText ++ rest)) = ⟨number, unitText, rest⟩ := by
  obtain ⟨filled, letters⟩ := TimeUnit.unit_of_spelled spelled
  have numerals : ∀ c ∈ number, isNumeral c = true := fun _ => isNumber.isNumeral_of_mem
  have others : ∀ c ∈ unitText, (!isNumeral c) = true := by
    intro c member
    rw [(letters c member).1]
    rfl
  have behind : (unitText ++ rest).takeWhile isNumeral = [] ∧
      (unitText ++ rest).dropWhile isNumeral = unitText ++ rest := by
    cases unitText with
    | nil => exact absurd rfl filled
    | cons c unitText => simp [(letters c List.mem_cons_self).1]
  have after : rest.dropWhile (!isNumeral ·) = rest := by
    have whole := List.takeWhile_append_dropWhile (p := (!isNumeral ·)) (l := rest)
    rwa [starts, List.nil_append] at whole
  simp only [cut, List.takeWhile_append_of_pos numerals, List.dropWhile_append_of_pos numerals,
    behind, List.takeWhile_append_of_pos others, List.dropWhile_append_of_pos others, starts, after,
    List.append_nil]

theorem terms_of_spells (spelled : Spells text terms) (whole : List Char) :
    Span.terms whole text = .ok terms := by
  induction spelled with
  | nil => rw [Span.terms, if_pos rfl]
  | @cons number unitText rest value unit terms isNumber read isUnit more induction =>
      have same := cut_eq isNumber isUnit more.starts
      have filled : number ≠ [] := List.ne_nil_of_mem isNumber.digits.choose_spec.1
      have filled' := (TimeUnit.unit_of_spelled isUnit).1
      have unitRead := TimeUnit.ofText?_eq_some_iff.mpr isUnit
      rw [Span.terms, if_neg (List.append_ne_nil_of_left_ne_nil filled _)]
      simp only [same, filled, filled', read, unitRead, induction, if_false, dif_neg, not_false_eq_true]
      rfl

theorem spells_of_terms (read : Span.terms whole text = .ok terms) : Spells text terms := by
  fun_induction Span.terms whole text generalizing terms with
  | case1 =>
      cases read
      exact .nil
  | case2 | case3 | case4 | case5 => cases read
  | case6 text _ _ value value_read _ unit unit_read induction =>
      cases later : Span.terms whole (cut text).rest with
      | error =>
          rw [later] at read
          cases read
      | ok more =>
          rw [later] at read
          cases read
          have numerals : ∀ c ∈ (cut text).numeral, isNumeral c = true :=
            fun _ member => List.all_eq_true.mp List.all_takeWhile _ member
          have isNumber := (isNumber_iff numerals).mpr ⟨value, value_read⟩
          rw [← cut_append text]
          exact .cons isNumber value_read (TimeUnit.ofText?_eq_some_iff.mp unit_read) (induction later)

theorem terms_eq_ok_iff : Span.terms whole text = .ok terms ↔ Spells text terms :=
  ⟨spells_of_terms, fun spelled => terms_of_spells spelled whole⟩

theorem Spells.ends (spelled : Spells text terms) (filled : terms ≠ []) :
    ∃ c front, text = front ++ [c] ∧ Text.isBlank c = false := by
  induction spelled with
  | nil => exact absurd rfl filled
  | @cons number unitText rest value unit terms isNumber read isUnit more induction =>
      by_cases last : terms = []
      · subst last
        cases more
        obtain ⟨filled', letters⟩ := TimeUnit.unit_of_spelled isUnit
        obtain ⟨front, c, rfl⟩ := List.eq_nil_or_concat unitText |>.resolve_left filled'
        exact ⟨c, number ++ front, by simp, (letters c (by simp)).2⟩
      · obtain ⟨c, front, rfl, visible⟩ := induction last
        exact ⟨c, number ++ (unitText ++ front), by simp, visible⟩

theorem Spells.isTrimmed (spelled : Spells text terms) (filled : terms ≠ []) :
    Text.IsTrimmed text := by
  refine ⟨?_, spelled.ends filled⟩
  cases spelled with
  | nil => exact absurd rfl filled
  | @cons number _ _ _ _ _ isNumber =>
      cases number with
      | nil =>
          obtain ⟨_, _, _, member, _⟩ := isNumber
          cases member
      | cons c number =>
          have numeral := isNumber.isNumeral_of_mem List.mem_cons_self
          exact ⟨c, _, rfl, isBlank_of_isNumeral numeral⟩

end Terms

inductive IsTerms : List Char → Prop where
  | nil : IsTerms []
  | cons {number unitText rest : List Char} {unit : TimeUnit} (isNumber : IsNumber number)
      (isUnit : unitText ∈ unit.spellings) (more : IsTerms rest) :
      IsTerms (number ++ (unitText ++ rest))

/-- A bare zero, or at least one term. -/
def IsDuration (text : List Char) : Prop := text = ['0'] ∨ text ≠ [] ∧ IsTerms text

/-- `Denotes text span`: the length that a text stands for is the sum of its terms. -/
inductive Denotes : List Char → Span → Prop where
  | zero : Denotes ['0'] .zero
  | terms {text : List Char} {terms : List (Float × TimeUnit)} (spelled : Spells text terms)
      (filled : terms ≠ []) : Denotes text (total terms)

section Durations

variable {text body : List Char} {span : Span}

theorem exists_spells_iff : (∃ terms, Spells text terms) ↔ IsTerms text := by
  constructor
  · rintro ⟨terms, spelled⟩
    induction spelled with
    | nil => exact .nil
    | cons isNumber _ isUnit _ induction => exact .cons isNumber isUnit induction
  · intro isTerms
    induction isTerms with
    | nil => exact ⟨[], .nil⟩
    | cons isNumber isUnit _ induction =>
        obtain ⟨terms, spelled⟩ := induction
        obtain ⟨value, read⟩ := (isNumber_iff fun _ => isNumber.isNumeral_of_mem).mp isNumber
        exact ⟨_, .cons isNumber read isUnit spelled⟩

theorem Spells.ne_nil_iff {terms : List (Float × TimeUnit)} (spelled : Spells text terms) :
    text ≠ [] ↔ terms ≠ [] := by
  cases spelled with
  | nil => exact iff_of_false (absurd rfl) (absurd rfl)
  | cons isNumber =>
      obtain ⟨_, member, _⟩ := isNumber.digits
      exact iff_of_true (List.ne_nil_of_mem (List.mem_append_left _ member)) (List.cons_ne_nil _ _)

theorem exists_denotes_iff : (∃ span, Denotes text span) ↔ IsDuration text := by
  constructor
  · rintro ⟨span, zero | ⟨spelled, filled⟩⟩
    · exact .inl rfl
    · exact .inr ⟨spelled.ne_nil_iff.mpr filled, exists_spells_iff.mp ⟨_, spelled⟩⟩
  · rintro (rfl | ⟨filled, isTerms⟩)
    · exact ⟨_, .zero⟩
    · obtain ⟨terms, spelled⟩ := exists_spells_iff.mpr isTerms
      exact ⟨_, .terms spelled (spelled.ne_nil_iff.mp filled)⟩

theorem Denotes.isTrimmed (denotes : Denotes text span) : Text.IsTrimmed text := by
  cases denotes with
  | zero => exact ⟨⟨'0', [], rfl, by decide⟩, '0', [], rfl, by decide⟩
  | terms spelled filled => exact spelled.isTrimmed filled

theorem not_spells_zero {terms : List (Float × TimeUnit)} : ¬Spells ['0'] terms := by
  intro spelled
  generalize same : ['0'] = text at spelled
  cases spelled with
  | nil => cases same
  | cons isNumber _ isUnit =>
      obtain ⟨_, member, _⟩ := isNumber.digits
      have number := List.length_pos_of_mem member
      have unit := List.length_pos_iff.mpr (TimeUnit.unit_of_spelled isUnit).1
      have length := congrArg List.length same
      simp only [List.length_singleton, List.length_append] at length
      omega

theorem parse_eq_ok_iff :
    parse text = .ok span ↔ ∃ body, Text.Surrounds text body ∧ Denotes body span := by
  constructor
  · intro read
    refine ⟨Text.trim text, Text.surrounds_trim text, ?_⟩
    unfold parse at read
    simp only at read
    split at read
    case isTrue zero =>
        cases read
        rw [zero]
        exact .zero
    case isFalse =>
        split at read
        case isTrue => cases read
        case isFalse filled =>
            cases later : Span.terms (Text.trim text) (Text.trim text) with
            | error =>
                rw [later] at read
                cases read
            | ok terms =>
                rw [later] at read
                cases read
                have spelled := terms_eq_ok_iff.mp later
                refine .terms spelled (spelled.ne_nil_iff.mp ?_)
                exact fun empty => filled (List.isEmpty_iff.mpr empty)
  · rintro ⟨body, surrounds, denotes⟩
    rw [parse, denotes.isTrimmed.trim_eq surrounds]
    cases denotes with
    | zero => rfl
    | terms spelled filled =>
        have other : body ≠ ['0'] := by
          rintro rfl
          exact not_spells_zero spelled
        have filled' := List.isEmpty_eq_false_iff.mpr (spelled.ne_nil_iff.mpr filled)
        simp only [other, filled', if_false, terms_eq_ok_iff.mpr spelled]
        rfl

end Durations

def cutAt? (text : List Char) : Option Cut :=
  (Text.splitAt? (Text.offset (!isNumeral ·) text) text).bind fun (numeral, tail) =>
    (Text.splitAt? (Text.offset isNumeral tail) tail).map fun (unit, rest) =>
      ⟨numeral, unit, rest⟩

theorem cutAt?_eq_some_cut (text : List Char) : cutAt? text = some (cut text) := by
  simp [cutAt?, Text.splitAt?_offset, cut]

/-- A text is taken for a length just where blanks surround a bare zero or a sequence of terms, and
every other one is refused. Wherever a text is cut on the way, the places lie between characters. -/
theorem accepts_exactly_durations (text : List Char) :
    ((∃ span, parse text = .ok span) ↔
        ∃ body, Text.Surrounds text body ∧ IsDuration body) ∧
      ((∃ error, parse text = .error error) ↔
        ∀ body, Text.Surrounds text body → ¬IsDuration body) ∧
      ∀ rest, cutAt? rest = some (cut rest) := by
  have accepted : (∃ span, parse text = .ok span) ↔
      ∃ body, Text.Surrounds text body ∧ IsDuration body := by
    simp only [parse_eq_ok_iff, ← exists_denotes_iff]
    constructor
    · rintro ⟨span, body, surrounds, denotes⟩
      exact ⟨body, surrounds, span, denotes⟩
    · rintro ⟨body, surrounds, span, denotes⟩
      exact ⟨span, body, surrounds, denotes⟩
  have refused : (∃ error, parse text = .error error) ↔ ¬∃ span, parse text = .ok span := by
    cases parse text <;> simp
  refine ⟨accepted, ?_, cutAt?_eq_some_cut⟩
  rw [refused, accepted]
  simp only [not_exists, not_and]

/-- A unit is read up to the next numeral, and the other spelling of micro is none. -/
example :
    (parse " 1h.5m3.s ".toList).toOption = some (ofSeconds 3633) ∧
      (parse "1μs".toList).toOption = none := by
  decide +kernel

end Courier.Span
