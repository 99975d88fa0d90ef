import Courier.Proofs.Json.Numbers
import Courier.Proofs.Json.Strings

/-! Values that are passed over, however they are spelled and nested. -/

namespace Courier.Json

theorem skipBlanks_append {before : List UInt8} (blank : Blank before) (bytes : List UInt8) :
    skipBlanks (before ++ bytes) = skipBlanks bytes :=
  List.dropWhile_append_of_pos blank

theorem skipBlanks_cons {b : UInt8} (visible : isBlank b = false) (rest : List UInt8) :
    skipBlanks (b :: rest) = b :: rest :=
  List.dropWhile_cons_of_neg (by simp [visible])

theorem skipBlanks_append_cons {before : List UInt8} {b : UInt8} (blank : Blank before)
    (visible : isBlank b = false) (rest : List UInt8) :
    skipBlanks (before ++ b :: rest) = b :: rest := by
  rw [skipBlanks_append blank, skipBlanks_cons visible]

theorem blank_nil : Blank [] := by simp [Blank]

structure Starts (b : UInt8) : Prop where
  visible : isBlank b = false
  noEnd : b ≠ closeList ∧ b ≠ closeObject

theorem isDigit_iff {b : UInt8} : isDigit b = true ↔ 48 ≤ b.toNat ∧ b.toNat ≤ 57 := by
  simp [isDigit, UInt8.le_iff_toNat_le]

theorem ne_of_isDigit {b : UInt8} (digit : isDigit b = true) {c : UInt8}
    (far : c.toNat < 48 ∨ 57 < c.toNat) : b ≠ c := by
  rintro rfl
  rw [isDigit_iff] at digit
  omega

theorem starts_of_isDigit {b : UInt8} (digit : isDigit b = true) : Starts b where
  visible := by
    simp [isBlank, @ne_of_isDigit b digit 32 (by decide), @ne_of_isDigit b digit 10 (by decide),
      @ne_of_isDigit b digit 9 (by decide), @ne_of_isDigit b digit 13 (by decide)]
  noEnd := ⟨ne_of_isDigit digit (by decide), ne_of_isDigit digit (by decide)⟩

section

variable {value : Value} {bytes rest before after : List UInt8} {bracket : Bracket}
  {around outer : List Bracket} {b : UInt8}

theorem IsUnsigned.head (valid : IsUnsigned bytes) :
    ∃ b tail, bytes = b :: tail ∧ isDigit b = true := by
  obtain ⟨hasWhole, -, -⟩ := valid
  cases hasWhole with
  | zero => exact ⟨_, _, rfl, rfl⟩
  | digits first => exact ⟨_, _, rfl, first⟩

theorem IsNumeral.head (valid : IsNumeral bytes) :
    ∃ b tail, bytes = b :: tail ∧ Starts b ∧
      ∀ c : UInt8, c.toNat < 45 ∨ 57 < c.toNat → b ≠ c := by
  cases valid with
  | unsigned digits =>
      obtain ⟨b, tail, rfl, digit⟩ := digits.head
      exact ⟨b, tail, rfl, starts_of_isDigit digit, fun c far => ne_of_isDigit digit (by omega)⟩
  | negative =>
      refine ⟨minus, _, rfl, ⟨rfl, by decide⟩, ?_⟩
      rintro c far rfl
      exact absurd far (by decide)

theorem Spells.head (spelled : Spells value bytes) :
    ∃ b tail, bytes = b :: tail ∧ Starts b := by
  cases spelled with
  | number valid =>
      obtain ⟨b, tail, same, starts, -⟩ := valid.head
      exact ⟨b, tail, same, starts⟩
  | _ => exact ⟨_, _, rfl, rfl, by decide⟩

/-! The steps of the reader that passes over values. -/

theorem skipFrom_value (around : List Bracket) (bytes : List UInt8) : skipFrom false around bytes =
    match skipBlanks bytes with
    | [] => .error (.at .endInValue [])
    | b :: rest =>
        match Bracket.ofByte? b with
        | some bracket =>
            match skipOpening bracket rest with
            | .error fault => .error fault
            | .ok (closed, rest) =>
                skipFrom closed (if closed then around else bracket :: around) rest
        | none =>
            match skipScalar b rest with
            | .error fault => .error fault
            | .ok rest => skipFrom true around rest := by
  -- Only the left side is split, so the result gets a name.
  generalize result : skipFrom false around bytes = passed
  rw [skipFrom.eq_def] at result
  simp only [Bool.false_eq_true, if_false] at result
  split at result
  case h_1 nothing => rw [nothing, ← result]
  case h_2 b rest next =>
    rw [next]
    split at result
    case h_1 bracket known =>
      split at result
      case h_1 failed => simp only [known, failed, ← result]
      case h_2 opened => simp only [known, opened, ← result]
    case h_2 known =>
      split at result
      case h_1 failed => simp only [known, failed, ← result]
      case h_2 skipped => simp only [known, skipped, ← result]

theorem skipFrom_ended (bracket : Bracket) (outer : List Bracket) (bytes : List UInt8) :
    skipFrom true (bracket :: outer) bytes =
      match skipBlanks bytes with
      | [] => .error (.at bracket.endCause [])
      | b :: rest =>
          if b = bracket.closing then skipFrom true outer rest
          else if b = comma then
            match skipKey bracket rest with
            | .error fault => .error fault
            | .ok rest => skipFrom false (bracket :: outer) rest
          else .error (.at bracket.expectedCause (b :: rest)) := by
  rw [skipFrom.eq_def]
  simp only [if_true]
  split
  case h_1 nothing => rw [nothing]
  case h_2 b rest next =>
    rw [next]
    simp only
    split
    · rfl
    · split
      · split
        case h_1 failed => rw [failed]
        case h_2 found => rw [found]
      · rfl

theorem skipFrom_done (bytes : List UInt8) : skipFrom true [] bytes = .ok bytes := by
  rw [skipFrom.eq_def]
  rfl

theorem skipFrom_append {ended : Bool} (skipped : skipFrom ended around bytes = .ok rest)
    (outer : List Bracket) : skipFrom ended (around ++ outer) bytes = skipFrom true outer rest := by
  induction size : bytes.length using Nat.strongRecOn generalizing ended around bytes with
  | ind n induction =>
    cases ended with
    | false =>
        rw [skipFrom_value] at skipped ⊢
        split at skipped
        case h_1 => cases skipped
        case h_2 b tail visible =>
          have shorter := skipBlanks_cons_length visible
          split at skipped
          case h_1 bracket =>
            split at skipped
            case h_1 => cases skipped
            case h_2 closed next opened =>
              have short := skipOpening_length opened
              rw [← induction _ (by omega) skipped rfl]
              cases closed <;> rfl
          case h_2 =>
            split at skipped
            case h_1 => cases skipped
            case h_2 next passed =>
              have short := skipScalar_length passed
              exact induction _ (by omega) skipped rfl
    | true =>
        cases around with
        | nil =>
            rw [skipFrom_done] at skipped
            cases skipped
            rfl
        | cons bracket inner =>
            rw [List.cons_append, skipFrom_ended] at *
            split at skipped
            case h_1 => cases skipped
            case h_2 b tail visible =>
              have shorter := skipBlanks_cons_length visible
              split at skipped
              case isTrue isEnd =>
                rw [if_pos isEnd]
                exact induction _ (by omega) skipped rfl
              case isFalse noEnd =>
                rw [if_neg noEnd]
                split at skipped
                case isFalse => cases skipped
                case isTrue isComma =>
                  rw [if_pos isComma]
                  split at skipped
                  case h_1 => cases skipped
                  case h_2 next found =>
                    have short := skipKey_length found
                    exact induction _ (by omega) skipped rfl

theorem skipFrom_blank (blank : Blank before) (around : List Bracket) (bytes : List UInt8) :
    skipFrom false around (before ++ bytes) = skipFrom false around bytes := by
  rw [skipFrom_value, skipFrom_value around bytes, skipBlanks_append blank]

theorem skipFrom_scalar (starts : Starts b) (noBracket : Bracket.ofByte? b = none)
    {rest' : List UInt8} (skipped : skipScalar b rest = .ok rest') (around : List Bracket) :
    skipFrom false around (b :: rest) = skipFrom true around rest' := by
  rw [skipFrom_value, skipBlanks_cons starts.visible]
  simp only [noBracket, skipped]

theorem skipFrom_open (starts : Starts b) (known : Bracket.ofByte? b = some bracket)
    {closed : Bool} {rest' : List UInt8} (opened : skipOpening bracket rest = .ok (closed, rest'))
    (around : List Bracket) :
    skipFrom false around (b :: rest) =
      skipFrom closed (if closed then around else bracket :: around) rest' := by
  rw [skipFrom_value, skipBlanks_cons starts.visible]
  simp only [known, opened]

theorem closing_visible (bracket : Bracket) : isBlank bracket.closing = false := by
  cases bracket <;> rfl

theorem skipFrom_close (blank : Blank after) (bracket : Bracket) (outer : List Bracket)
    (rest : List UInt8) :
    skipFrom true (bracket :: outer) (after ++ bracket.closing :: rest) =
      skipFrom true outer rest := by
  rw [skipFrom_ended, skipBlanks_append_cons blank (closing_visible bracket)]
  simp only [if_true]

theorem skipFrom_comma (blank : Blank after) {rest' : List UInt8}
    (found : skipKey bracket rest = .ok rest') (outer : List Bracket) :
    skipFrom true (bracket :: outer) (after ++ comma :: rest) =
      skipFrom false (bracket :: outer) rest' := by
  have noEnd : comma ≠ bracket.closing := by cases bracket <;> decide
  rw [skipFrom_ended, skipBlanks_append_cons blank rfl]
  simp only [noEnd, if_false, if_true, found]

/-! A value is passed over when its parts are. -/

/-- Where a number ends, other values end as well. -/
def Value.EndsAt : Value → List UInt8 → Prop
  | .number _, rest => EndsNumber rest
  | _, _ => True

theorem Value.endsAt (value : Value) (ends : EndsNumber rest) : value.EndsAt rest := by
  cases value with
  | number => exact ends
  | _ => trivial

theorem endsNumber_append_cons (blank : Blank after)
    (ends : b = comma ∨ b = closeList ∨ b = closeObject) : EndsNumber (after ++ b :: rest) := by
  intro c next
  cases after with
  | nil =>
      cases next
      rcases ends with rfl | rfl | rfl <;> exact ⟨rfl, by decide, rfl⟩
  | cons d after =>
      cases next
      have isBlank := blank c List.mem_cons_self
      simp only [Json.isBlank, Bool.or_eq_true, decide_eq_true_eq] at isBlank
      rcases isBlank with ((rfl | rfl) | rfl) | rfl <;> exact ⟨rfl, by decide, rfl⟩

def Passes (value : Value) (bytes : List UInt8) : Prop :=
  ∀ around rest, value.EndsAt rest →
    skipFrom false around (bytes ++ rest) = skipFrom true around rest

structure PartOf (bracket : Bracket) (bytes : List UInt8) : Prop where
  head : ∃ b tail, bytes = b :: tail ∧ Starts b
  passes : ∀ outer before rest, Blank before → EndsNumber rest →
    ∃ rest', skipKey bracket (before ++ bytes ++ rest) = .ok rest' ∧
      skipFrom false (bracket :: outer) rest' = skipFrom true (bracket :: outer) rest

theorem closing_ends (bracket : Bracket) (blank : Blank after) (rest : List UInt8) :
    EndsNumber (after ++ bracket.closing :: rest) := by
  cases bracket with
  | list => exact endsNumber_append_cons blank (.inr (.inl rfl))
  | object => exact endsNumber_append_cons blank (.inr (.inr rfl))

theorem partOf_list (spelled : Spells value bytes) (passes : Passes value bytes) :
    PartOf .list bytes where
  head := spelled.head
  passes outer before rest blank ends :=
    ⟨_, rfl, by rw [List.append_assoc, skipFrom_blank blank, passes _ _ (value.endsAt ends)]⟩

theorem skipKey_object (blank : Blank before) (blank' : Blank after) (name : List Piece)
    (rest : List UInt8) :
    skipKey .object (before ++ (quoted name ++ after ++ colon :: rest)) = .ok rest := by
  have afterName : quoted name ++ after ++ colon :: rest =
      quoteMark :: (bytesOf name ++ quoteMark :: (after ++ colon :: rest)) := by
    simp [quoted]
  rw [afterName, skipKey, skipBlanks_append_cons blank rfl]
  simp only [ne_eq, not_true_eq_false, if_false, skipString_bytesOf]
  rw [readColon, skipBlanks_append_cons blank' rfl]
  rfl

theorem partOf_object {member : Option (List Char) × Value}
    (spelled : MemberOf (fun value bytes => Spells value bytes ∧ Passes value bytes) member bytes) :
    PartOf .object bytes := by
  cases spelled with
  | @mk value after gap inner name blank blank' one =>
      refine ⟨⟨_, _, rfl, rfl, by decide⟩, fun outer before rest blankBefore ends =>
        ⟨gap ++ (inner ++ rest), ?_, ?_⟩⟩
      · rw [← skipKey_object blankBefore blank name]
        simp
      · rw [skipFrom_blank blank', one.2 _ _ (value.endsAt ends)]

section

variable {α : Type} {One : α → List UInt8 → Prop} {parts : List α} {inner : List UInt8}

theorem Separated.head (separated : Separated One parts inner)
    (part : ∀ a bytes, One a bytes → PartOf bracket bytes) :
    ∃ b tail, inner = b :: tail ∧ Starts b := by
  cases separated with
  | last one =>
      obtain ⟨b, tail, rfl, starts⟩ := (part _ _ one).head
      exact ⟨b, _, rfl, starts⟩
  | more one =>
      obtain ⟨b, tail, rfl, starts⟩ := (part _ _ one).head
      exact ⟨b, _, rfl, starts⟩

theorem Separated.passes (separated : Separated One parts inner)
    (part : ∀ a bytes, One a bytes → PartOf bracket bytes) (outer : List Bracket)
    (blank : Blank before) (rest : List UInt8) :
    ∃ rest', skipKey bracket (before ++ inner ++ bracket.closing :: rest) = .ok rest' ∧
      skipFrom false (bracket :: outer) rest' = skipFrom true outer rest := by
  induction separated generalizing before with
  | last one blank' =>
      obtain ⟨rest', found, passed⟩ := (part _ _ one).passes outer before _ blank
        (closing_ends bracket blank' rest)
      refine ⟨rest', ?_, ?_⟩
      · rw [← found]
        simp
      · rw [passed, skipFrom_close blank']
  | @more _ _ bytes after gap inner one blank' blank'' others induction =>
      obtain ⟨rest', found, passed⟩ := induction blank''
      obtain ⟨rest'', found', passed'⟩ := (part _ _ one).passes outer before
        (after ++ comma :: (gap ++ inner ++ bracket.closing :: rest)) blank
        (endsNumber_append_cons blank' (.inl rfl))
      refine ⟨rest'', ?_, ?_⟩
      · rw [← found']
        simp
      · rw [passed', skipFrom_comma blank' found, passed]

theorem skipOpening_empty (blank : Blank inner) (bracket : Bracket) (rest : List UInt8) :
    skipOpening bracket (inner ++ bracket.closing :: rest) = .ok (true, rest) := by
  rw [skipOpening, skipBlanks_append_cons blank (closing_visible bracket)]
  simp only [if_true]

theorem Separated.opening (separated : Separated One parts inner)
    (part : ∀ a bytes, One a bytes → PartOf bracket bytes) (outer : List Bracket)
    (blank : Blank before) (rest : List UInt8) :
    ∃ rest', skipOpening bracket (before ++ inner ++ bracket.closing :: rest) = .ok (false, rest') ∧
      skipFrom false (bracket :: outer) rest' = skipFrom true outer rest := by
  obtain ⟨rest', found, passed⟩ := separated.passes part outer blank_nil rest
  obtain ⟨b, tail, rfl, starts⟩ := separated.head part
  have noEnd : b ≠ bracket.closing := by
    cases bracket with
    | list => exact starts.noEnd.1
    | object => exact starts.noEnd.2
  refine ⟨rest', ?_, passed⟩
  rw [List.append_assoc, List.cons_append, skipOpening, skipBlanks_append_cons blank starts.visible]
  simp only [noEnd, if_false]
  rw [List.nil_append, List.cons_append] at found
  rw [found]

end

theorem readLiteral_append (letters rest : List UInt8) :
    readLiteral letters (letters ++ rest) = .ok rest := by
  induction letters with
  | nil => rfl
  | cons letter letters induction => rw [List.cons_append, readLiteral, if_pos rfl, induction]

private theorem passes_scalar {tail : List UInt8} (starts : Starts b)
    (noBracket : Bracket.ofByte? b = none)
    (skipped : ∀ rest, value.EndsAt rest → skipScalar b (tail ++ rest) = .ok rest) :
    Passes value (b :: tail) :=
  fun around rest ends => skipFrom_scalar starts noBracket (skipped rest ends) around

theorem skipScalar_digit (digit : isDigit b = true) (rest : List UInt8) :
    Bracket.ofByte? b = none ∧ skipScalar b rest = skipNumber (b :: rest) := by
  constructor
  · unfold Bracket.ofByte?
    split
    · exact absurd rfl (ne_of_isDigit digit (by decide))
    · exact absurd rfl (ne_of_isDigit digit (by decide))
    · rfl
  · rw [skipScalar, if_neg (ne_of_isDigit digit (by decide)),
      if_neg (ne_of_isDigit digit (by decide)), if_neg (ne_of_isDigit digit (by decide)),
      if_neg (ne_of_isDigit digit (by decide)), if_pos digit]

private theorem passes_number {numeral : List UInt8} (valid : IsNumeral numeral) :
    Passes (.number numeral) numeral := by
  cases valid with
  | unsigned digits =>
      obtain ⟨b, tail, rfl, digit⟩ := digits.head
      refine passes_scalar (starts_of_isDigit digit) (skipScalar_digit digit tail).1 fun rest ends => ?_
      rw [(skipScalar_digit digit _).2]
      exact skipNumber_append digits ends
  | negative digits =>
      exact passes_scalar ⟨rfl, by decide⟩ rfl fun rest ends => skipNumber_append digits ends

private theorem passes_empty (bracket : Bracket) (starts : Starts b)
    (known : Bracket.ofByte? b = some bracket)
    {inner : List UInt8} (blank : Blank inner) :
    Passes value (b :: inner ++ [bracket.closing]) := by
  intro around rest _
  have opened := skipOpening_empty blank bracket rest
  rw [List.append_assoc, List.cons_append, List.singleton_append, skipFrom_open starts known opened,
    if_pos rfl]

private theorem passes_filled (bracket : Bracket) (starts : Starts b)
    (known : Bracket.ofByte? b = some bracket)
    {α : Type} {One : α → List UInt8 → Prop} {parts : List α} {inner : List UInt8}
    (blank : Blank before) (separated : Separated One parts inner)
    (part : ∀ a bytes, One a bytes → PartOf bracket bytes) :
    Passes value (b :: before ++ inner ++ [bracket.closing]) := by
  intro around rest _
  obtain ⟨rest', opened, passed⟩ := separated.opening part around blank rest
  have bytes : b :: before ++ inner ++ [bracket.closing] ++ rest =
      b :: (before ++ inner ++ bracket.closing :: rest) := by simp
  rw [bytes, skipFrom_open starts known opened]
  exact passed

theorem Spells.passes (spelled : Spells value bytes) : Passes value bytes := by
  refine Spells.induct ?null ?true ?false ?number ?text ?emptyList ?list ?emptyObject ?object spelled
  case null =>
    exact passes_scalar ⟨rfl, by decide⟩ rfl fun rest _ => readLiteral_append nullTail rest
  case true =>
    exact passes_scalar ⟨rfl, by decide⟩ rfl fun rest _ => readLiteral_append trueTail rest
  case false =>
    exact passes_scalar ⟨rfl, by decide⟩ rfl fun rest _ => readLiteral_append falseTail rest
  case number => exact fun numeral valid => passes_number valid
  case text =>
    intro pieces
    refine passes_scalar ⟨rfl, by decide⟩ rfl fun rest _ => ?_
    have skipped := skipString_bytesOf pieces rest
    rw [List.append_cons] at skipped
    exact skipped
  case emptyList =>
    exact fun inner blank => passes_empty .list ⟨rfl, by decide⟩ rfl blank
  case list =>
    exact fun items before inner blank separated =>
      passes_filled .list ⟨rfl, by decide⟩ rfl blank separated
        fun _ _ one => partOf_list one.1 one.2
  case emptyObject =>
    exact fun inner blank => passes_empty .object ⟨rfl, by decide⟩ rfl blank
  case object =>
    exact fun members before inner blank separated =>
      passes_filled .object ⟨rfl, by decide⟩ rfl blank separated
        fun _ _ one => partOf_object one

end

end Courier.Json
