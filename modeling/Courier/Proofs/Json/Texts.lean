import Courier.Proofs.Json.Values

/-! What is passed over in a text is a value: the reader accepts nothing that the grammar does not
spell. -/

namespace Courier.Json

open Text (IsAscii IsEncoded isAscii_nil)

section

variable {bytes rest before after next : List UInt8} {b : UInt8} {bracket : Bracket}
  {around outer : List Bracket}

theorem Blank.ascii (blank : Blank bytes) : IsAscii bytes := by
  intro b member
  have isBlank := blank b member
  simp only [Json.isBlank, Bool.or_eq_true, decide_eq_true_eq] at isBlank
  rcases isBlank with ((rfl | rfl) | rfl) | rfl <;> decide

theorem Blank.append (blank : Blank before) (blank' : Blank after) : Blank (before ++ after) :=
  fun b member => (List.mem_append.mp member).elim (blank b) (blank' b)

theorem eq_append_skipBlanks (bytes : List UInt8) :
    ∃ before, Blank before ∧ bytes = before ++ skipBlanks bytes :=
  ⟨bytes.takeWhile isBlank, List.all_eq_true.mp List.all_takeWhile,
    List.takeWhile_append_dropWhile.symm⟩

theorem ascii_of_isDigit (all : ∀ b ∈ bytes, isDigit b = true) : IsAscii bytes := by
  intro b member
  have bounds := isDigit_iff.mp (all b member)
  omega

theorem Digits.ascii (digits : Digits bytes) : IsAscii bytes := by
  obtain ⟨first, others⟩ := digits
  exact ascii_of_isDigit (List.forall_mem_cons.mpr ⟨first, others⟩)

theorem IsWhole.ascii (valid : IsWhole bytes) : IsAscii bytes := by
  cases valid with
  | zero => exact .cons (by decide) isAscii_nil
  | digits first positive others => exact ascii_of_isDigit (List.forall_mem_cons.mpr ⟨first, others⟩)

theorem IsFraction.ascii (valid : IsFraction bytes) : IsAscii bytes := by
  cases valid with
  | none => exact isAscii_nil
  | digits digits => exact .cons (by decide) digits.ascii

theorem IsExponent.ascii (valid : IsExponent bytes) : IsAscii bytes := by
  cases valid with
  | none => exact isAscii_nil
  | digits marked signed digits =>
      refine .append (.cons ?_ ?_) digits.ascii
      · simp only [isExponentMark, Bool.or_eq_true, decide_eq_true_eq] at marked
        rcases marked with rfl | rfl <;> decide
      · rcases signed with rfl | rfl | rfl
        · exact isAscii_nil
        · exact .cons (by decide) isAscii_nil
        · exact .cons (by decide) isAscii_nil

theorem IsUnsigned.ascii (valid : IsUnsigned bytes) : IsAscii bytes := by
  obtain ⟨hasWhole, hasFraction, hasExponent⟩ := valid
  exact (hasWhole.ascii.append hasFraction.ascii).append hasExponent.ascii

theorem eq_of_readLiteral {letters : List UInt8} (read : readLiteral letters bytes = .ok rest) :
    bytes = letters ++ rest := by
  induction letters generalizing bytes with
  | nil =>
      cases read
      rfl
  | cons letter letters induction =>
      cases bytes with
      | nil => cases read
      | cons b bytes =>
          obtain ⟨same, read⟩ : b = letter ∧ readLiteral letters bytes = .ok rest := by
            rw [readLiteral] at read
            split at read
            · exact ⟨‹_›, read⟩
            · cases read
          rw [same, induction read, List.cons_append]

theorem eq_of_readColon (read : readColon bytes = .ok rest) :
    ∃ before, Blank before ∧ bytes = before ++ colon :: rest := by
  obtain ⟨before, blank, same⟩ := eq_append_skipBlanks bytes
  unfold readColon at read
  split at read
  case h_1 => cases read
  case h_3 => cases read
  case h_2 tail found =>
    cases read
    exact ⟨before, blank, found ▸ same⟩

theorem eq_of_skipScalar (encoded : IsEncoded (b :: bytes)) (skipped : skipScalar b bytes = .ok rest) :
    ∃ value spelled, Spells value spelled ∧ b :: bytes = spelled ++ rest ∧ IsEncoded rest := by
  have literal {value : Value} {letters : List UInt8} (spelled : Spells value (b :: letters))
      (ascii : IsAscii (b :: letters)) (read : readLiteral letters bytes = .ok rest) :
      ∃ value spelled, Spells value spelled ∧ b :: bytes = spelled ++ rest ∧ IsEncoded rest := by
    have same := eq_of_readLiteral read
    rw [same, ← List.cons_append] at encoded
    exact ⟨value, _, spelled, by rw [same, List.cons_append], encoded.drop ascii⟩
  unfold skipScalar at skipped
  split at skipped
  case isTrue isNull =>
    subst isNull
    exact literal .null (by simp [IsAscii, nullTail]) skipped
  case isFalse =>
    split at skipped
    case isTrue isTrue =>
      subst isTrue
      exact literal .true (by simp [IsAscii, trueTail]) skipped
    case isFalse =>
      split at skipped
      case isTrue isFalse =>
        subst isFalse
        exact literal .false (by simp [IsAscii, falseTail]) skipped
      case isFalse =>
        split at skipped
        case isTrue isMinus =>
          subst isMinus
          obtain ⟨numeral, valid, rfl⟩ := eq_of_skipNumber skipped
          refine ⟨_, _, .number (.negative valid), rfl, ?_⟩
          exact (encoded.tail (by decide)).drop valid.ascii
        case isFalse =>
          split at skipped
          case isTrue digit =>
            obtain ⟨numeral, valid, same⟩ := eq_of_skipNumber skipped
            exact ⟨_, _, .number (.unsigned valid), same, (same ▸ encoded).drop valid.ascii⟩
          case isFalse =>
            split at skipped
            case isFalse => cases skipped
            case isTrue isQuote =>
              subst isQuote
              obtain ⟨pieces, rfl, encoded'⟩ := eq_of_skipString (encoded.tail (by decide)) skipped
              exact ⟨_, _, .text pieces, by simp [quoted], encoded'⟩

/-! The inside of a bracket, from its first part on. -/

def Bracket.Part (bracket : Bracket) (bytes : List UInt8) : Prop :=
  match bracket with
  | .list => ∃ value, Spells value bytes
  | .object => ∃ member, MemberOf Spells member bytes

def Bracket.Inside (bracket : Bracket) (bytes : List UInt8) : Prop :=
  match bracket with
  | .list => ∃ items, Separated Spells items bytes
  | .object => ∃ members, Separated (MemberOf Spells) members bytes

theorem Bracket.inside_last (part : bracket.Part bytes) (blank : Blank after) :
    bracket.Inside (bytes ++ after) := by
  cases bracket with
  | list =>
      obtain ⟨value, spelled⟩ := part
      exact ⟨[value], .last spelled blank⟩
  | object =>
      obtain ⟨member, spelled⟩ := part
      exact ⟨[member], .last spelled blank⟩

theorem Bracket.inside_more (part : bracket.Part bytes) (blank : Blank after)
    (blank' : Blank before) (others : bracket.Inside rest) :
    bracket.Inside (bytes ++ after ++ comma :: before ++ rest) := by
  cases bracket with
  | list =>
      obtain ⟨value, spelled⟩ := part
      obtain ⟨items, others⟩ := others
      exact ⟨value :: items, .more spelled blank blank' others⟩
  | object =>
      obtain ⟨member, spelled⟩ := part
      obtain ⟨members, others⟩ := others
      exact ⟨member :: members, .more spelled blank blank' others⟩

theorem Bracket.spells (known : Bracket.ofByte? b = some bracket) (blank : Blank before)
    (inside : bytes = [] ∨ bracket.Inside bytes) :
    ∃ value, Spells value (b :: before ++ bytes ++ [bracket.closing]) := by
  unfold Bracket.ofByte? at known
  split at known
  case h_3 => cases known
  case h_1 =>
    cases known
    rcases inside with rfl | ⟨items, parts⟩
    · exact ⟨_, by simpa using .emptyList blank⟩
    · exact ⟨_, .list blank parts⟩
  case h_2 =>
    cases known
    rcases inside with rfl | ⟨members, parts⟩
    · exact ⟨_, by simpa using .emptyObject blank⟩
    · exact ⟨_, .object blank parts⟩

theorem Bracket.ascii (known : Bracket.ofByte? b = some bracket) : b.toNat < 0x80 := by
  unfold Bracket.ofByte? at known
  split at known
  · decide
  · decide
  · cases known

theorem Bracket.closing_ascii (bracket : Bracket) : bracket.closing.toNat < 0x80 := by
  cases bracket <;> decide

theorem eq_of_skipKey (encoded : IsEncoded bytes) (found : skipKey bracket bytes = .ok next) :
    IsEncoded next ∧ ∃ lead, bytes = lead ++ next ∧
      ∀ gap value spelled, Blank gap → Spells value spelled →
        ∃ before part, Blank before ∧ bracket.Part part ∧ lead ++ gap ++ spelled = before ++ part := by
  cases bracket with
  | list =>
      cases found
      exact ⟨encoded, [], rfl, fun gap value spelled blank isSpelled =>
        ⟨gap, spelled, blank, ⟨value, isSpelled⟩, rfl⟩⟩
  | object =>
      obtain ⟨before, blank, same⟩ := eq_append_skipBlanks bytes
      simp only [skipKey] at found
      split at found
      case h_1 => cases found
      case h_2 b tail visible =>
        rw [visible] at same
        rw [same] at encoded
        split at found
        case isTrue => cases found
        case isFalse quote =>
          rw [Decidable.not_not.mp quote] at same encoded
          split at found
          case h_1 => cases found
          case h_2 rest skipped =>
            obtain ⟨name, rfl, encodedRest⟩ :=
              eq_of_skipString ((encoded.drop blank.ascii).tail (by decide)) skipped
            obtain ⟨after, blank', rfl⟩ := eq_of_readColon found
            refine ⟨(encodedRest.drop blank'.ascii).tail (by decide),
              before ++ (quoted name ++ after ++ [colon]), by simp [same, quoted], ?_⟩
            intro gap value spelled blankGap isSpelled
            exact ⟨before, _, blank, ⟨_, .mk name blank' blankGap isSpelled⟩, by simp⟩

/-- From where a value is due, what is passed over starts with one. -/
def ValueSound (rest bytes : List UInt8) : Prop :=
  ∀ around, skipFrom false around bytes = .ok rest →
    ∃ before value spelled next, Blank before ∧ Spells value spelled ∧
      bytes = before ++ spelled ++ next ∧ IsEncoded next ∧ skipFrom true around next = .ok rest

/-- From where a part has ended, what is passed over starts with the rest of its bracket. -/
def EndSound (rest bytes : List UInt8) : Prop :=
  ∀ bracket outer, skipFrom true (bracket :: outer) bytes = .ok rest →
    ∃ after next, (∀ part, bracket.Part part → bracket.Inside (part ++ after)) ∧
      bytes = after ++ bracket.closing :: next ∧ IsEncoded next ∧ skipFrom true outer next = .ok rest

private theorem inside_sound
    (sound : ∀ next, IsEncoded next → next.length ≤ bytes.length →
      ValueSound rest next ∧ EndSound rest next)
    (encoded : IsEncoded bytes) (found : skipKey bracket bytes = .ok next)
    (skipped : skipFrom false (bracket :: outer) next = .ok rest) :
    ∃ before inner last, Blank before ∧ bracket.Inside inner ∧
      bytes = before ++ inner ++ bracket.closing :: last ∧ IsEncoded last ∧
        skipFrom true outer last = .ok rest := by
  obtain ⟨encodedNext, lead, same, isPart⟩ := eq_of_skipKey encoded found
  have short : next.length ≤ bytes.length := skipKey_length found
  obtain ⟨gap, value, spelled, middle, blank, isSpelled, split, encodedMiddle, ended⟩ :=
    (sound next encodedNext short).1 _ skipped
  have shorter : middle.length ≤ bytes.length := by
    have length := congrArg List.length split
    simp only [List.length_append] at length
    omega
  obtain ⟨after, last, inside, split', encodedLast, skipped'⟩ :=
    (sound middle encodedMiddle shorter).2 _ _ ended
  obtain ⟨before, part, blank', partOf, lead'⟩ := isPart gap value spelled blank isSpelled
  refine ⟨before, part ++ after, last, blank', inside part partOf, ?_, encodedLast, skipped'⟩
  calc
    bytes = lead ++ gap ++ spelled ++ (after ++ bracket.closing :: last) := by
      rw [same, split, split']
      simp
    _ = before ++ (part ++ after) ++ bracket.closing :: last := by
      rw [lead']
      simp

theorem eq_of_skipOpening {closed : Bool} (opened : skipOpening bracket bytes = .ok (closed, next)) :
    ∃ gap, Blank gap ∧
      (closed = true ∧ bytes = gap ++ bracket.closing :: next ∨
        closed = false ∧ ∃ inner, bytes = gap ++ inner ∧ skipKey bracket inner = .ok next) := by
  obtain ⟨gap, blank, same⟩ := eq_append_skipBlanks bytes
  unfold skipOpening at opened
  split at opened
  case h_1 => cases opened
  case h_2 b tail visible =>
    rw [visible] at same
    split at opened
    case isTrue isEnd =>
      cases opened
      exact ⟨gap, blank, .inl ⟨rfl, isEnd ▸ same⟩⟩
    case isFalse =>
      split at opened
      case h_1 => cases opened
      case h_2 found =>
        cases opened
        exact ⟨gap, blank, .inr ⟨rfl, _, same, found⟩⟩

private theorem bracket_sound
    (sound : ∀ next, IsEncoded next → next.length ≤ bytes.length →
      ValueSound rest next ∧ EndSound rest next)
    (encoded : IsEncoded bytes) (known : Bracket.ofByte? b = some bracket) {closed : Bool}
    (opened : skipOpening bracket bytes = .ok (closed, next))
    (skipped : skipFrom closed (if closed then around else bracket :: around) next = .ok rest) :
    ∃ value spelled last, Spells value spelled ∧ b :: bytes = spelled ++ last ∧ IsEncoded last ∧
      skipFrom true around last = .ok rest := by
  obtain ⟨gap, blank, ⟨rfl, rfl⟩ | ⟨rfl, inner, rfl, found⟩⟩ := eq_of_skipOpening opened
  · obtain ⟨value, isSpelled⟩ := Bracket.spells known blank (.inl rfl)
    refine ⟨value, _, next, isSpelled, by simp, ?_, skipped⟩
    exact (encoded.drop blank.ascii).tail bracket.closing_ascii
  · have short (next : List UInt8) (le : next.length ≤ inner.length) :
        next.length ≤ (gap ++ inner).length := by
      rw [List.length_append]
      omega
    obtain ⟨gap', inner', last, blank', inside, same, encodedLast, skipped⟩ :=
      inside_sound (fun next encodedNext le => sound next encodedNext (short next le))
        (encoded.drop blank.ascii) found skipped
    obtain ⟨value, isSpelled⟩ := Bracket.spells known (blank.append blank') (.inr inside)
    exact ⟨value, _, last, isSpelled, by simp [same], encodedLast, skipped⟩

/-- What is passed over is as the grammar says. The induction is on the number of bytes. -/
theorem skipFrom_sound (rest bytes : List UInt8) (encoded : IsEncoded bytes) :
    ValueSound rest bytes ∧ EndSound rest bytes := by
  induction size : bytes.length using Nat.strongRecOn generalizing bytes with
  | ind n induction =>
    obtain ⟨before, blank, same⟩ := eq_append_skipBlanks bytes
    have sound {tail : List UInt8} (shorter : tail.length < n) :
        ∀ next, IsEncoded next → next.length ≤ tail.length →
          ValueSound rest next ∧ EndSound rest next :=
      fun next encodedNext short => induction _ (Nat.lt_of_le_of_lt short shorter) next encodedNext rfl
    -- Both at once: behind a value its bracket may end, and behind a comma a value is due.
    constructor
    case left =>
      intro around skipped
      rw [skipFrom_value] at skipped
      split at skipped
      case h_1 => cases skipped
      case h_2 b tail visible =>
        rw [visible] at same
        have encoded' : IsEncoded (b :: tail) := (same ▸ encoded).drop blank.ascii
        have shorter : tail.length < n := size ▸ skipBlanks_cons_length visible
        split at skipped
        case h_1 bracket known =>
          split at skipped
          case h_1 => cases skipped
          case h_2 closed next opened =>
            obtain ⟨value, spelled, last, isSpelled, split, encodedLast, skipped⟩ :=
              bracket_sound (sound shorter) (encoded'.tail (Bracket.ascii known)) known opened skipped
            refine ⟨before, value, spelled, last, blank, isSpelled, ?_, encodedLast, skipped⟩
            rw [same, split, List.append_assoc]
        case h_2 =>
          split at skipped
          case h_1 => cases skipped
          case h_2 next passed =>
            obtain ⟨value, spelled, isSpelled, split, encodedNext⟩ := eq_of_skipScalar encoded' passed
            refine ⟨before, value, spelled, next, blank, isSpelled, ?_, encodedNext, skipped⟩
            rw [same, split, List.append_assoc]
    case right =>
      intro bracket outer skipped
      rw [skipFrom_ended] at skipped
      split at skipped
      case h_1 => cases skipped
      case h_2 b tail visible =>
        rw [visible] at same
        have encoded' : IsEncoded (b :: tail) := (same ▸ encoded).drop blank.ascii
        have shorter : tail.length < n := size ▸ skipBlanks_cons_length visible
        split at skipped
        case isTrue isEnd =>
          subst isEnd
          exact ⟨before, tail, fun part isPart => Bracket.inside_last isPart blank, same,
            encoded'.tail bracket.closing_ascii, skipped⟩
        case isFalse =>
          split at skipped
          case isFalse => cases skipped
          case isTrue isComma =>
            subst isComma
            split at skipped
            case h_1 => cases skipped
            case h_2 found =>
              obtain ⟨gap, inner, last, blankGap, inside, sameTail, encodedLast, skipped⟩ :=
                inside_sound (sound shorter) (encoded'.tail (by decide)) found skipped
              refine ⟨before ++ comma :: gap ++ inner, last, fun part isPart => ?_, ?_, encodedLast,
                skipped⟩
              · have more := Bracket.inside_more isPart blank blankGap inside
                simpa using more
              · rw [same, sameTail]
                simp

theorem eq_of_skipValue (encoded : IsEncoded bytes) (skipped : skipValue bytes = .ok rest) :
    ∃ before value spelled, Blank before ∧ Spells value spelled ∧ bytes = before ++ spelled ++ rest := by
  obtain ⟨before, value, spelled, next, blank, isSpelled, same, -, ended⟩ :=
    (skipFrom_sound rest bytes encoded).1 [] skipped
  rw [skipFrom_done] at ended
  cases ended
  exact ⟨before, value, spelled, blank, isSpelled, same⟩

end

end Courier.Json
