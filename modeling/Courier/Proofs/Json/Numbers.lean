import Courier.Proofs.Json.Grammar

/-! Numbers that are passed over. What is passed over is the longest number that stands there. -/

namespace Courier.Json

def EndsNumber (rest : List UInt8) : Prop :=
  ∀ b ∈ rest.head?, isDigit b = false ∧ b ≠ point ∧ isExponentMark b = false

theorem skipDigits_append (digits : List UInt8) {rest : List UInt8}
    (all : ∀ b ∈ digits, isDigit b = true)
    (ends : ∀ b ∈ rest.head?, isDigit b = false) : skipDigits (digits ++ rest) = rest := by
  rw [skipDigits, List.dropWhile_append_of_pos all]
  cases rest with
  | nil => rfl
  | cons b rest =>
      have stops := ends b rfl
      exact List.dropWhile_cons_of_neg (by simp [stops])

theorem eq_append_skipDigits (bytes : List UInt8) :
    ∃ digits, (∀ b ∈ digits, isDigit b = true) ∧ bytes = digits ++ skipDigits bytes :=
  ⟨bytes.takeWhile isDigit, List.all_eq_true.mp List.all_takeWhile,
    List.takeWhile_append_dropWhile.symm⟩

section

variable {bytes rest whole fraction exponent sign : List UInt8}

theorem Digits.notSign {b : UInt8} (first : isDigit b = true) : b ≠ plus ∧ b ≠ minus := by
  constructor
  · rintro rfl
    cases first
  · rintro rfl
    cases first

theorem readSign_append (signed : sign = [] ∨ sign = [plus] ∨ sign = [minus])
    (digits : Digits bytes) (rest : List UInt8) :
    (readSign (sign ++ bytes ++ rest)).2 = bytes ++ rest := by
  rcases signed with rfl | rfl | rfl
  · obtain ⟨first, others⟩ := digits
    obtain ⟨notPlus, notMinus⟩ := Digits.notSign first
    simp [readSign, notPlus, notMinus]
  · rfl
  · rfl

theorem skipScale_exponent (valid : IsExponent exponent) (ends : EndsNumber rest) :
    skipScale (exponent ++ rest) = .ok rest := by
  cases valid with
  | none =>
      cases rest with
      | nil => rfl
      | cons b rest => simp [skipScale, (ends b rfl).2.2]
  | digits marked signed digits =>
      have afterSign := readSign_append signed digits rest
      obtain ⟨first, others⟩ := digits
      have passed := skipDigits_append _ others fun b next => (ends b next).1
      rw [List.cons_append, List.cons_append, skipScale, if_pos marked, skipExponent, afterSign,
        List.cons_append]
      simp only [first, if_true, passed]

private def skipFraction (bytes : List UInt8) : Except Fault (List UInt8) :=
  match bytes with
  | point :: fraction =>
      if fraction.head?.any isDigit then skipScale (skipDigits fraction)
      else .error (.at .badNumber fraction)
  | tail => skipScale tail

private theorem skipFraction_point (fraction : List UInt8) : skipFraction (point :: fraction) =
    if fraction.head?.any isDigit then skipScale (skipDigits fraction)
    else .error (.at .badNumber fraction) := rfl

theorem IsExponent.head (valid : IsExponent exponent) (ends : EndsNumber rest) :
    ∀ b ∈ (exponent ++ rest).head?, isDigit b = false ∧ b ≠ point := by
  cases valid with
  | none => exact fun b next => ⟨(ends b next).1, (ends b next).2.1⟩
  | @digits mark sign bytes marked signed digits =>
      rintro b ⟨rfl⟩
      simp only [isExponentMark, Bool.or_eq_true, decide_eq_true_eq] at marked
      rcases marked with rfl | rfl <;> exact ⟨rfl, by decide⟩

private theorem skipFraction_append (hasFraction : IsFraction fraction)
    (hasExponent : IsExponent exponent) (ends : EndsNumber rest) :
    skipFraction (fraction ++ (exponent ++ rest)) = .ok rest := by
  have head := hasExponent.head ends
  have scale := skipScale_exponent hasExponent ends
  cases hasFraction with
  | none =>
      rw [List.nil_append]
      unfold skipFraction
      split
      case h_1 fraction same =>
        rw [same] at head
        exact absurd rfl (head point rfl).2
      case h_2 => exact scale
  | digits digits =>
      obtain ⟨first, others⟩ := digits
      have passed := skipDigits_append (_ :: _) (List.forall_mem_cons.mpr ⟨first, others⟩)
        fun b next => (head b next).1
      rw [List.cons_append, skipFraction_point, passed, if_pos (by simp [first]), scale]

private theorem skipNumber_whole {tail : List UInt8} (hasWhole : IsWhole whole)
    (ends : ∀ b ∈ tail.head?, isDigit b = false) :
    skipNumber (whole ++ tail) = skipFraction tail := by
  cases hasWhole with
  | zero =>
      have alone : ¬tail.head?.any isDigit = true := by
        cases tail with
        | nil => simp
        | cons b tail => simp [ends b rfl]
      have passed : skipDigits tail = tail := skipDigits_append [] (by simp) ends
      simp only [List.cons_append, List.nil_append, skipNumber, alone, passed]
      rfl
  | digits first positive others =>
      have passed := skipDigits_append _ others ends
      simp only [List.cons_append, skipNumber, first, positive, false_and, if_false, passed]
      rfl

theorem skipNumber_append (valid : IsUnsigned bytes) (ends : EndsNumber rest) :
    skipNumber (bytes ++ rest) = .ok rest := by
  obtain ⟨hasWhole, hasFraction, hasExponent⟩ := valid
  rw [List.append_assoc, List.append_assoc, skipNumber_whole hasWhole]
  · exact skipFraction_append hasFraction hasExponent ends
  · cases hasFraction with
    | none => exact fun b next => (hasExponent.head ends b next).1
    | digits => rintro b ⟨rfl⟩; rfl

/-! What is passed over is a number. -/

theorem eq_of_skipExponent (skipped : skipExponent bytes = .ok rest) :
    ∃ sign digits, (sign = [] ∨ sign = [plus] ∨ sign = [minus]) ∧ Digits digits ∧
      bytes = sign ++ digits ++ rest := by
  have signed : ∃ sign, (sign = [] ∨ sign = [plus] ∨ sign = [minus]) ∧
      bytes = sign ++ (readSign bytes).2 := by
    unfold readSign
    split
    · exact ⟨_, .inr (.inl rfl), rfl⟩
    · exact ⟨_, .inr (.inr rfl), rfl⟩
    · exact ⟨_, .inl rfl, rfl⟩
  obtain ⟨sign, signs, same⟩ := signed
  unfold skipExponent at skipped
  split at skipped
  case h_1 => cases skipped
  case h_2 b tail next =>
    split at skipped
    case isFalse => cases skipped
    case isTrue first =>
      cases skipped
      obtain ⟨digits, others, split⟩ := eq_append_skipDigits tail
      refine ⟨sign, b :: digits, signs, ⟨first, others⟩, ?_⟩
      rw [next, split] at same
      rw [same]
      simp

theorem eq_of_skipScale (skipped : skipScale bytes = .ok rest) :
    ∃ exponent, IsExponent exponent ∧ bytes = exponent ++ rest := by
  unfold skipScale at skipped
  split at skipped
  case h_1 mark tail =>
    split at skipped
    case isTrue marked =>
      obtain ⟨sign, digits, signed, valid, rfl⟩ := eq_of_skipExponent skipped
      exact ⟨_, .digits marked signed valid, by simp⟩
    case isFalse =>
      cases skipped
      exact ⟨[], .none, rfl⟩
  case h_2 =>
    cases skipped
    exact ⟨[], .none, rfl⟩

private theorem eq_of_skipFraction (skipped : skipFraction bytes = .ok rest) :
    ∃ fraction exponent, IsFraction fraction ∧ IsExponent exponent ∧
      bytes = fraction ++ exponent ++ rest := by
  unfold skipFraction at skipped
  split at skipped
  case h_2 =>
    obtain ⟨exponent, valid, rfl⟩ := eq_of_skipScale skipped
    exact ⟨[], exponent, .none, valid, rfl⟩
  case h_1 fraction =>
    split at skipped
    case isFalse => cases skipped
    case isTrue first =>
      cases fraction with
      | nil => cases first
      | cons b fraction =>
          have first : isDigit b = true := first
          obtain ⟨digits, others, split⟩ := eq_append_skipDigits fraction
          rw [skipDigits, List.dropWhile_cons_of_pos first] at skipped
          obtain ⟨exponent, valid, same⟩ := eq_of_skipScale skipped
          refine ⟨point :: b :: digits, exponent, .digits ⟨first, others⟩, valid, ?_⟩
          rw [split, skipDigits, same]
          simp

theorem eq_of_skipNumber (skipped : skipNumber bytes = .ok rest) :
    ∃ numeral, IsUnsigned numeral ∧ bytes = numeral ++ rest := by
  unfold skipNumber at skipped
  split at skipped
  case h_1 => cases skipped
  case h_2 b tail =>
    split at skipped
    case isTrue => cases skipped
    case isFalse first =>
      rw [Bool.not_eq_true', Bool.not_eq_false] at first
      split at skipped
      case isTrue => cases skipped
      case isFalse alone =>
        obtain ⟨digits, others, split⟩ := eq_append_skipDigits tail
        have skipped : skipFraction (skipDigits tail) = .ok rest := skipped
        obtain ⟨fraction, exponent, hasFraction, hasExponent, same⟩ := eq_of_skipFraction skipped
        by_cases zero : b = 48
        · cases digits with
          | nil =>
              refine ⟨_, ⟨.zero, hasFraction, hasExponent⟩, ?_⟩
              rw [zero, split, same]
              simp
          | cons d digits =>
              have next := others d List.mem_cons_self
              rw [split] at alone
              exact absurd ⟨zero, by simp [next]⟩ alone
        · refine ⟨_, ⟨.digits first zero others, hasFraction, hasExponent⟩, ?_⟩
          rw [split, same]
          simp

end

end Courier.Json
