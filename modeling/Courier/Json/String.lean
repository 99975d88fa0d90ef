import Courier.Json.Fault
import Courier.Text.Hex
import Courier.Text.Utf8

/-! JSON strings: read after their opening quote. -/

namespace Courier.Json

def isPlain (b : UInt8) : Bool := b ≠ quoteMark && b ≠ escapeMark && 32 ≤ b

def hexNibble? (b : UInt8) : Option Nat := Text.hexValue? (Char.ofNat b.toNat)

def readHex (bytes : List UInt8) : Except Fault (Nat × List UInt8) :=
  match bytes with
  | a :: b :: c :: d :: rest =>
      match hexNibble? a, hexNibble? b, hexNibble? c, hexNibble? d with
      | some a, some b, some c, some d => .ok (a * 4096 + b * 256 + c * 16 + d, rest)
      | _, _, _, _ => .error (.before .badEscape rest)
  | _ => .error (.before .endInString [])

def readLowSurrogate (high : Nat) (bytes : List UInt8) : Except Fault (Char × List UInt8) :=
  match bytes with
  | [] => .error (.before .endInString [])
  | b :: rest =>
      if b ≠ escapeMark then .error (.before .unexpectedEscapeEnd rest)
      else
        match rest with
        | [] => .error (.before .endInString [])
        | u :: digits =>
            if u ≠ 117 then .error (.before .unexpectedEscapeEnd digits)
            else
              match readHex digits with
              | .error e => .error e
              | .ok (low, rest) =>
                  if low < 0xdc00 ∨ 0xdfff < low then .error (.before .loneSurrogate rest)
                  else
                    .ok (Char.ofNat ((high - 0xd800) * 1024 + (low - 0xdc00) + 0x10000), rest)

def readCodeUnit (bytes : List UInt8) : Except Fault (Char × List UInt8) :=
  match readHex bytes with
  | .error e => .error e
  | .ok (n, rest) =>
      if 0xdc00 ≤ n ∧ n ≤ 0xdfff then .error (.before .loneSurrogate rest)
      else if 0xd800 ≤ n ∧ n < 0xdc00 then readLowSurrogate n rest
      else .ok (Char.ofNat n, rest)

def shortEscape? : UInt8 → Option Char
  | 34 => some '"'
  | 92 => some '\\'
  | 47 => some '/'
  | 98 => some '\x08'
  | 102 => some '\x0c'
  | 110 => some '\n'
  | 114 => some '\r'
  | 116 => some '\t'
  | _ => none

def readEscape (bytes : List UInt8) : Except Fault (Char × List UInt8) :=
  match bytes with
  | [] => .error (.before .endInString [])
  | b :: rest =>
      match shortEscape? b with
      | some c => .ok (c, rest)
      | none => if b = 117 then readCodeUnit rest else .error (.before .badEscape rest)

theorem readHex_length {bytes rest : List UInt8} {n : Nat}
    (read : readHex bytes = .ok (n, rest)) : rest.length < bytes.length := by
  unfold readHex at read
  repeat' split at read
  all_goals simp at read
  simp [read.2]
  omega

theorem readCodeUnit_length {bytes rest : List UInt8} {c : Char}
    (read : readCodeUnit bytes = .ok (c, rest)) : rest.length < bytes.length := by
  unfold readCodeUnit at read
  split at read
  · simp at read
  · rename_i n tail hex
    have shorter := readHex_length hex
    repeat' split at read
    · simp at read
    · unfold readLowSurrogate at read
      repeat' split at read
      all_goals simp at read
      rename_i low _
      have := readHex_length low
      simp only [List.length_cons] at shorter
      rw [← read.2]
      omega
    · simp at read
      rw [← read.2]
      exact shorter

theorem readEscape_length {bytes rest : List UInt8} {c : Char}
    (read : readEscape bytes = .ok (c, rest)) : rest.length < bytes.length := by
  unfold readEscape at read
  repeat' split at read
  · simp at read
  · simp at read
    simp [read.2]
  · have := readCodeUnit_length read
    simp only [List.length_cons]
    omega
  · simp at read

private theorem rest_length {bytes rest : List UInt8} {mark : UInt8}
    (next : bytes.dropWhile isPlain = mark :: rest) : rest.length < bytes.length := by
  have shorter : (bytes.dropWhile isPlain).length ≤ bytes.length :=
    (List.dropWhile_sublist _).length_le
  rw [next, List.length_cons] at shorter
  omega

def readString (bytes : List UInt8) : Except Fault (List Char × List UInt8) :=
  let plain := bytes.takeWhile isPlain
  match _ : bytes.dropWhile isPlain with
  | [] => .error (.before .endInString [])
  | mark :: rest =>
      if mark = quoteMark ∨ mark = escapeMark then
        match Text.decode? plain with
        | none => .error ⟨.badCodePoint, bytes.length - Text.validLength plain - 1⟩
        | some text =>
            if mark = quoteMark then .ok (text, rest)
            else
              match _ : readEscape rest with
              | .error e => .error e
              | .ok (c, tail) =>
                  match readString tail with
                  | .error e => .error e
                  | .ok (more, tail) => .ok (text ++ c :: more, tail)
      else .error (.before .controlCharacter rest)
termination_by bytes.length
decreasing_by exact Nat.lt_trans (readEscape_length (by assumption)) (rest_length (by assumption))

theorem readString_length {bytes rest : List UInt8} {text : List Char}
    (read : readString bytes = .ok (text, rest)) : rest.length < bytes.length := by
  induction size : bytes.length using Nat.strongRecOn generalizing bytes rest text with
  | ind n induction =>
    rw [readString] at read
    split at read
    · simp at read
    · rename_i next
      have shorter := rest_length next
      repeat' split at read
      · simp at read
      · simp only [Except.ok.injEq, Prod.mk.injEq] at read
        rw [← read.2, ← size]
        exact shorter
      · simp at read
      · simp at read
      · rename_i escape _ _ _ others
        have shorter := readEscape_length escape
        simp only [Except.ok.injEq, Prod.mk.injEq] at read
        have := induction _ (by omega) others rfl
        rw [← read.2]
        omega
      · simp at read

def skipEscape (bytes : List UInt8) : Except Fault (List UInt8) :=
  match bytes with
  | [] => .error (.before .endInString [])
  | b :: rest =>
      if (shortEscape? b).isSome then .ok rest
      else if b = 117 then
        match readHex rest with
        | .error e => .error e
        | .ok (_, rest) => .ok rest
      else .error (.before .badEscape rest)

theorem skipEscape_length {bytes rest : List UInt8} (skipped : skipEscape bytes = .ok rest) :
    rest.length < bytes.length := by
  unfold skipEscape at skipped
  repeat' split at skipped
  all_goals simp at skipped
  · simp [skipped]
  · rename_i hex
    have := readHex_length hex
    simp only [List.length_cons, ← skipped]
    omega

/-- Passes over a string that is not read. Its bytes need not spell a text. -/
def skipString (bytes : List UInt8) : Except Fault (List UInt8) :=
  match _ : bytes.dropWhile isPlain with
  | [] => .error (.before .endInString [])
  | mark :: rest =>
      if mark = quoteMark then .ok rest
      else if mark = escapeMark then
        match _ : skipEscape rest with
        | .error e => .error e
        | .ok tail => skipString tail
      else .error (.before .controlCharacter (mark :: rest))
termination_by bytes.length
decreasing_by exact Nat.lt_trans (skipEscape_length (by assumption)) (rest_length (by assumption))

theorem skipString_length {bytes rest : List UInt8} (skipped : skipString bytes = .ok rest) :
    rest.length < bytes.length := by
  induction size : bytes.length using Nat.strongRecOn generalizing bytes rest with
  | ind n induction =>
    rw [skipString] at skipped
    split at skipped
    · simp at skipped
    · rename_i next
      have shorter := rest_length next
      repeat' split at skipped
      · simp only [Except.ok.injEq] at skipped
        rw [← skipped, ← size]
        exact shorter
      · simp at skipped
      · rename_i escape
        have shorter := skipEscape_length escape
        have := induction _ (by omega) skipped rfl
        omega
      · simp at skipped

end Courier.Json
