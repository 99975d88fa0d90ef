/-! Bytes in lower-case hexadecimal, two digits a byte. -/

namespace Courier.Text

def hexDigit (n : Nat) : Char :=
  if n < 10 then Char.ofNat (48 + n) else Char.ofNat (87 + n)

def hexByte (b : UInt8) : List Char :=
  [hexDigit (b.toNat / 16), hexDigit (b.toNat % 16)]

def hex (bytes : List UInt8) : List Char :=
  bytes.flatMap hexByte

def hexValue? (c : Char) : Option Nat :=
  if c.isDigit then some (c.toNat - 48)
  else if 'a' ≤ c ∧ c ≤ 'f' then some (c.toNat - 87)
  else if 'A' ≤ c ∧ c ≤ 'F' then some (c.toNat - 55)
  else none

def isHexDigit (c : Char) : Bool :=
  (hexValue? c).isSome

theorem hex_length (bytes : List UInt8) : (hex bytes).length = 2 * bytes.length := by
  induction bytes with
  | nil => rfl
  | cons b bytes induction => simp_all [hex, hexByte]; omega

theorem exists_of_mem_hex {bytes : List UInt8} {c : Char} (member : c ∈ hex bytes) :
    ∃ n < 16, c = hexDigit n := by
  obtain ⟨byte, _, member⟩ := List.mem_flatMap.mp member
  have bound : byte.toNat < 256 := byte.toNat_lt
  simp only [hexByte, List.mem_cons, List.not_mem_nil, or_false] at member
  rcases member with rfl | rfl
  · exact ⟨byte.toNat / 16, by omega, rfl⟩
  · exact ⟨byte.toNat % 16, by omega, rfl⟩

private theorem isHexDigit_hexDigit : ∀ n < 16, isHexDigit (hexDigit n) = true := by decide

theorem isHexDigit_of_mem_hex {bytes : List UInt8} {c : Char} (member : c ∈ hex bytes) :
    isHexDigit c = true := by
  obtain ⟨n, small, rfl⟩ := exists_of_mem_hex member
  exact isHexDigit_hexDigit n small

theorem hex_ne_nil {bytes : List UInt8} (filled : bytes ≠ []) : hex bytes ≠ [] := by
  have length := hex_length bytes
  have positive := List.length_pos_iff.mpr filled
  exact List.ne_nil_of_length_pos (by omega)

end Courier.Text
