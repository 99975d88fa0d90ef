import Courier.Json.Printer
import Courier.Proofs.Json.Strings

/-! Strings as they are printed: every text is spelled by a string that reads back as it. -/

namespace Courier.Json

theorem shortEscape?_of_shortEscapeOf? {c : Char} {letter : UInt8}
    (short : shortEscapeOf? c = some letter) : shortEscape? letter = some c := by
  unfold shortEscapeOf? at short
  (repeat' split at short) <;> cases short <;> subst c <;> rfl

theorem isPlainChar_or {c : Char} (long : shortEscapeOf? c = none) :
    isPlainChar c = true ∨ c.toNat < 32 := by
  by_cases control : c.toNat < 32
  · exact .inr control
  · unfold shortEscapeOf? at long
    split at long
    case isTrue => cases long
    case isFalse quote =>
      split at long
      case isTrue => cases long
      case isFalse escape =>
        left
        simp only [isPlainChar, Bool.and_eq_true, decide_eq_true_eq]
        exact ⟨⟨quote, escape⟩, Nat.not_lt.mp control⟩

def hexDigitOf (n : Nat) (small : n < 16) : HexDigit where
  byte := (Text.hexDigit n).toNat.toUInt8
  value := n
  spelled := by
    revert n
    decide

def controlUnit (c : Char) : CodeUnit where
  first := hexDigitOf 0 (by decide)
  second := hexDigitOf 0 (by decide)
  third := hexDigitOf (c.toNat / 16 % 16) (Nat.mod_lt _ (by decide))
  fourth := hexDigitOf (c.toNat % 16) (Nat.mod_lt _ (by decide))

theorem number_controlUnit {c : Char} (control : c.toNat < 32) :
    (controlUnit c).number = c.toNat := by
  simp only [CodeUnit.number, controlUnit, hexDigitOf]
  omega

theorem encodeChar_hexDigit {n : Nat} (small : n < 16) :
    Text.encodeChar (Text.hexDigit n) = [(Text.hexDigit n).toNat.toUInt8] := by
  revert n
  decide

theorem bytes_controlUnit {c : Char} (control : c.toNat < 32) :
    (controlUnit c).bytes =
      escapeMark :: 117 :: 48 :: 48 :: Text.encode (Text.hex [c.toNat.toUInt8]) := by
  have byte : c.toNat.toUInt8.toNat = c.toNat := Text.toNat_byte (by omega)
  have high : c.toNat / 16 % 16 = c.toNat / 16 := by omega
  simp only [Text.hex, Text.hexByte, List.flatMap_cons, List.flatMap_nil, List.append_nil, byte,
    Text.encode_cons, Text.encode_nil, encodeChar_hexDigit (show c.toNat / 16 < 16 by omega),
    encodeChar_hexDigit (show c.toNat % 16 < 16 by omega), CodeUnit.bytes, controlUnit, hexDigitOf,
    high]
  rfl

theorem exists_piece (c : Char) :
    ∃ piece : Piece, piece.bytes = printChar c ∧
      ∀ pieces, textOf? (piece :: pieces) = (textOf? pieces).map (c :: ·) := by
  unfold printChar
  split
  case h_1 letter short =>
    exact ⟨.short letter c (shortEscape?_of_shortEscapeOf? short), rfl, fun _ => rfl⟩
  case h_2 long =>
    rcases Nat.lt_or_ge c.toNat 32 with control | printing
    · have number := number_controlUnit control
      refine ⟨.unit (controlUnit c), ?_, fun pieces => ?_⟩
      · rw [if_pos control]
        exact bytes_controlUnit control
      · have notLow : ¬(controlUnit c).IsLow := by
          rw [CodeUnit.IsLow, number]
          omega
        have notHigh : ¬(controlUnit c).IsHigh := by
          rw [CodeUnit.IsHigh, number]
          omega
        rw [textOf?.eq_def]
        simp only [notLow, notHigh, if_false, number, Char.ofNat_toNat]
    · have plain : isPlainChar c = true :=
        (isPlainChar_or long).resolve_right (Nat.not_lt.mpr printing)
      refine ⟨.plain c plain, ?_, fun _ => rfl⟩
      rw [if_neg (Nat.not_lt.mpr printing)]
      rfl

theorem exists_pieces (text : List Char) :
    ∃ pieces, bytesOf pieces = text.flatMap printChar ∧ textOf? pieces = some text := by
  induction text with
  | nil => exact ⟨[], rfl, rfl⟩
  | cons c text induction =>
      obtain ⟨piece, bytes, spells⟩ := exists_piece c
      obtain ⟨pieces, bytes', spells'⟩ := induction
      refine ⟨piece :: pieces, ?_, ?_⟩
      · rw [bytesOf_cons, bytes, bytes', List.flatMap_cons]
      · rw [spells, spells', Option.map_some]

theorem spells_printString (text : List Char) :
    ∃ pieces, printString text = quoted pieces ∧ textOf? pieces = some text := by
  obtain ⟨pieces, bytes, spells⟩ := exists_pieces text
  exact ⟨pieces, by rw [printString, quoted, bytes], spells⟩

end Courier.Json
