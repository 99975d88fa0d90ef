import Courier.Json.Skip

/-! The grammar of JSON texts, as bytes: which value a text spells. A value can be spelled in many ways,
as blanks may stand between its parts, and the characters of a string may be escaped. -/

namespace Courier.Json

def Blank (bytes : List UInt8) : Prop := ∀ b ∈ bytes, isBlank b = true

inductive Digits : List UInt8 → Prop where
  | mk {b : UInt8} {rest : List UInt8} (first : isDigit b = true)
      (others : ∀ b ∈ rest, isDigit b = true) : Digits (b :: rest)

inductive IsWhole : List UInt8 → Prop where
  | zero : IsWhole [48]
  | digits {b : UInt8} {rest : List UInt8} (first : isDigit b = true) (positive : b ≠ 48)
      (others : ∀ b ∈ rest, isDigit b = true) : IsWhole (b :: rest)

inductive IsFraction : List UInt8 → Prop where
  | none : IsFraction []
  | digits {bytes : List UInt8} (digits : Digits bytes) : IsFraction (point :: bytes)

inductive IsExponent : List UInt8 → Prop where
  | none : IsExponent []
  | digits {mark : UInt8} {sign bytes : List UInt8} (marked : isExponentMark mark = true)
      (signed : sign = [] ∨ sign = [plus] ∨ sign = [minus]) (digits : Digits bytes) :
      IsExponent (mark :: sign ++ bytes)

inductive IsUnsigned : List UInt8 → Prop where
  | mk {whole fraction exponent : List UInt8} (hasWhole : IsWhole whole)
      (hasFraction : IsFraction fraction) (hasExponent : IsExponent exponent) :
      IsUnsigned (whole ++ fraction ++ exponent)

inductive IsNumeral : List UInt8 → Prop where
  | unsigned {bytes : List UInt8} (digits : IsUnsigned bytes) : IsNumeral bytes
  | negative {bytes : List UInt8} (digits : IsUnsigned bytes) : IsNumeral (minus :: bytes)

structure HexDigit where
  byte : UInt8
  value : Nat
  spelled : hexNibble? byte = some value

structure CodeUnit where
  first : HexDigit
  second : HexDigit
  third : HexDigit
  fourth : HexDigit

namespace CodeUnit

def number (u : CodeUnit) : Nat :=
  u.first.value * 4096 + u.second.value * 256 + u.third.value * 16 + u.fourth.value

def bytes (u : CodeUnit) : List UInt8 :=
  [escapeMark, 117, u.first.byte, u.second.byte, u.third.byte, u.fourth.byte]

def IsHigh (u : CodeUnit) : Prop := 0xd800 ≤ u.number ∧ u.number < 0xdc00

def IsLow (u : CodeUnit) : Prop := 0xdc00 ≤ u.number ∧ u.number ≤ 0xdfff

instance (u : CodeUnit) : Decidable u.IsHigh := inferInstanceAs (Decidable (_ ∧ _))

instance (u : CodeUnit) : Decidable u.IsLow := inferInstanceAs (Decidable (_ ∧ _))

end CodeUnit

def paired (high low : CodeUnit) : Char :=
  Char.ofNat ((high.number - 0xd800) * 1024 + (low.number - 0xdc00) + 0x10000)

def isPlainChar (c : Char) : Bool := c ≠ '"' && c ≠ '\\' && 32 ≤ c.toNat

inductive Piece where
  | plain (c : Char) (plain : isPlainChar c = true)
  | short (letter : UInt8) (c : Char) (known : shortEscape? letter = some c)
  | unit (u : CodeUnit)

namespace Piece

def bytes : Piece → List UInt8
  | .plain c _ => Text.encodeChar c
  | .short letter _ _ => [escapeMark, letter]
  | .unit u => u.bytes

end Piece

def bytesOf (pieces : List Piece) : List UInt8 := pieces.flatMap Piece.bytes

/-- The text that a string spells. There is none where half a pair of surrogates stands alone. -/
def textOf? : List Piece → Option (List Char)
  | [] => some []
  | .plain c _ :: pieces => (textOf? pieces).map (c :: ·)
  | .short _ c _ :: pieces => (textOf? pieces).map (c :: ·)
  | .unit u :: pieces =>
      if u.IsLow then none
      else if u.IsHigh then
        match pieces with
        | .unit low :: pieces =>
            if low.IsLow then (textOf? pieces).map (paired u low :: ·) else none
        | _ => none
      else (textOf? pieces).map (Char.ofNat u.number :: ·)

def quoted (pieces : List Piece) : List UInt8 := quoteMark :: bytesOf pieces ++ [quoteMark]

inductive Value where
  | null
  | boolean (value : Bool)
  | number (numeral : List UInt8)
  | text (text? : Option (List Char))
  | list (items : List Value)
  | object (members : List (Option (List Char) × Value))

/-- One or more parts with commas between them. Blanks may stand around a comma and at the end. -/
inductive Separated {α : Type} (One : α → List UInt8 → Prop) : List α → List UInt8 → Prop where
  | last {a : α} {bytes after : List UInt8} (one : One a bytes) (blank : Blank after) :
      Separated One [a] (bytes ++ after)
  | more {a : α} {as : List α} {bytes after before rest : List UInt8} (one : One a bytes)
      (blank : Blank after) (blank' : Blank before) (others : Separated One as rest) :
      Separated One (a :: as) (bytes ++ after ++ comma :: before ++ rest)

inductive MemberOf (One : Value → List UInt8 → Prop) :
    Option (List Char) × Value → List UInt8 → Prop where
  | mk {value : Value} {after before bytes : List UInt8} (name : List Piece) (blank : Blank after)
      (blank' : Blank before) (one : One value bytes) :
      MemberOf One (textOf? name, value) (quoted name ++ after ++ colon :: before ++ bytes)

/-- `Spells value bytes`: the bytes are a text for the value, without blanks around it. -/
inductive Spells : Value → List UInt8 → Prop where
  | null : Spells .null (110 :: nullTail)
  | true : Spells (.boolean .true) (116 :: trueTail)
  | false : Spells (.boolean .false) (102 :: falseTail)
  | number {numeral : List UInt8} (valid : IsNumeral numeral) : Spells (.number numeral) numeral
  | text (pieces : List Piece) : Spells (.text (textOf? pieces)) (quoted pieces)
  | emptyList {inner : List UInt8} (blank : Blank inner) :
      Spells (.list []) (openList :: inner ++ [closeList])
  | list {items : List Value} {before inner : List UInt8} (blank : Blank before)
      (parts : Separated Spells items inner) :
      Spells (.list items) (openList :: before ++ inner ++ [closeList])
  | emptyObject {inner : List UInt8} (blank : Blank inner) :
      Spells (.object []) (openObject :: inner ++ [closeObject])
  | object {members : List (Option (List Char) × Value)} {before inner : List UInt8}
      (blank : Blank before) (parts : Separated (MemberOf Spells) members inner) :
      Spells (.object members) (openObject :: before ++ inner ++ [closeObject])

/-- A whole text for a value. -/
inductive IsText : Value → List UInt8 → Prop where
  | mk {value : Value} {before inner after : List UInt8} (blank : Blank before)
      (spelled : Spells value inner) (blank' : Blank after) :
      IsText value (before ++ inner ++ after)

theorem MemberOf.named {One : Value → List UInt8 → Prop} {value : Value} {text : List Char}
    {after before bytes : List UInt8} (name : List Piece) (spells : textOf? name = some text)
    (blank : Blank after) (blank' : Blank before) (one : One value bytes) :
    MemberOf One (some text, value) (quoted name ++ after ++ colon :: before ++ bytes) :=
  spells ▸ .mk name blank blank' one

namespace Spells

theorem string (pieces : List Piece) {text? : Option (List Char)} (spells : textOf? pieces = text?) :
    Spells (.text text?) (quoted pieces) :=
  spells ▸ .text pieces

theorem induct {P : Value → List UInt8 → Prop} (null : P .null (110 :: nullTail))
    (true : P (.boolean .true) (116 :: trueTail)) (false : P (.boolean .false) (102 :: falseTail))
    (number : ∀ numeral, IsNumeral numeral → P (.number numeral) numeral)
    (text : ∀ pieces, P (.text (textOf? pieces)) (quoted pieces))
    (emptyList : ∀ inner, Blank inner → P (.list []) (openList :: inner ++ [closeList]))
    (list : ∀ items before inner, Blank before →
      Separated (fun value bytes => Spells value bytes ∧ P value bytes) items inner →
        P (.list items) (openList :: before ++ inner ++ [closeList]))
    (emptyObject : ∀ inner, Blank inner → P (.object []) (openObject :: inner ++ [closeObject]))
    (object : ∀ members before inner, Blank before →
      Separated (MemberOf fun value bytes => Spells value bytes ∧ P value bytes) members inner →
        P (.object members) (openObject :: before ++ inner ++ [closeObject]))
    {value : Value} {bytes : List UInt8} (spelled : Spells value bytes) : P value bytes :=
  @Spells.rec (fun value bytes _ => P value bytes)
    (fun items inner _ =>
      Separated (fun value bytes => Spells value bytes ∧ P value bytes) items inner)
    (fun members inner _ =>
      Separated (MemberOf fun value bytes => Spells value bytes ∧ P value bytes) members inner)
    (fun member bytes _ =>
      MemberOf (fun value bytes => Spells value bytes ∧ P value bytes) member bytes)
    null true false (number _) text (emptyList _) (fun blank _ => list _ _ _ blank)
    (emptyObject _) (fun blank _ => object _ _ _ blank)
    (fun one blank known => .last ⟨one, known⟩ blank)
    (fun one blank blank' _ known others => .more ⟨one, known⟩ blank blank' others)
    (fun _ blank known => .last known blank)
    (fun _ blank blank' _ known others => .more known blank blank' others)
    (fun name blank blank' one known => .mk name blank blank' ⟨one, known⟩) value bytes spelled

end Spells

end Courier.Json
