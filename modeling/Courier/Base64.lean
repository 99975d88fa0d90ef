/-! Bytes in base 64, over the standard alphabet and padded with `=` to a multiple of four symbols.
Reading accepts the one spelling that writing gives: no other length of padding, and no bits left
over that are not zero. -/

namespace Courier.Base64

def symbol (n : Nat) : UInt8 :=
  if n < 26 then (65 + n).toUInt8
  else if n < 52 then (71 + n).toUInt8
  else if n < 62 then (n - 4).toUInt8
  else if n = 62 then 43
  else 47

def value? (b : UInt8) : Option Nat :=
  let n := b.toNat
  if 65 ≤ n ∧ n ≤ 90 then some (n - 65)
  else if 97 ≤ n ∧ n ≤ 122 then some (n - 71)
  else if 48 ≤ n ∧ n ≤ 57 then some (n + 4)
  else if n = 43 then some 62
  else if n = 47 then some 63
  else none

def padding : UInt8 := 61

def encode : List UInt8 → List UInt8
  | [] => []
  | [a] => [symbol (a.toNat / 4), symbol (a.toNat % 4 * 16), padding, padding]
  | [a, b] =>
      [symbol (a.toNat / 4), symbol (a.toNat % 4 * 16 + b.toNat / 16),
        symbol (b.toNat % 16 * 4), padding]
  | a :: b :: c :: bytes =>
      symbol (a.toNat / 4) :: symbol (a.toNat % 4 * 16 + b.toNat / 16) ::
        symbol (b.toNat % 16 * 4 + c.toNat / 64) :: symbol (c.toNat % 64) :: encode bytes

inductive DecodeError where
  | invalidByte (byte : UInt8) (offset : Nat)
  | oddSymbol
  | invalidLastSymbol (byte : UInt8) (offset : Nat)
  | invalidPadding
  deriving DecidableEq, Repr

def DecodeError.message : DecodeError → String
  | .invalidByte byte offset => s!"Invalid byte {byte}, offset {offset}."
  | .oddSymbol => "Encoded text cannot have a 6-bit remainder."
  | .invalidLastSymbol byte offset => s!"Invalid last symbol {byte}, offset {offset}."
  | .invalidPadding => "Invalid padding"

def groups (offset : Nat) : List UInt8 → Except DecodeError (List Nat)
  | [] => .ok []
  | b :: symbols =>
      match value? b with
      | none => .error (.invalidByte b offset)
      | some v => (groups (offset + 1) symbols).map (v :: ·)

structure Ending where
  values : List Nat
  last : UInt8
  padded : Nat
  firstPad : Nat
  deriving DecidableEq, Repr

def ending (start : Nat) (seen : Ending) (place : Nat) :
    List UInt8 → Except DecodeError Ending
  | [] => .ok seen
  | b :: symbols =>
      if b = padding then
        if place % 4 < 2 then
          .error (.invalidByte padding (start + if 0 < seen.padded then seen.firstPad else place))
        else
          ending start
            { seen with
              padded := seen.padded + 1
              firstPad := if seen.padded = 0 then place else seen.firstPad }
            (place + 1) symbols
      else if 0 < seen.padded then .error (.invalidByte padding (start + seen.firstPad))
      else
        match value? b with
        | none => .error (.invalidByte b (start + place))
        | some v =>
            ending start { seen with values := seen.values ++ [v], last := b } (place + 1) symbols

def joined : List Nat → List UInt8
  | a :: b :: c :: d :: values =>
      (a * 4 + b / 16).toUInt8 :: (b % 16 * 16 + c / 4).toUInt8 :: (c % 4 * 64 + d).toUInt8 ::
        joined values
  | [a, b, c] => [(a * 4 + b / 16).toUInt8, (b % 16 * 16 + c / 4).toUInt8]
  | [a, b] => [(a * 4 + b / 16).toUInt8]
  | _ => []

def leftOver : List Nat → Nat
  | _ :: _ :: _ :: _ :: values => leftOver values
  | [_, _, c] => c % 4
  | [_, b] => b % 16
  | _ => 0

def Ending.bytes? (start : Nat) (seen : Ending) : Except DecodeError (List UInt8) :=
  let count := seen.values.length
  if 0 < count ∧ count < 2 then .error .oddSymbol
  else if (seen.padded + count) % 4 ≠ 0 then .error .invalidPadding
  else if leftOver seen.values ≠ 0 then
    .error (.invalidLastSymbol seen.last (start + count - 1))
  else .ok (joined seen.values)

/-- The length of the part that is read in groups of eight: all but the last one to eight. -/
def strictLength (length : Nat) : Nat := (length - 1) / 8 * 8

def decode (symbols : List UInt8) : Except DecodeError (List UInt8) :=
  let length := symbols.length
  let last := symbols.getLast?.getD padding
  if length % 8 = 1 ∨ length % 8 = 5 then
    if last ≠ padding ∧ value? last = none then .error (.invalidByte last (length - 1))
    else .error .oddSymbol
  else
    let start := strictLength length
    match groups 0 (symbols.take start) with
    | .error e => .error e
    | .ok values =>
        match ending start ⟨[], 0, 0, 0⟩ 0 (symbols.drop start) with
        | .error e => .error e
        | .ok seen => (seen.bytes? start).map (joined values ++ ·)

end Courier.Base64
