import Courier.Number.Power
import Courier.Number.Rounding

/-! Binary floating point numbers of 64 bits as exact numbers. -/

namespace Courier.Number

structure Binary where
  significand : Nat
  exponent : Int
  /-- The gap to the number below is half the gap to the number above. -/
  narrowBelow : Bool
  deriving DecidableEq, Repr

def Binary.ofFloat (x : Float) : Binary :=
  let bits := x.toBits
  let exponent := ((bits >>> 52) &&& 0x7ff).toNat
  let fraction := (bits &&& 0xfffffffffffff).toNat
  if exponent = 0 then ⟨fraction, -1074, false⟩
  else ⟨limit 52 + fraction, (exponent : Int) - 1075, fraction = 0 && exponent > 1⟩

def isInfinite (x : Float) : Bool :=
  (x.toBits &&& 0x7fffffffffffffff) == 0x7ff0000000000000

def isNegative (x : Float) : Bool :=
  x.toBits >>> 63 == 1

def Binary.scaled (x : Binary) (places : Nat) (tie : Tie) : Nat :=
  roundDiv (x.significand * power 10 places * power 2 x.exponent.toNat)
    (power 2 (-x.exponent).toNat) tie

structure Decimal where
  digits : Nat
  exponent : Int
  deriving DecidableEq, Repr

private def compareScaled (a : Nat) (i : Int) (n : Nat) (j : Int) : Ordering :=
  compare (a * power 10 i.toNat * power 2 (-j).toNat) (n * power 2 j.toNat * power 10 (-i).toNat)

/-- Whether the decimal lies among the numbers that are rounded to `x`. The ends of that interval
are halfway to the neighbours and belong to it when the significand is even. -/
def Binary.readsBack (x : Binary) (d : Decimal) : Bool :=
  let low := if x.narrowBelow then 4 * x.significand - 1 else 4 * x.significand - 2
  let high := 4 * x.significand + 2
  let ends := x.significand % 2 == 0
  let toLow := compareScaled d.digits d.exponent low (x.exponent - 2)
  let toHigh := compareScaled d.digits d.exponent high (x.exponent - 2)
  (toLow == .gt || (ends && toLow == .eq)) && (toHigh == .lt || (ends && toHigh == .eq))

private def Binary.scaleFrom (x : Binary) : Nat → Int → Int
  | 0, k => k
  | fuel + 1, k =>
      if compareScaled 1 k x.significand x.exponent == .gt then k
      else x.scaleFrom fuel (k + 1)

private def Binary.scale (x : Binary) : Int :=
  let bits := (x.significand.log2 : Int) + x.exponent
  x.scaleFrom 6 ((bits * 30103).fdiv 100000 - 1)

private def Binary.gridFloor (x : Binary) (exponent : Int) : Nat :=
  (x.significand * power 2 x.exponent.toNat * power 10 (-exponent).toNat) /
    (power 2 (-x.exponent).toNat * power 10 exponent.toNat)

private def Binary.onGrid? (x : Binary) (exponent : Int) : Option Decimal :=
  let below : Decimal := ⟨x.gridFloor exponent, exponent⟩
  let above : Decimal := ⟨below.digits + 1, exponent⟩
  match x.readsBack below, x.readsBack above with
  | false, false => none
  | true, false => some below
  | false, true => some above
  | true, true =>
      match compareScaled (2 * below.digits + 1) exponent (2 * x.significand) x.exponent with
      | .lt => some above
      | .gt => some below
      | .eq => some (if below.digits % 2 = 0 then below else above)

private def stripZeros : Nat → Decimal → Decimal
  | 0, d => d
  | fuel + 1, d =>
      if d.digits % 10 = 0 ∧ d.digits ≠ 0 then stripZeros fuel ⟨d.digits / 10, d.exponent + 1⟩
      else d

private def Binary.exact (x : Binary) : Decimal :=
  ⟨x.significand * power 2 x.exponent.toNat * power 5 (-x.exponent).toNat,
    -((-x.exponent).toNat : Int)⟩

/-- The decimal with the fewest digits among those that are rounded to `x`, and the nearest of
them. -/
def Binary.shortest (x : Binary) : Decimal :=
  if x.significand = 0 then ⟨0, 0⟩
  else
    let scale := x.scale
    let found := (List.range 17).findSome? fun (n : Nat) => x.onGrid? (scale - n - 1)
    stripZeros 400 (found.getD x.exact)

end Courier.Number
