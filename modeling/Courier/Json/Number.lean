import Courier.Json.Fault

/-! JSON numbers. Whole numbers are exact while 64 bits hold them. All others become floating point
numbers: of their digits those count that 64 bits hold, and a single multiplication or division by a
power of ten moves the point. -/

namespace Courier.Json

private def digit (b : UInt8) : Nat := b.toNat - 48

structure Gathered where
  significand : Nat
  count : Nat
  rest : List UInt8
  deriving DecidableEq, Repr

def gather (significand count : Nat) : List UInt8 → Gathered
  | [] => ⟨significand, count, []⟩
  | b :: rest =>
      if isDigit b ∧ significand * 10 + digit b < Number.limit 64 then
        gather (significand * 10 + digit b) (count + 1) rest
      else ⟨significand, count, b :: rest⟩

def skipDigits (bytes : List UInt8) : List UInt8 := bytes.dropWhile isDigit

theorem skipDigits_length (bytes : List UInt8) : (skipDigits bytes).length ≤ bytes.length :=
  (List.dropWhile_sublist _).length_le

def isExponentMark (b : UInt8) : Bool := b = 101 || b = 69

/-- `x` times a power of ten, rounded once if there is such a power. Division by a greater one is in
steps of the greatest there is. -/
def scaleBy (exponent : Int) (x : Float) : Option Float :=
  if _ : exponent < -308 then
    if x == 0.0 then some x else scaleBy (exponent + 308) (x / 1e308)
  else if exponent < 0 then some (x / Float.ofScientific 1 false (-exponent).toNat)
  else if exponent ≤ 308 then
    let scaled := x * Float.ofScientific 1 false exponent.toNat
    if Number.isInfinite scaled then none else some scaled
  else if x == 0.0 then some x
  else none
termination_by (-exponent).toNat
decreasing_by omega

def floatOf (negative : Bool) (significand : Nat) (exponent : Int) (rest : List UInt8) :
    Except Fault (Found × List UInt8) :=
  match scaleBy exponent (Float.ofScientific significand false 0) with
  | none => .error (.before .numberOutOfRange rest)
  | some x => .ok (.float (if negative then -x else x), rest)

/-- The digits of an exponent beyond the first. Where the exponent no longer fits 31 bits, a number
other than zero is out of range unless the exponent is negative. -/
def readExponentDigits (negative down : Bool) (significand : Nat) (start : Int) (exponent : Nat) :
    List UInt8 → Except Fault (Found × List UInt8)
  | b :: rest =>
      if isDigit b then
        if exponent * 10 + digit b < Number.limit 31 then
          readExponentDigits negative down significand start (exponent * 10 + digit b) rest
        else if significand ≠ 0 ∧ !down then .error (.before .numberOutOfRange rest)
        else .ok (.float (if negative then -0.0 else 0.0), skipDigits rest)
      else
        floatOf negative significand (if down then start - exponent else start + exponent) (b :: rest)
  | [] => floatOf negative significand (if down then start - exponent else start + exponent) []

def readSign : List UInt8 → Bool × List UInt8
  | plus :: rest => (false, rest)
  | minus :: rest => (true, rest)
  | rest => (false, rest)

theorem readSign_length (bytes : List UInt8) : (readSign bytes).2.length ≤ bytes.length := by
  unfold readSign
  split <;> simp

def readExponent (negative : Bool) (significand : Nat) (start : Int) (bytes : List UInt8) :
    Except Fault (Found × List UInt8) :=
  let (down, rest) := readSign bytes
  match rest with
  | [] => .error (.before .endInValue [])
  | b :: rest =>
      if isDigit b then readExponentDigits negative down significand start (digit b) rest
      else .error (.before .badNumber rest)

def readScale (negative : Bool) (significand : Nat) (exponent : Int) (bytes : List UInt8) :
    Except Fault (Found × List UInt8) :=
  match bytes with
  | b :: rest =>
      if isExponentMark b then readExponent negative significand exponent rest
      else floatOf negative significand exponent bytes
  | [] => floatOf negative significand exponent []

def readFraction (negative : Bool) (significand : Nat) (exponent : Int) (bytes : List UInt8) :
    Except Fault (Found × List UInt8) :=
  match bytes with
  | [] => .error (.at .endInValue [])
  | b :: _ =>
      if isDigit b then
        let taken := gather significand 0 bytes
        readScale negative taken.significand (exponent - taken.count) (skipDigits taken.rest)
      else .error (.at .badNumber bytes)

/-- A whole number. Those that no signed or unsigned number of 64 bits equals are floating point
numbers, and so is the negative zero. -/
def wholeOf (negative : Bool) (significand : Nat) : Found :=
  if !negative then .integer significand
  else if 0 < significand ∧ significand ≤ Number.limit 63 then .integer (-significand)
  else .float (-(Float.ofScientific significand false 0))

def readNumber (negative : Bool) (bytes : List UInt8) : Except Fault (Found × List UInt8) :=
  match bytes with
  | [] => .error (.before .endInValue [])
  | b :: rest =>
      if !isDigit b then .error (.before .badNumber rest)
      else if b = 48 ∧ rest.head?.any isDigit then .error (.at .badNumber rest)
      else
        let taken := gather 0 0 bytes
        let tail := skipDigits taken.rest
        let dropped := taken.rest.length - tail.length
        match tail with
        | point :: fraction => readFraction negative taken.significand dropped fraction
        | _ =>
            if dropped = 0 ∧ !tail.head?.any isExponentMark then
              .ok (wholeOf negative taken.significand, tail)
            else readScale negative taken.significand dropped tail

def skipExponent (bytes : List UInt8) : Except Fault (List UInt8) :=
  match (readSign bytes).2 with
  | [] => .error (.before .badNumber [])
  | b :: rest => if isDigit b then .ok (skipDigits rest) else .error (.before .badNumber rest)

def skipScale (bytes : List UInt8) : Except Fault (List UInt8) :=
  match bytes with
  | b :: rest => if isExponentMark b then skipExponent rest else .ok bytes
  | [] => .ok []

def skipNumber (bytes : List UInt8) : Except Fault (List UInt8) :=
  match bytes with
  | [] => .error (.before .badNumber [])
  | b :: rest =>
      if !isDigit b then .error (.before .badNumber rest)
      else if b = 48 ∧ rest.head?.any isDigit then .error (.at .badNumber rest)
      else
        match skipDigits rest with
        | point :: fraction =>
            if fraction.head?.any isDigit then skipScale (skipDigits fraction)
            else .error (.at .badNumber fraction)
        | tail => skipScale tail

theorem skipExponent_length {bytes rest : List UInt8} (skipped : skipExponent bytes = .ok rest) :
    rest.length < bytes.length := by
  have sign := readSign_length bytes
  unfold skipExponent at skipped
  repeat' split at skipped
  all_goals simp at skipped
  rename_i b tail next _
  have := skipDigits_length tail
  rw [next, List.length_cons] at sign
  rw [← skipped]
  omega

theorem skipScale_length {bytes rest : List UInt8} (skipped : skipScale bytes = .ok rest) :
    rest.length ≤ bytes.length := by
  unfold skipScale at skipped
  repeat' split at skipped
  · have := skipExponent_length skipped
    simp only [List.length_cons]
    omega
  all_goals simp at skipped
  all_goals simp [← skipped]

theorem skipNumber_length {bytes rest : List UInt8} (skipped : skipNumber bytes = .ok rest) :
    rest.length < bytes.length := by
  unfold skipNumber at skipped
  split at skipped
  · simp at skipped
  · rename_i b tail
    have digits := skipDigits_length tail
    simp only [List.length_cons]
    repeat' split at skipped
    · simp at skipped
    · simp at skipped
    · rename_i fraction next _
      have := skipScale_length skipped
      have := skipDigits_length fraction
      rw [next, List.length_cons] at digits
      omega
    · simp at skipped
    · have := skipScale_length skipped
      omega

end Courier.Json
