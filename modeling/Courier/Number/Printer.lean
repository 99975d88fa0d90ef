import Courier.Number.Binary

/-! Numbers as texts. -/

namespace Courier.Number

def digits (n : Nat) : List Char := Nat.toDigits 10 n

def padLeft (width : Nat) (text : List Char) : List Char :=
  List.replicate (width - text.length) '0' ++ text

def pointed (places scaled : Nat) : List Char :=
  if places = 0 then digits scaled
  else digits (scaled / power 10 places) ++ '.' :: padLeft places (digits (scaled % power 10 places))

/-- A number that is not negative with a fixed number of places, the exact value rounded once and a
half to the even neighbour. -/
def fixed (places : Nat) (x : Float) : List Char :=
  if isInfinite x then ['i', 'n', 'f']
  else pointed places ((Binary.ofFloat x).scaled places .toEven)

/-- The fewest digits that identify the number: positional with a point where its first digit
stands at most sixteen places before the point and at most four zeros follow the point, else with
a signed exponent. -/
def identify (x : Float) : List Char :=
  let sign := if isNegative x then ['-'] else []
  let d := (Binary.ofFloat x).shortest
  let ds := digits d.digits
  let point : Int := ds.length + d.exponent
  sign ++
    if d.digits = 0 then ['0', '.', '0']
    else if 0 ≤ d.exponent ∧ point ≤ 16 then
      ds ++ List.replicate d.exponent.toNat '0' ++ ['.', '0']
    else if 0 < point ∧ point ≤ 16 then
      ds.take point.toNat ++ '.' :: ds.drop point.toNat
    else if -5 < point ∧ point ≤ 0 then
      '0' :: '.' :: List.replicate (-point).toNat '0' ++ ds
    else
      let power := point - 1
      ds.take 1 ++ (if ds.length = 1 then [] else '.' :: ds.drop 1) ++
        'e' :: (if power < 0 then '-' else '+') :: digits power.natAbs

end Courier.Number
