import Courier.Number.Printer
import Courier.Span.Basic

/-! Lengths of time as texts, in the largest unit of which they hold at least one. -/

namespace Courier.Span

def unitFor (s : Span) : Nat × List Char :=
  if 1000000000 ≤ s.nanos then (9, ['s'])
  else if 1000000 ≤ s.nanos then (6, ['m', 's'])
  else if 1000 ≤ s.nanos then (3, ['µ', 's'])
  else (0, ['n', 's'])

private def dropZeros (text : List Char) : List Char :=
  (text.reverse.dropWhile (· == '0')).reverse

def exactText (s : Span) : List Char :=
  let (power, unit) := s.unitFor
  let fraction := dropZeros (Number.padLeft power (Number.digits (s.nanos % Number.power 10 power)))
  Number.digits (s.nanos / Number.power 10 power) ++
    (if power = 0 ∨ fraction.isEmpty then [] else '.' :: fraction) ++ unit

def roundedText (s : Span) : List Char :=
  let (power, unit) := s.unitFor
  Number.pointed 2 (Number.roundDiv (s.nanos * 100) (Number.power 10 power) .toEven) ++ unit

end Courier.Span
