import Courier.Number.Binary
import Courier.Span.Basic
import Courier.Text.Quoted

/-! Lengths of time read from texts such as `300ms`, `1.5s` or `1h2m3s`: one or more terms, each a
number followed by its unit. A bare `0` is the empty length. -/

namespace Courier.Span

inductive TimeUnit where
  | nanosecond
  | microsecond
  | millisecond
  | second
  | minute
  | hour
  deriving DecidableEq, Repr

def TimeUnit.ofText? : List Char → Option TimeUnit
  | ['n', 's'] => some .nanosecond
  | ['u', 's'] => some .microsecond
  | ['µ', 's'] => some .microsecond
  | ['m', 's'] => some .millisecond
  | ['s'] => some .second
  | ['m'] => some .minute
  | ['h'] => some .hour
  | _ => none

def TimeUnit.nanos : TimeUnit → Float
  | .nanosecond => 1.0
  | .microsecond => 1e3
  | .millisecond => 1e6
  | .second => 1e9
  | .minute => 60e9
  | .hour => 3600e9

inductive ParseError where
  | empty
  | noNumber (text : List Char)
  | badNumber (text : List Char)
  | noUnit (text : List Char)
  | unknownUnit (unit text : List Char)
  deriving DecidableEq, Repr

def ParseError.message : ParseError → String
  | .empty => "empty duration"
  | .noNumber text => "invalid duration " ++ String.ofList (Text.quote text)
  | .badNumber text => "invalid number in duration " ++ String.ofList (Text.quote text)
  | .noUnit text => "missing unit in duration " ++ String.ofList (Text.quote text)
  | .unknownUnit unit text =>
      "unknown unit " ++ String.ofList (Text.quote unit) ++ " in duration " ++
        String.ofList (Text.quote text)

def isNumeral (c : Char) : Bool := c.isDigit || c == '.'

private def mantissa (digits : List Char) : Nat :=
  digits.foldl (fun n c => 10 * n + (c.toNat - 48)) 0

def numeral? (numeral : List Char) : Option Float :=
  let whole := numeral.takeWhile Char.isDigit
  match numeral.dropWhile Char.isDigit with
  | [] => if whole.isEmpty then none else some (Float.ofScientific (mantissa whole) false 0)
  | _ :: fraction =>
      if fraction.all Char.isDigit && !(whole.isEmpty && fraction.isEmpty) then
        some (Float.ofScientific (mantissa (whole ++ fraction)) true fraction.length)
      else none

/-- What a term is made of, and what follows it: a numeral as far as it goes, then a unit up to the
next numeral. -/
structure Cut where
  numeral : List Char
  unit : List Char
  rest : List Char
  deriving DecidableEq, Repr

def cut (text : List Char) : Cut :=
  let tail := text.dropWhile isNumeral
  ⟨text.takeWhile isNumeral, tail.takeWhile (!isNumeral ·), tail.dropWhile (!isNumeral ·)⟩

theorem cut_append (text : List Char) :
    (cut text).numeral ++ ((cut text).unit ++ (cut text).rest) = text := by
  simp [cut, List.takeWhile_append_dropWhile]

theorem cut_rest_length (text : List Char) (named : (cut text).unit ≠ []) :
    (cut text).rest.length < text.length := by
  have length := congrArg List.length (cut_append text)
  have positive := List.length_pos_iff.mpr named
  simp only [List.length_append] at length
  omega

/-- The terms of the text, each as its value and unit. `whole` is the text that errors quote. -/
def terms (whole text : List Char) : Except ParseError (List (Float × TimeUnit)) :=
  if text = [] then .ok []
  else if (cut text).numeral = [] then .error (.noNumber whole)
  else
    match numeral? (cut text).numeral with
    | none => .error (.badNumber whole)
    | some value =>
        if _ : (cut text).unit = [] then .error (.noUnit whole)
        else
          match TimeUnit.ofText? (cut text).unit with
          | none => .error (.unknownUnit (cut text).unit whole)
          | some unit => (terms whole (cut text).rest).map ((value, unit) :: ·)
termination_by text.length
decreasing_by exact cut_rest_length text (by assumption)

def total (terms : List (Float × TimeUnit)) : Span :=
  let sum := terms.foldl (fun sum term => sum + term.1 * term.2.nanos) 0.0
  ⟨if Number.isInfinite sum then Number.limit 64 - 1
    else min (Number.limit 64 - 1) ((Number.Binary.ofFloat sum).scaled 0 .awayFromZero)⟩

def parse (text : List Char) : Except ParseError Span :=
  let text := Text.trim text
  if text = ['0'] then .ok .zero
  else if text.isEmpty then .error .empty
  else (terms text text).map total

end Courier.Span
