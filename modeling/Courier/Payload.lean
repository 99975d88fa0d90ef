import Courier.Text.Hex
import Courier.Text.Utf8
import Courier.Number.Printer

/-! What is published: the message itself, or the messages of a batch with a number and a random
suffix each, or random bytes under the publisher's tag. -/

namespace Courier.Payload

def suffixBytes : Nat := 4

def defaultTemplate : String := "XXX"

def signed (sender : String) (random : List UInt8) : List Char :=
  sender.toList ++ '-' :: Text.hex random

structure Batch where
  nanos : Nat
  suffixLength : Nat
  number : Nat
  suffix : List Char
  body : List Char
  deriving DecidableEq, Repr

namespace Batch

def text (batch : Batch) : List Char :=
  '[' :: Number.digits batch.nanos ++ ' ' :: Number.digits batch.suffixLength ++ ']' :: ' ' ::
    Number.digits batch.number ++ ' ' :: '-' :: ' ' :: batch.suffix ++ ' ' :: batch.body

def make (nanos index : Nat) (random : List UInt8) (template : String) : Batch :=
  let suffix := Text.hex random
  { nanos
    suffixLength := suffix.length
    number := index + 1
    suffix
    body := (if template.isEmpty then defaultTemplate else template).toList }

def readNumber (text : List Char) : Option (Nat × List Char) :=
  let digits := text.takeWhile Char.isDigit
  if digits.isEmpty then none
  else
    some (digits.foldl (fun n c => 10 * n + (c.toNat - 48)) 0, text.dropWhile Char.isDigit)

def isSuffixDigit (c : Char) : Bool := c.isDigit || ('a' ≤ c && c ≤ 'f')

def ofText? : List Char → Option Batch
  | '[' :: text =>
      match readNumber text with
      | some (nanos, ' ' :: text) =>
          match readNumber text with
          | some (suffixLength, ']' :: ' ' :: text) =>
              match readNumber text with
              | some (number, ' ' :: '-' :: ' ' :: text) =>
                  let suffix := text.takeWhile isSuffixDigit
                  match text.dropWhile isSuffixDigit with
                  | ' ' :: body =>
                      if suffix.isEmpty then none
                      else some ⟨nanos, suffixLength, number, suffix, body⟩
                  | _ => none
              | _ => none
          | _ => none
      | _ => none
  | _ => none

def ofBytes? (payload : List UInt8) : Option Batch :=
  (Text.decode? payload).bind ofText?

end Batch

end Courier.Payload
