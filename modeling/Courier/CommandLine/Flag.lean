import Courier.Config.Basic
import Courier.Span.Parser

/-! The flags of the command line, and how their values are read. -/

namespace Courier.CommandLine

inductive Flag where
  | addr
  | mode
  | topic
  | msg
  | count
  | sleep
  | dataSize
  | output
  | flowControl
  | initialCredits
  | creditIncrement
  | maxCredits
  | maxRetries
  | retryDelay
  | pacingDelay
  | bufferSize
  | workers
  | maxConcurrent
  | keepaliveInterval
  | keepaliveTimeout
  | permitWithoutStream
  | initialWindowSize
  | initialConnWindowSize
  | connectTimeout
  deriving DecidableEq, Repr

namespace Flag

def all : List Flag :=
  [.addr, .mode, .topic, .msg, .count, .sleep, .dataSize, .output, .flowControl, .initialCredits,
   .creditIncrement, .maxCredits, .maxRetries, .retryDelay, .pacingDelay, .bufferSize, .workers,
   .maxConcurrent, .keepaliveInterval, .keepaliveTimeout, .permitWithoutStream,
   .initialWindowSize, .initialConnWindowSize, .connectTimeout]

def name : Flag → String
  | .addr => "addr"
  | .mode => "mode"
  | .topic => "topic"
  | .msg => "msg"
  | .count => "count"
  | .sleep => "sleep"
  | .dataSize => "data-size"
  | .output => "output"
  | .flowControl => "flow-control"
  | .initialCredits => "initial-credits"
  | .creditIncrement => "credit-increment"
  | .maxCredits => "max-credits"
  | .maxRetries => "max-retries"
  | .retryDelay => "retry-delay"
  | .pacingDelay => "pacing-delay"
  | .bufferSize => "buffer-size"
  | .workers => "workers"
  | .maxConcurrent => "max-concurrent"
  | .keepaliveInterval => "keepalive-interval"
  | .keepaliveTimeout => "keepalive-timeout"
  | .permitWithoutStream => "permit-without-stream"
  | .initialWindowSize => "initial-window-size"
  | .initialConnWindowSize => "initial-conn-window-size"
  | .connectTimeout => "connect-timeout"

def ofName? (name : String) : Option Flag :=
  if name = "keepalive-internal" then some .keepaliveInterval else all.find? (·.name = name)

abbrev Value : Flag → Type
  | .addr | .topic | .msg => String
  | .mode => Mode
  | .flowControl | .permitWithoutStream => Bool
  | .count | .initialCredits | .creditIncrement | .bufferSize | .workers | .maxConcurrent
  | .initialWindowSize | .initialConnWindowSize => Nat
  | .maxRetries => UInt32
  | .dataSize | .maxCredits => Option Nat
  | .output => Option String
  | .sleep | .retryDelay | .pacingDelay | .keepaliveInterval | .keepaliveTimeout
  | .connectTimeout => Span

def placeholder (flag : Flag) : String :=
  flag.name.map fun c => if c = '-' then '_' else c.toUpper

def usage (flag : Flag) : String := "--" ++ flag.name ++ " <" ++ flag.placeholder ++ ">"

end Flag

inductive NumberError where
  | empty
  | invalidDigit
  | tooLarge
  | tooSmall
  | outside (value : Int) (limit : Nat)
  deriving DecidableEq, Repr

def NumberError.message : NumberError → String
  | .empty => "cannot parse integer from empty string"
  | .invalidDigit => "invalid digit found in string"
  | .tooLarge => "number too large to fit in target type"
  | .tooSmall => "number too small to fit in target type"
  | .outside value limit => s!"{value} is not in 0..={limit}"

def readDigits (limit : Nat) (beyond : NumberError) (n : Nat) :
    List Char → Except NumberError Nat
  | [] => .ok n
  | c :: digits =>
      if !c.isDigit then .error .invalidDigit
      else
        let n := n * 10 + (c.toNat - 48)
        if limit < n then .error beyond else readDigits limit beyond n digits

def readSomeDigits (limit : Nat) (beyond : NumberError) (digits : List Char) :
    Except NumberError Nat :=
  if digits.isEmpty then .error .invalidDigit else readDigits limit beyond 0 digits

def readNumber (text : List Char) : Except NumberError Nat :=
  match text with
  | [] => .error .empty
  | '+' :: digits => readSomeDigits (Number.limit 64 - 1) .tooLarge digits
  | digits => readSomeDigits (Number.limit 64 - 1) .tooLarge digits

def readSigned (text : List Char) : Except NumberError Int :=
  match text with
  | [] => .error .empty
  | '-' :: digits => (readSomeDigits (Number.limit 63) .tooSmall digits).map fun n => -(n : Int)
  | '+' :: digits => (readSomeDigits (Number.limit 63 - 1) .tooLarge digits).map Int.ofNat
  | digits => (readSomeDigits (Number.limit 63 - 1) .tooLarge digits).map Int.ofNat

/-- A number of 32 bits, read as a signed number first. -/
def readSmall (text : List Char) : Except NumberError Nat :=
  match readSigned text with
  | .error e => .error e
  | .ok n =>
      if 0 ≤ n ∧ n < Number.limit 32 then .ok n.toNat else .error (.outside n (Number.limit 32 - 1))

inductive ValueError where
  | missing
  | notOneOf
  | number (error : NumberError)
  | span (error : Span.ParseError)
  deriving DecidableEq, Repr

def modes : List (String × Mode) := [("subscribe", .subscribe), ("publish", .publish)]

def booleans : List (String × Bool) := [("true", true), ("false", false)]

namespace Flag

def choices : Flag → List String
  | .mode => modes.map (·.1)
  | .flowControl | .permitWithoutStream => booleans.map (·.1)
  | _ => []

private def oneOf {α : Type} (table : List (String × α)) (text : String) :
    Except ValueError α :=
  match table.lookup text with
  | some value => .ok value
  | none => .error .notOneOf

private def number (text : String) : Except ValueError Nat :=
  (readNumber text.toList).mapError .number

private def small (text : String) : Except ValueError Nat :=
  (readSmall text.toList).mapError .number

private def span (text : String) : Except ValueError Span :=
  (Span.parse text.toList).mapError .span

def read : (flag : Flag) → String → Except ValueError flag.Value
  | .addr, text | .topic, text | .msg, text => .ok text
  | .mode, text => oneOf modes text
  | .flowControl, text | .permitWithoutStream, text => oneOf booleans text
  | .count, text | .initialCredits, text | .creditIncrement, text | .bufferSize, text
  | .workers, text | .maxConcurrent, text => number text
  | .maxRetries, text => (small text).map UInt32.ofNat
  | .initialWindowSize, text | .initialConnWindowSize, text => small text
  | .dataSize, text | .maxCredits, text => (number text).map some
  | .output, text => if text.isEmpty then .error .missing else .ok (some text)
  | .sleep, text | .retryDelay, text | .pacingDelay, text | .keepaliveInterval, text
  | .keepaliveTimeout, text | .connectTimeout, text => span text

end Flag

end Courier.CommandLine
