import Courier.Number.Printer
import Courier.Text.Quoted

/-! Why bytes are no JSON text, and where. -/

namespace Courier.Json

/-! The bytes with a meaning of their own. -/

@[match_pattern] abbrev quoteMark : UInt8 := 34
@[match_pattern] abbrev escapeMark : UInt8 := 92
@[match_pattern] abbrev comma : UInt8 := 44
@[match_pattern] abbrev colon : UInt8 := 58
@[match_pattern] abbrev openList : UInt8 := 91
@[match_pattern] abbrev closeList : UInt8 := 93
@[match_pattern] abbrev openObject : UInt8 := 123
@[match_pattern] abbrev closeObject : UInt8 := 125
@[match_pattern] abbrev minus : UInt8 := 45
@[match_pattern] abbrev plus : UInt8 := 43
@[match_pattern] abbrev point : UInt8 := 46

def isDigit (b : UInt8) : Bool := 48 ≤ b && b ≤ 57

def isBlank (b : UInt8) : Bool := b = 32 || b = 10 || b = 9 || b = 13

def skipBlanks (bytes : List UInt8) : List UInt8 := bytes.dropWhile isBlank

theorem skipBlanks_length (bytes : List UInt8) : (skipBlanks bytes).length ≤ bytes.length :=
  (List.dropWhile_sublist _).length_le

inductive Found where
  | null
  | boolean (value : Bool)
  | integer (value : Int)
  | float (value : Float)
  | text (value : List Char)
  | list
  | object
  deriving Repr

def Found.describe : Found → List Char
  | .null => "null".toList
  | .boolean value => "boolean `".toList ++ (if value then "true`" else "false`").toList
  | .integer value => "integer `".toList ++ (toString value).toList ++ ['`']
  | .float value => "floating point `".toList ++ Number.identify value ++ ['`']
  | .text value => "string ".toList ++ Text.quote value
  | .list => "sequence".toList
  | .object => "map".toList

inductive Cause where
  | endInValue
  | endInString
  | endInList
  | endInObject
  | expectedColon
  | expectedListEnd
  | expectedObjectEnd
  | expectedLiteral
  | expectedValue
  | badEscape
  | badNumber
  | numberOutOfRange
  | badCodePoint
  | controlCharacter
  | keyNotString
  | loneSurrogate
  | unexpectedEscapeEnd
  | trailingComma
  | trailingCharacters
  | unexpectedType (found : Found) (expected : String)
  deriving Repr

def Cause.message : Cause → String
  | .endInValue => "EOF while parsing a value"
  | .endInString => "EOF while parsing a string"
  | .endInList => "EOF while parsing a list"
  | .endInObject => "EOF while parsing an object"
  | .expectedColon => "expected `:`"
  | .expectedListEnd => "expected `,` or `]`"
  | .expectedObjectEnd => "expected `,` or `\x7d`"
  | .expectedLiteral => "expected ident"
  | .expectedValue => "expected value"
  | .badEscape => "invalid escape"
  | .badNumber => "invalid number"
  | .numberOutOfRange => "number out of range"
  | .badCodePoint => "invalid unicode code point"
  | .controlCharacter =>
      "control character (\\u0000-\\u001F) found while parsing a string"
  | .keyNotString => "key must be a string"
  | .loneSurrogate => "lone leading surrogate in hex escape"
  | .unexpectedEscapeEnd => "unexpected end of hex escape"
  | .trailingComma => "trailing comma"
  | .trailingCharacters => "trailing characters"
  | .unexpectedType found expected =>
      "invalid type: " ++ String.ofList found.describe ++ ", expected " ++ expected

structure Fault where
  cause : Cause
  left : Nat
  deriving Repr

def Fault.before (cause : Cause) (rest : List UInt8) : Fault := ⟨cause, rest.length⟩

def Fault.at (cause : Cause) (rest : List UInt8) : Fault := ⟨cause, rest.length - 1⟩

structure Place where
  line : Nat
  column : Nat
  deriving DecidableEq, Repr

def Place.after (bytes : List UInt8) (count : Nat) : Place :=
  (bytes.take count).foldl
    (fun place b => if b = 10 then ⟨place.line + 1, 0⟩ else ⟨place.line, place.column + 1⟩) ⟨1, 0⟩

end Courier.Json
