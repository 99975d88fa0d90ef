import Courier.Json.Fault
import Courier.Text.Hex
import Courier.Text.Utf8

/-! JSON strings as bytes. Only the quote, the backslash and the control characters are escaped. -/

namespace Courier.Json

def shortEscapeOf? (c : Char) : Option UInt8 :=
  if c = '"' then some 34
  else if c = '\\' then some 92
  else if c = '\x08' then some 98
  else if c = '\x0c' then some 102
  else if c = '\n' then some 110
  else if c = '\r' then some 114
  else if c = '\t' then some 116
  else none

def printChar (c : Char) : List UInt8 :=
  match shortEscapeOf? c with
  | some letter => [escapeMark, letter]
  | none =>
      if c.toNat < 32 then
        escapeMark :: 117 :: 48 :: 48 :: Text.encode (Text.hex [c.toNat.toUInt8])
      else Text.encodeChar c

def printString (text : List Char) : List UInt8 :=
  quoteMark :: text.flatMap printChar ++ [quoteMark]

end Courier.Json
