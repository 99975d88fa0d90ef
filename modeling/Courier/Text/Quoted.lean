import Courier.Text.Invisible

/-! Quoted texts, as they stand in messages for a reader: one line, between double quotes, with
every character that has no glyph written by its number. -/

namespace Courier.Text

def escape (c : Char) : List Char :=
  match c with
  | '"' => ['\\', '"']
  | '\\' => ['\\', '\\']
  | '\n' => ['\\', 'n']
  | '\r' => ['\\', 'r']
  | '\t' => ['\\', 't']
  | '\x00' => ['\\', '0']
  | c =>
      if isInvisible c then
        ['\\', 'u', '\x7b'] ++ Nat.toDigits 16 c.toNat ++ ['\x7d']
      else
        [c]

def quote (text : List Char) : List Char :=
  '"' :: text.flatMap escape ++ ['"']

def quoted (text : String) : String :=
  String.ofList (quote text.toList)

end Courier.Text
