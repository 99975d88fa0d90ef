/-! Texts without what steers a terminal: the control characters that are no layout, and the sequences
that an escape character starts. -/

namespace Courier.Text

/-- Where in a sequence for the terminal a text is. -/
inductive Steering where
  | outside
  | escape
  | parameters
  deriving DecidableEq, Repr

namespace Steering

def next (c : Char) : Steering → Steering
  | .outside => .outside
  | .escape => if c = '[' then .parameters else if c < '0' then .escape else .outside
  | .parameters => if c < '@' then .parameters else .outside

end Steering

def isLayout (c : Char) : Bool := c = '\t' || c = '\n' || c = '\x0c' || c = '\r'

def isControl (c : Char) : Bool := c.toNat < 32 || c = '\x7f'

/-- What is seen of a text. Layout and characters beyond ASCII end a sequence. -/
def seen (steering : Steering) : List Char → List Char
  | [] => []
  | c :: text =>
      if c = '\x1b' then seen .escape text
      else if isLayout c || 127 < c.toNat then c :: seen .outside text
      else if isControl c then seen steering text
      else if steering = .outside then c :: seen .outside text
      else seen (steering.next c) text

def plain (text : String) : String := String.ofList (seen .outside text.toList)

end Courier.Text
