import Courier.Text.Search
import Courier.Text.Utf8

/-! Which texts are addresses: a scheme, `://`, an authority that is not empty, and a path. A path may
also stand alone. -/

namespace Courier.Uri

def isLetterOrDigit (b : UInt8) : Bool :=
  (48 ≤ b && b ≤ 57) || (65 ≤ b && b ≤ 90) || (97 ≤ b && b ≤ 122)

def isOneOf (marks : String) (b : UInt8) : Bool := b ∈ marks.toUTF8.toList

def isSchemeByte (b : UInt8) : Bool := isLetterOrDigit b || isOneOf "+-.~" b

def isPlain (b : UInt8) : Bool := isLetterOrDigit b || isOneOf "!#$&'()*+,-./:;=?@[]_~" b

def endsAuthority (b : UInt8) : Bool := isOneOf "/?#" b

def maxLength : Nat := 65534

def maxScheme : Nat := 64

def cutScheme? (bytes : List UInt8) : Option (Nat × List UInt8) :=
  match bytes.dropWhile isSchemeByte with
  | 58 :: 47 :: 47 :: rest => some ((bytes.takeWhile isSchemeByte).length, rest)
  | _ => none

/-- What has been seen of an authority. -/
structure Authority where
  colons : Nat
  opened : Bool
  closed : Bool
  percent : Bool
  afterUser : Bool
  deriving DecidableEq, Repr

namespace Authority

/-- Reads a byte of an authority, if it may stand there. Colons and percent signs are forgotten when
they turn out to be part of a user's name or of a bracketed host. -/
def read? (a : Authority) (b : UInt8) : Option Authority :=
  let a := { a with afterUser := false }
  if b = 58 then if 8 ≤ a.colons then none else some { a with colons := a.colons + 1 }
  else if b = 91 then if a.percent || a.opened then none else some { a with opened := true }
  else if b = 93 then
    if !a.opened || a.closed then none
    else some { a with closed := true, colons := 0, percent := false }
  else if b = 64 then some { a with colons := 0, percent := false, afterUser := true }
  else if b = 37 then some { a with percent := true }
  else if isPlain b then some a
  else none

def isComplete (a : Authority) : Bool :=
  a.opened == a.closed && a.colons ≤ 1 && !a.afterUser && !a.percent

end Authority

def isAuthority (bytes : List UInt8) : Bool :=
  match bytes.foldlM Authority.read? ⟨0, false, false, false, false⟩ with
  | some a => a.isComplete
  | none => false

def isPathByte (b : UInt8) : Bool := (33 ≤ b && b ≤ 126) && !isOneOf "#<>?`" b

def isQueryByte (b : UInt8) : Bool := (33 ≤ b && b ≤ 126) && !isOneOf "\"#<>" b

/-- A path with a query. Nothing after a number sign counts. -/
def isPath (bytes : List UInt8) : Bool :=
  let whole := bytes.takeWhile (· != 35)
  let path := whole.takeWhile (· != 63)
  path.all isPathByte && (whole.drop (path.length + 1)).all isQueryByte

def isAbsolute (bytes : List UInt8) : Bool :=
  match cutScheme? bytes with
  | none => false
  | some (scheme, rest) =>
      let authority := rest.takeWhile (!endsAuthority ·)
      scheme ≤ maxScheme && !authority.isEmpty && isAuthority authority &&
        isPath (rest.drop authority.length)

def isValid (bytes : List UInt8) : Bool :=
  bytes.length ≤ maxLength &&
    (if bytes.head? = some 47 then isPath bytes else isAbsolute bytes)

end Courier.Uri
