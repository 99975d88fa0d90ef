import Courier.Text.Class
import Courier.Text.Search

/-! Node addresses, and the tag by which a publisher signs: the first dotted quad of the address,
or else its host. -/

namespace Courier.Address

private def run (text : List Char) : List Char × List Char :=
  (text.takeWhile Text.isDecimalDigit, text.dropWhile Text.isDecimalDigit)

def parts? : Nat → List Char → Option (List Char)
  | 0, _ => some []
  | count + 1, '.' :: text =>
      if (run text).1.isEmpty then none
      else (parts? count (run text).2).map fun more => '.' :: (run text).1 ++ more
  | _ + 1, _ => none

def quad? (text : List Char) : Option (List Char) :=
  if (run text).1.isEmpty then none
  else (parts? 3 (run text).2).map ((run text).1 ++ ·)

/-- A quad that starts within a run of digits also starts where the run starts, so only the places
that no digit stands before are tried. -/
def findFrom (afterDigit : Bool) : List Char → Option (List Char)
  | [] => none
  | c :: text =>
      if Text.isDecimalDigit c then
        match if afterDigit then none else quad? (c :: text) with
        | some quad => some quad
        | none => findFrom true text
      else findFrom false text

def findQuad (text : List Char) : Option (List Char) :=
  findFrom false text

def authority (address : List Char) : List Char :=
  let rest := match Text.cutFirst? [':', '/', '/'] address with
    | some (_, rest) => rest
    | none => address
  rest.takeWhile (· != '/')

def host (address : List Char) : List Char :=
  match Text.cutLast? ':' (authority address) with
  | some (host, port) => if port.all Char.isDigit then host else authority address
  | none => authority address

def tag (address : List Char) : List Char :=
  (findQuad address).getD (host address)

end Courier.Address
