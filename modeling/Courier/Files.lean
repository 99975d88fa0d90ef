/-! Where files can be made. -/

namespace Courier

inductive FileError where
  | notFound
  | notDirectory
  | isDirectory
  | noSpace
  | longName
  | nulByte
  deriving DecidableEq, Repr

def FileError.message : FileError → String
  | .notFound => "No such file or directory (os error 2)"
  | .notDirectory => "Not a directory (os error 20)"
  | .isDirectory => "Is a directory (os error 21)"
  | .noSpace => "No space left on device (os error 28)"
  | .longName => "File name too long (os error 36)"
  | .nulByte => "file name contained an unexpected NUL byte"

/-- A tree of files. A place in it is the list of the names that lead there. -/
structure Files where
  home : List String
  directories : List (List String)
  closed : List (List String)
  plain : List (List String)
  full : List (List String)
  deriving DecidableEq, Repr

namespace Files

def maxName : Nat := 255

def maxPath : Nat := 4095

def isDirectory (files : Files) (place : List String) : Bool :=
  place.isEmpty || place = files.home || files.directories.contains place ||
    files.closed.contains place

def enter (files : Files) (place : List String) (name : String) :
    Except FileError (List String) :=
  if name = "." then .ok place
  else if name = ".." then .ok place.dropLast
  else if maxName < name.utf8ByteSize then .error .longName
  else if files.isDirectory (place ++ [name]) then .ok (place ++ [name])
  else if (files.plain ++ files.full).contains (place ++ [name]) then .error .notDirectory
  else .error .notFound

/-- Why a file with a name cannot be made in a directory. A name with a slash after it is that of a
directory. -/
def makeError? (files : Files) (place : List String) (name : String) (slash : Bool) :
    Option FileError :=
  let file := place ++ [name]
  if name = "." ∨ name = ".." then some .isDirectory
  else if maxName < name.utf8ByteSize then some .longName
  else if files.isDirectory file then some .isDirectory
  else if files.full.contains file then some (if slash then .notDirectory else .noSpace)
  else if files.plain.contains file then if slash then some .notDirectory else none
  else if files.closed.contains place then some .notFound
  else if slash then some .isDirectory
  else none

def error? (files : Files) (path : String) : Option FileError :=
  let names := (path.splitOn "/").filter (· ≠ "")
  let start := if path.startsWith "/" then [] else files.home
  if path.contains '\x00' then some .nulByte
  else if path.isEmpty then some .notFound
  else if maxPath < path.utf8ByteSize then some .longName
  else
    match names.getLast? with
    | none => some .isDirectory
    | some name =>
        match names.dropLast.foldlM files.enter start with
        | .error error => some error
        | .ok place => files.makeError? place name (path.endsWith "/")

end Files

end Courier
