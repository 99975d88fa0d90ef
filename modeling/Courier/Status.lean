import Courier.Text.Search

/-! Why a stream of commands fails. -/

namespace Courier

inductive Code where
  | ok
  | cancelled
  | unknown
  | invalidArgument
  | deadlineExceeded
  | notFound
  | alreadyExists
  | permissionDenied
  | resourceExhausted
  | failedPrecondition
  | aborted
  | outOfRange
  | unimplemented
  | internal
  | unavailable
  | dataLoss
  | unauthenticated
  deriving DecidableEq, Repr

namespace Code

def all : List Code :=
  [.ok, .cancelled, .unknown, .invalidArgument, .deadlineExceeded, .notFound, .alreadyExists,
   .permissionDenied, .resourceExhausted, .failedPrecondition, .aborted, .outOfRange,
   .unimplemented, .internal, .unavailable, .dataLoss, .unauthenticated]

def number (code : Code) : Nat := code.ctorIdx

def ofNumber (n : Int) : Code :=
  (all.find? fun code => (code.number : Int) = n).getD .unknown

def name : Code → String
  | .ok => "Ok"
  | .cancelled => "Cancelled"
  | .unknown => "Unknown"
  | .invalidArgument => "InvalidArgument"
  | .deadlineExceeded => "DeadlineExceeded"
  | .notFound => "NotFound"
  | .alreadyExists => "AlreadyExists"
  | .permissionDenied => "PermissionDenied"
  | .resourceExhausted => "ResourceExhausted"
  | .failedPrecondition => "FailedPrecondition"
  | .aborted => "Aborted"
  | .outOfRange => "OutOfRange"
  | .unimplemented => "Unimplemented"
  | .internal => "Internal"
  | .unavailable => "Unavailable"
  | .dataLoss => "DataLoss"
  | .unauthenticated => "Unauthenticated"

end Code

structure Status where
  code : Code
  message : String
  deriving DecidableEq, Repr

/-- Texts by which a node, or the transport under it, says that it refuses the pings of an idle
connection or has closed it. -/
def pingLimitPatterns : List String :=
  ["enhance_your_calm", "too_many_pings", "too many pings", "connection closed"]

def namesPingLimit (message : List Char) : Bool :=
  pingLimitPatterns.any fun pattern => Text.occurs pattern.toList (message.map Char.toLower)

inductive StreamError where
  | closed
  | pingLimit (message : String)
  | status (s : Status)
  deriving DecidableEq, Repr

namespace StreamError

/-- A ping limit is told by the message of a status alone, whatever its code. -/
def ofStatus (status : Status) : StreamError :=
  if namesPingLimit status.message.toList then .pingLimit status.message else .status status

def isPingLimit : StreamError → Bool
  | .pingLimit _ => true
  | _ => false

def isRetriable : StreamError → Bool
  | .status _ => true
  | _ => false

def message : StreamError → String
  | .closed => "command stream closed"
  | .pingLimit message => "connection closed due to keepalive ping limit: " ++ message
  | .status s => s!"stream error ({s.code.name}): " ++ s.message

end StreamError

end Courier
