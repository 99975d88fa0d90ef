/-! What a client asks of its node. -/

namespace Courier

inductive Command where
  | subscribe (topic : String)
  | unsubscribe (topic : String)
  | publish (topic : String) (payload : List UInt8)
  deriving DecidableEq, Repr

def Command.topic : Command → String
  | .subscribe topic => topic
  | .unsubscribe topic => topic
  | .publish topic _ => topic

def Command.payload? : Command → Option (List UInt8)
  | .publish _ payload => some payload
  | _ => none

end Courier
