import Courier.Command
import Courier.Wire.Message

/-! Commands on the wire. -/

namespace Courier.Wire

structure Request where
  command : Int32
  topic : String
  data : List UInt8
  deriving DecidableEq, Repr

namespace Request

def ofCommand : Command → Request
  | .publish topic payload => ⟨1, topic, payload⟩
  | .subscribe topic => ⟨2, topic, []⟩
  | .unsubscribe topic => ⟨3, topic, []⟩

/-- The command that a request carries. Subscribing and unsubscribing carry no data. -/
def command? (request : Request) : Option Command :=
  if request.command = 1 then some (.publish request.topic request.data)
  else if request.data ≠ [] then none
  else if request.command = 2 then some (.subscribe request.topic)
  else if request.command = 3 then some (.unsubscribe request.topic)
  else none

def encode (request : Request) : List UInt8 :=
  numberField 1 (signedBits request.command) ++ bytesField 2 (Text.bytesOf request.topic) ++
    bytesField 3 request.data

def slot? : Nat → Option (Slot Request)
  | 1 => some (.number "Request.command" fun n request => { request with command := .ofNat n })
  | 2 =>
      some (.bytes "Request.topic" fun bytes request =>
        match Text.decode? bytes with
        | some topic => .ok { request with topic := String.ofList topic }
        | none => .error .notText)
  | 3 => some (.bytes "Request.data" fun bytes request => .ok { request with data := bytes })
  | _ => none

def decode (bytes : List UInt8) : Except DecodeError Request :=
  readFields slot? ⟨0, "", []⟩ bytes

end Request

end Courier.Wire
