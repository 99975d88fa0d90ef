import Courier.Digest
import Courier.Config.Basic
import Courier.Payload

/-! What a client is asked to publish. -/

namespace Courier

structure Publication where
  topic : String
  /-- The message, or the body of each message of a batch. -/
  template : String
  count : Nat
  sender : String
  records : Bool
  dataSize : Option Nat
  sleep : Span
  random : Nat → Nat → UInt8

namespace Publication

def draw (p : Publication) (index size : Nat) : List UInt8 :=
  (List.range size).map (p.random index)

def payload (p : Publication) (nanos index : Nat) : List UInt8 :=
  Text.encode
    (match p.dataSize with
    | some size => Payload.signed p.sender (p.draw index size)
    | none =>
        if p.count = 1 then p.template.toList
        else (Payload.Batch.make nanos index (p.draw index Payload.suffixBytes) p.template).text)

end Publication

structure PublishReport where
  sent : Nat
  dropped : Nat
  cancelled : Nat
  elapsed : Span
  deriving DecidableEq, Repr

end Courier
