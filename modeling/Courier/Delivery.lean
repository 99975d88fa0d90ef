import Courier.Envelope.Basic
import Courier.Ledger
import Courier.Wire.Response

/-! What workers hand to the gates, and the gates. -/

namespace Courier

inductive Delivery where
  /-- A message, with its place in the order in which messages were received. -/
  | message (seq : Nat) (envelope : Envelope)
  | trace (trace : Trace)
  deriving DecidableEq, Repr

structure Kept where
  gate : String
  delivery : Delivery
  deriving DecidableEq, Repr

/-- One of the things that a gate does with a delivery. -/
inductive Deed where
  | print (seq : Nat) (message : List UInt8)
  | log (trace : Trace)
  | record (line : String)
  | keep (kept : Kept)
  | rest (delay : Nat)
  deriving DecidableEq, Repr

/-- A gate is known by the deliveries that it accepts and by what it does with them, in order. -/
structure Gate where
  accepts : Delivery → Bool
  work : Delivery → List Deed

namespace Gate

def console : Gate where
  accepts
    | .message .. => true
    | .trace _ => false
  work
    | .message seq envelope => [.print seq envelope.message]
    | .trace _ => []

def traceLog : Gate where
  accepts
    | .message .. => false
    | .trace _ => true
  work
    | .message .. => []
    | .trace trace => [.log trace]

def ledger (receiver : String) : Gate where
  accepts
    | .message .. => true
    | .trace _ => false
  work
    | .message _ envelope =>
        [.record (Ledger.receiveLine receiver envelope.publisher envelope.message)]
    | .trace _ => []

def keeper (name : String) (messages traces : Bool) (delay : Nat) : Gate where
  accepts
    | .message .. => messages
    | .trace _ => traces
  work delivery := [.rest delay, .keep ⟨name, delivery⟩]

end Gate

end Courier
