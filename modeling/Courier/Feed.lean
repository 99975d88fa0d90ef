import Courier.Command
import Courier.Envelope.Printer
import Courier.Status
import Courier.Wire.Response

/-! What a node pushes to a client. -/

namespace Courier

inductive Arrival where
  | frame (response : Wire.Response)
  | failed (status : Status)
  | ended
  deriving DecidableEq, Repr

/-- What a node pushes after it has read commands. -/
structure Reaction where
  commands : Nat
  /-- What it pushes then, in order, and how long after. -/
  arrivals : List (Nat × Arrival)
  deriving DecidableEq, Repr

structure Feed where
  /-- What arrives, in order, and not before its time. After the last the stream stays open. -/
  script : List (Nat × Arrival)
  reaction : Option Reaction
  echoing : Bool
  echoes : List Wire.Response
  deriving DecidableEq, Repr

namespace Feed

def ofScript (script : List (Nat × Arrival)) (echoing : Bool) : Feed := ⟨script, none, echoing, []⟩

def next? (feed : Feed) (now : Nat) : Option (Arrival × Feed) :=
  let echo? : Option (Arrival × Feed) :=
    match feed.echoes with
    | response :: echoes => some (.frame response, { feed with echoes })
    | [] => none
  match feed.script with
  | (time, arrival) :: script =>
      if time ≤ now then some (arrival, { feed with script }) else echo?
  | [] => echo?

def deadline? (feed : Feed) : Option Nat := feed.script.head?.map (·.1)

def echoOf (topic : String) (payload : List UInt8) : Wire.Response :=
  { command := Wire.ResponseKind.message.code
    data := Envelope.encode ⟨"echo", topic, payload, "node-echo"⟩ }

def echo (feed : Feed) : Command → Feed
  | .publish topic payload =>
      if feed.echoing then { feed with echoes := feed.echoes ++ [echoOf topic payload] } else feed
  | _ => feed

def react (feed : Feed) (now : Nat) : Feed :=
  match feed.reaction with
  | none => feed
  | some ⟨commands + 2, arrivals⟩ => { feed with reaction := some ⟨commands + 1, arrivals⟩ }
  | some ⟨_, arrivals⟩ =>
      { feed with
        script := feed.script ++ arrivals.map fun (delay, arrival) => (now + delay, arrival)
        reaction := none }

def accept (feed : Feed) (now : Nat) (command : Command) : Feed := (feed.echo command).react now

end Feed

end Courier
