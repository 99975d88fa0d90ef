import Courier.Command
import Courier.Status

/-! Where commands are handed over to the stream. A sink may take its time, and it may fail. -/

namespace Courier

inductive Reply where
  | accepted
  | failed (error : StreamError)
  deriving DecidableEq, Repr

/-- What a sink does with a command: after a delay in milliseconds it replies, or it never does. -/
structure Outcome where
  delay : Nat
  reply : Option Reply
  deriving DecidableEq, Repr, Inhabited

def Outcome.immediate : Outcome := ⟨0, some .accepted⟩

structure Transit where
  command : Command
  arrival : Option (Nat × Reply)
  deriving DecidableEq, Repr

namespace Transit

def reply? (transit : Transit) (now : Nat) : Option Reply :=
  match transit.arrival with
  | some (time, reply) => if time ≤ now then some reply else none
  | none => none

def deadline? (transit : Transit) : Option Nat := transit.arrival.map (·.1)

end Transit

structure Call where
  command : Command
  message : Option Nat
  /-- The earlier calls for the message. -/
  attempt : Nat
  deriving DecidableEq, Repr

structure Sink where
  /-- The number of the message that a command carries, after some calls. -/
  number : List Call → Command → Option Nat
  outcome : Call → Outcome
  calls : List Call
  accepted : List Command
  inside : Nat
  peak : Nat

namespace Sink

def start (number : List Call → Command → Option Nat) (outcome : Call → Outcome) : Sink :=
  ⟨number, outcome, [], [], 0, 0⟩

def accepting : Sink := start (fun _ _ => none) fun _ => .immediate

def callOf (sink : Sink) (command : Command) : Call :=
  let message := sink.number sink.calls command
  ⟨command, message, sink.calls.countP (·.message = message)⟩

def offer (sink : Sink) (now : Nat) (command : Command) : Sink × Transit :=
  let call := sink.callOf command
  let outcome := sink.outcome call
  ({ sink with
      calls := sink.calls ++ [call]
      inside := sink.inside + 1
      peak := max sink.peak (sink.inside + 1) },
    ⟨command, outcome.reply.map (now + outcome.delay, ·)⟩)

def leave (sink : Sink) : Sink := { sink with inside := sink.inside - 1 }

def settle (sink : Sink) (command : Command) : Reply → Sink
  | .accepted => { sink.leave with accepted := sink.accepted ++ [command] }
  | .failed _ => sink.leave

end Sink

end Courier
