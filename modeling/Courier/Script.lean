import Courier.Payload
import Courier.Sink

/-! Sinks that follow a script: for each message the outcomes of its attempts, in order. -/

namespace Courier

namespace Outcome

def ofList (outcomes : List Outcome) (attempt : Nat) : Outcome :=
  (outcomes[attempt]?.or outcomes.getLast?).getD immediate

end Outcome

def publishedPayloads (commands : List Command) : List (List UInt8) :=
  commands.filterMap Command.payload?

structure Script where
  number : List Call → List UInt8 → Nat
  outcomes : Nat → List Outcome
  subscribe : Outcome
  unsubscribe : Outcome

namespace Script

/-- The number of a message, from zero. A batch message tells it, any other payload has its place in
the order in which the payloads were first handed over. -/
def numberOf (calls : List Call) (payload : List UInt8) : Nat :=
  match Payload.Batch.ofBytes? payload with
  | some batch => batch.number - 1
  | none =>
      let known := calls.findSome? fun call =>
        if call.command.payload? = some payload then call.message else none
      known.getD (calls.countP fun call => call.message.isSome && call.attempt = 0)

def outcome (script : Script) (call : Call) : Outcome :=
  match call.command with
  | .publish .. => .ofList (script.outcomes (call.message.getD 0)) call.attempt
  | .subscribe _ => script.subscribe
  | .unsubscribe _ => script.unsubscribe

def sink (script : Script) : Sink :=
  .start (fun calls command => command.payload?.map (script.number calls)) script.outcome

end Script

end Courier
