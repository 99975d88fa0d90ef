import Courier.Buffer
import Courier.Config.Basic
import Courier.Console
import Courier.Credit
import Courier.Delivery
import Courier.Feed
import Courier.Ledger
import Courier.Log
import Courier.Sink
import Courier.Slots
import Courier.Statistics.Basic

/-! What the parts of a running client have in common. Each part moves in steps, and a step changes
this and the part's own state. A part that cannot move waits for the others or for the clock. -/

namespace Courier

structure Shared where
  /-- The clock, in milliseconds since the start. -/
  now : Nat
  /-- The time of day at the start, in nanoseconds. -/
  wall : Nat
  cancelled : Bool
  shutdown : Bool
  flow : Config.FlowControl
  checked : Bool
  credits : CreditPool
  slots : Slots
  sink : Sink
  feed : Feed
  buffer : Buffer
  ledger : Option Ledger
  stats : Statistics
  log : List Log.Entry
  console : List Console.Line
  kept : List Kept

namespace Shared

def nanos (s : Shared) : Nat := s.wall + s.now * 1000000

def after (s : Shared) (span : Span) : Nat := s.now + span.ticks

def elapsedSince (s : Shared) (start : Nat) : Span := .ofMillis (s.now - start)

/-- Whether the number of attempts overflows, so that no send gets to its first. -/
def overflows (s : Shared) : Bool := s.checked && s.flow.attempts = 0

def record (s : Shared) (event : Statistics.Event) : Shared :=
  { s with stats := s.stats.record event }

def note (s : Shared) (entry : Log.Entry) : Shared := { s with log := s.log ++ [entry] }

def noteAll (s : Shared) (entries : List Log.Entry) : Shared := { s with log := s.log ++ entries }

def print (s : Shared) (line : Console.Line) : Shared :=
  { s with console := s.console ++ [line] }

def addCredits (s : Shared) (amount : Nat) : Shared :=
  { s with credits := s.credits.add amount }

def offer (s : Shared) (command : Command) : Shared × Transit :=
  let (sink, transit) := s.sink.offer s.now command
  ({ s with sink }, transit)

def withdraw (s : Shared) : Shared := { s with sink := s.sink.leave }

def settle (s : Shared) (command : Command) (reply : Reply) : Shared :=
  { s with
    sink := s.sink.settle command reply
    feed :=
      match reply with
      | .accepted => s.feed.accept s.now command
      | .failed _ => s.feed }

/-- Queues a line for the ledger, if there is one, as soon as there is room. -/
def recordLine? (s : Shared) (line : String) : Option Shared :=
  match s.ledger with
  | none => some s
  | some ledger => (ledger.record? line).map fun ledger => { s with ledger := some ledger }

end Shared

end Courier
