import Courier.Number.Power
import Courier.Span.Basic

/-! The counters of a client. They only grow. -/

namespace Courier

structure Statistics where
  sent : Nat := 0
  acked : Nat := 0
  dropped : Nat := 0
  retried : Nat := 0
  sendAttempts : Nat := 0
  totalLatency : Span := .zero
  frames : Nat := 0
  enqueued : Nat := 0
  bufferDropped : Nat := 0
  processed : Nat := 0
  received : Nat := 0
  traces : Nat := 0
  unknown : Nat := 0
  decodeErrors : Nat := 0
  deriving DecidableEq, Repr, Inhabited

namespace Statistics

inductive Event where
  | attempt
  /-- A message went out after a time. Nodes do not acknowledge, so it counts as acknowledged. -/
  | sent (latency : Span)
  | retry
  | dropped
  | enqueued
  | bufferDropped
  | processed
  | received
  | trace
  | unknown
  | decodeError
  deriving DecidableEq, Repr

def record (stats : Statistics) : Event → Statistics
  | .attempt => { stats with sendAttempts := stats.sendAttempts + 1 }
  | .sent latency =>
      { stats with
        sent := stats.sent + 1
        acked := stats.acked + 1
        totalLatency := stats.totalLatency + latency }
  | .retry => { stats with retried := stats.retried + 1 }
  | .dropped => { stats with dropped := stats.dropped + 1 }
  | .enqueued =>
      { stats with frames := stats.frames + 1, enqueued := stats.enqueued + 1 }
  | .bufferDropped =>
      { stats with frames := stats.frames + 1, bufferDropped := stats.bufferDropped + 1 }
  | .processed => { stats with processed := stats.processed + 1 }
  | .received => { stats with received := stats.received + 1 }
  | .trace => { stats with traces := stats.traces + 1 }
  | .unknown => { stats with unknown := stats.unknown + 1 }
  | .decodeError => { stats with decodeErrors := stats.decodeErrors + 1 }

/-- The time per acknowledged message, rounded down to a nanosecond. The divisor has 32 bits; where
they are all zero although there are messages, there is no average. -/
def averageLatency? (stats : Statistics) : Option Span :=
  if stats.acked = 0 then some .zero
  else if stats.acked % Number.limit 32 = 0 then none
  else some ⟨stats.totalLatency.nanos / (stats.acked % Number.limit 32)⟩

end Statistics

end Courier
