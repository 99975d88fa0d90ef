import Courier.Statistics.Report

/-! The mean latency of the messages that went out. The divisor keeps the low 32 bits of their
number, so that the report tells the mean of any number of messages that 32 bits hold, and beyond
that of none but latencies so short that every quotient is zero. -/

namespace Courier.Statistics

def Event.latency? : Event → Option Span
  | .sent latency => some latency
  | .attempt | .retry | .dropped | .enqueued | .bufferDropped | .processed | .received | .trace
  | .unknown | .decodeError => none

def ofEvents (events : List Event) : Statistics := events.foldl record {}

def latencies (events : List Event) : List Span := events.filterMap Event.latency?

/-- The mean, rounded down to a nanosecond; zero of no latencies. -/
def mean (latencies : List Span) : Span := ⟨(Span.sum latencies).nanos / latencies.length⟩

theorem mean_replicate {n : Nat} (some : 0 < n) (latency : Span) :
    mean (List.replicate n latency) = latency := by
  rw [mean, Span.nanos_sum_replicate, List.length_replicate]
  exact congrArg Span.mk (Nat.mul_div_cancel_left _ some)

section Counting

variable {stats : Statistics} {event : Event} {events : List Event}

theorem acked_record :
    (stats.record event).acked = stats.acked + event.latency?.toList.length := by
  cases event <;> rfl

theorem totalLatency_record :
    (stats.record event).totalLatency.nanos =
      stats.totalLatency.nanos + (Span.sum event.latency?.toList).nanos := by
  cases event <;> rfl

theorem latencies_cons (event : Event) (events : List Event) :
    latencies (event :: events) = event.latency?.toList ++ latencies events := by
  cases event <;> rfl

theorem counts_foldl_record (events : List Event) (stats : Statistics) :
    (events.foldl record stats).acked = stats.acked + (latencies events).length ∧
      (events.foldl record stats).totalLatency.nanos =
        stats.totalLatency.nanos + (Span.sum (latencies events)).nanos := by
  induction events generalizing stats with
  | nil => exact ⟨rfl, rfl⟩
  | cons event events induction =>
      obtain ⟨acked, time⟩ := induction (stats.record event)
      rw [List.foldl_cons, acked, time, acked_record, totalLatency_record, latencies_cons,
        List.length_append, Span.nanos_sum_append]
      exact ⟨Nat.add_assoc .., Nat.add_assoc ..⟩

theorem acked_ofEvents (events : List Event) :
    (ofEvents events).acked = (latencies events).length := by
  rw [ofEvents, (counts_foldl_record events {}).1]
  exact Nat.zero_add _

theorem totalLatency_ofEvents (events : List Event) :
    (ofEvents events).totalLatency = Span.sum (latencies events) := by
  have time := (counts_foldl_record events {}).2
  rw [show ({} : Statistics).totalLatency.nanos = 0 from rfl, Nat.zero_add] at time
  exact congrArg Span.mk time

end Counting

section Dividing

variable {events : List Event} {elapsed : Span} {stats : Statistics}

theorem averageLatency?_eq_none_iff :
    stats.averageLatency? = none ↔ stats.acked ≠ 0 ∧ stats.acked % Number.limit 32 = 0 := by
  unfold averageLatency?
  split
  case isTrue none => simp [none]
  case isFalse some => simp [some]

theorem measured?_eq_none_iff :
    stats.measured? elapsed = none ↔ stats.averageLatency? = none := by
  rw [measured?, Option.map_eq_none_iff]

private theorem div_mod_eq_div_iff {n d m : Nat} (cut : d % m ≠ 0) (large : m ≤ d)
    (positive : 0 < m) : n / (d % m) = n / d ↔ n < d % m := by
  have rest : d % m < m := Nat.mod_lt d positive
  have whole : m * 1 ≤ m * (d / m) :=
    Nat.mul_le_mul_left m ((Nat.le_div_iff_mul_le positive).mpr (by omega))
  have split := Nat.mod_add_div d m
  have double : d % m + d % m ≤ d := by omega
  constructor
  · -- The divisor is at least twice what is left of it, and so is its quotient half the other.
    intro same
    refine Nat.lt_of_not_le fun enough => ?_
    have once : 1 * (d % m) ≤ n / d * (d % m) :=
      Nat.mul_le_mul_right _ (same ▸ (Nat.le_div_iff_mul_le (by omega)).mpr (by omega))
    have twice : n / d * (d % m) + n / d * (d % m) ≤ n := by
      rw [← Nat.mul_add]
      exact Nat.le_trans (Nat.mul_le_mul_left _ double) (Nat.div_mul_le_self n d)
    have within : n < n / d * (d % m) + d % m := by
      have next := Nat.lt_mul_div_succ n (Nat.pos_of_ne_zero cut)
      rwa [same, Nat.mul_add_one, Nat.mul_comm] at next
    omega
  · intro short
    rw [Nat.div_eq_of_lt short, Nat.div_eq_of_lt (by omega)]

theorem averageLatency?_ofEvents_of_lt (few : (latencies events).length < Number.limit 32) :
    (ofEvents events).averageLatency? = some (mean (latencies events)) := by
  rw [averageLatency?, acked_ofEvents, totalLatency_ofEvents, Nat.mod_eq_of_lt few, mean]
  split
  case isTrue none => rw [none, Nat.div_zero]; rfl
  case isFalse => rfl

theorem averageLatency?_ofEvents_of_le (many : Number.limit 32 ≤ (latencies events).length) :
    (ofEvents events).averageLatency? = some (mean (latencies events)) ↔
      (Span.sum (latencies events)).nanos < (latencies events).length % Number.limit 32 := by
  have positive : 0 < Number.limit 32 := Number.power_pos (by decide) 32
  rw [averageLatency?, acked_ofEvents, totalLatency_ofEvents, mean, if_neg (by omega)]
  split
  case isTrue none =>
      rw [none]
      exact iff_of_false nofun (Nat.not_lt_zero _)
  case isFalse some =>
      rw [Option.some.injEq, Span.mk.injEq]
      exact div_mod_eq_div_iff some many positive

end Dividing

structure TellsMean (events : List Event) : Prop where
  average : (ofEvents events).averageLatency? = some (mean (latencies events))
  report : ∀ elapsed, ∃ measured, (ofEvents events).measured? elapsed = some measured ∧
    measured.averageLatency = (mean (latencies events)).roundedText

theorem tellsMean_of_average {events : List Event}
    (average : (ofEvents events).averageLatency? = some (mean (latencies events))) :
    TellsMean events where
  average
  report elapsed := by
    rw [measured?, average]
    exact ⟨_, rfl, rfl⟩

/-- The mean is told of as many messages as 32 bits count, and of more only where they took so
short a time that it is zero in any case. There is no average, and no report, where the low 32 bits
of the number of messages are zero but the number is not. -/
theorem tellsMean_iff (events : List Event) (elapsed : Span) :
    (TellsMean events ↔
      (latencies events).length < Number.limit 32 ∨
        (Span.sum (latencies events)).nanos < (latencies events).length % Number.limit 32) ∧
    ((ofEvents events).averageLatency? = none ↔
      (latencies events).length ≠ 0 ∧ (latencies events).length % Number.limit 32 = 0) ∧
    ((ofEvents events).measured? elapsed = none ↔ (ofEvents events).averageLatency? = none) := by
  refine ⟨⟨fun tells => ?_, ?_⟩, ?_, measured?_eq_none_iff⟩
  · rcases Nat.lt_or_ge (latencies events).length (Number.limit 32) with few | many
    · exact .inl few
    · exact .inr ((averageLatency?_ofEvents_of_le many).mp tells.average)
  · intro told
    apply tellsMean_of_average
    rcases Nat.lt_or_ge (latencies events).length (Number.limit 32) with few | many
    · exact averageLatency?_ofEvents_of_lt few
    · exact (averageLatency?_ofEvents_of_le many).mpr (told.resolve_left (Nat.not_lt.mpr many))
  · rw [averageLatency?_eq_none_iff, acked_ofEvents]

/-- After 2 ^ 32 messages of a millisecond each, the mean is a millisecond, and nothing is told. -/
theorem mean_untold_of_many :
    ∃ events elapsed, (latencies events).length = 4294967296 ∧
      mean (latencies events) = .ofMillis 1 ∧ (ofEvents events).averageLatency? = none ∧
        (ofEvents events).measured? elapsed = none ∧ ¬TellsMean events := by
  have latency : (Event.sent (.ofMillis 1)).latency? = some (.ofMillis 1) := rfl
  have sent : latencies (List.replicate 4294967296 (.sent (.ofMillis 1))) =
      List.replicate 4294967296 (.ofMillis 1) := by
    rw [latencies, List.filterMap_replicate_of_some latency]
  have length : (latencies (List.replicate 4294967296 (.sent (.ofMillis 1)))).length =
      4294967296 := by
    rw [sent, List.length_replicate]
  have none : (ofEvents (List.replicate 4294967296 (.sent (.ofMillis 1)))).averageLatency? =
      none := by
    rw [averageLatency?_eq_none_iff, acked_ofEvents, length]
    decide
  refine ⟨_, .ofSeconds 4294968, length, ?_, none, measured?_eq_none_iff.mpr none, ?_⟩
  · rw [sent]
    exact mean_replicate (by decide) _
  · intro tells
    cases none.symm.trans tells.average

end Courier.Statistics
