import Courier.Proofs.Publishing.Attempts
import Courier.Proofs.World.Reach

/-! A message is tried until it is accepted, until an error comes that no other attempt can mend, or
until the retries are used up. Each attempt is a call of the sink, at least a retry delay after the
one before, and each has its place in the counters and gives back the credit that it took. -/

namespace Courier

theorem Span.le_ofMillis {span : Span} {millis : Nat} (waited : span.ticks ≤ millis) :
    span ≤ .ofMillis millis :=
  Nat.le_trans span.nanos_le_ticks (Nat.mul_le_mul_right _ waited)

namespace Errand

variable {s s' : Shared} {m m' : Sending}

theorem handed_of_calls (same : s'.sink.calls = s.sink.calls) :
    handed ⟨⟨s, m⟩, .advance, ⟨s', m'⟩⟩ = [] := by
  simp [handed, same]

theorem handed_offer :
    handed ⟨⟨s, m⟩, .advance, ⟨(s.offer m.command).1, m'⟩⟩ =
      [⟨s.now, m.command, s.sink.outcome (s.sink.callOf m.command)⟩] := by
  simp [handed, Shared.offer, Sink.offer, Sink.callOf]

end Errand

namespace Sending

variable {s s' : Shared} {m m' : Sending}

theorem Move.attempted (move : Move s m s' m') :
    Errand.handed ⟨⟨s, m⟩, .advance, ⟨s', m'⟩⟩ = [] ∨
      m.stage = .counted ∧ m' = m.goto (.transit (s.offer m.command).2) ∧
        Errand.handed ⟨⟨s, m⟩, .advance, ⟨s', m'⟩⟩ =
          [⟨s.now, m.command, s.sink.outcome (s.sink.callOf m.command)⟩] := by
  cases move with
  | offer stage => exact .inr ⟨stage, rfl, Errand.handed_offer⟩
  | crash | charge | miss | find | abandon | starve | despair | wake | count | forgo | withdraw
  | accept | refuse | reward | confirm | refund | drop | retry | yield | again =>
      exact .inl (Errand.handed_of_calls rfl)

theorem Move.command (move : Move s m s' m') : m'.command = m.command := by
  cases move <;> rfl

theorem Move.cancelled_of_ended (move : Move s m s' m') (ended : m'.stage = .ended .cancelled) :
    s.cancelled = true := by
  cases move with
  | abandon _ cancelled | despair _ cancelled | forgo _ cancelled | withdraw _ cancelled
  | yield _ cancelled => exact cancelled
  | crash | charge | miss | find | starve | wake | count | offer | accept | refuse | reward
  | confirm | refund | drop | retry | again => cases ended

theorem Move.overflows_of_ended (move : Move s m s' m') (ended : m'.stage = .ended .broken) :
    s.overflows = true := by
  cases move with
  | crash _ overflows => exact overflows
  | charge | miss | find | abandon | starve | despair | wake | count | forgo | offer | withdraw
  | accept | refuse | reward | confirm | refund | drop | retry | yield | again => cases ended

def Waits (delay now : Nat) (m : Sending) (time : Nat) : Prop :=
  match m.stage with
  | .wanting | .looking | .starved _ | .charged | .counted => time + delay ≤ now
  | .resting deadline => time + delay ≤ deadline
  | .transit _ | .accepted | .rewarded | .refused _ | .refunded _ => time ≤ now
  | .ended _ => True

theorem Waits.later {delay now now' time : Nat} (waits : m.Waits delay now time)
    (later : now ≤ now') : m.Waits delay now' time := by
  cases stage : m.stage with
  | ended => simp only [Waits, stage]
  | resting =>
      simp only [Waits, stage] at waits ⊢
      exact waits
  | wanting | looking | starved | charged | counted | transit | accepted | rewarded | refused
  | refunded =>
      simp only [Waits, stage] at waits ⊢
      omega

theorem Move.waits {time : Nat} (move : Move s m s' m')
    (waits : m.Waits s.flow.retryDelay.ticks s.now time) :
    m'.Waits s.flow.retryDelay.ticks s.now time := by
  cases move with
  | charge stage | miss stage | find stage | starve stage | wake stage | count stage
  | accept stage | refuse stage | reward stage | refund stage =>
      simpa only [Waits, goto, stage] using waits
  | offer stage =>
      simp only [Waits, goto, stage] at waits ⊢
      omega
  | retry stage =>
      simp only [Waits, stage] at waits ⊢
      exact Nat.add_le_add_right waits _
  | again stage _ due =>
      simp only [Waits, goto, stage] at waits ⊢
      exact Nat.le_trans waits due
  | crash | abandon | despair | forgo | withdraw | confirm | drop | yield => trivial

/-- What is known of the replies: no attempt before this one was decisive, and whether this one
is. -/
def Knows (replies : Nat → Reply) (retries : Nat) (m : Sending) : Prop :=
  1 ≤ m.attempt ∧ m.attempt ≤ decisive replies retries ∧
  match m.stage with
  | .transit transit =>
      ∀ time reply, transit.arrival = some (time, reply) → reply = replies m.attempt
  | .accepted | .rewarded => replies m.attempt = .accepted
  | .refused error | .refunded error => replies m.attempt = .failed error
  | .ended .sent => m.attempt = decisive replies retries ∧ replies m.attempt = .accepted
  | .ended .dropped => m.attempt = decisive replies retries ∧ replies m.attempt ≠ .accepted
  | .wanting | .looking | .starved _ | .charged | .counted | .resting _ | .ended .cancelled
  | .ended .broken => True

theorem isLast_iff {flow : Config.FlowControl} (first : 1 ≤ m.attempt)
    (within : m.attempt ≤ flow.maxRetries.toNat + 1) :
    m.isLast flow = true ↔ m.attempt = flow.maxRetries.toNat + 1 := by
  have bound := flow.maxRetries.toNat_lt
  rw [isLast, decide_eq_true_iff, counter, Config.FlowControl.attempts, ← UInt32.toNat_inj,
    UInt32.toNat_ofNat', UInt32.toNat_add]
  simp only [UInt32.reduceToNat]
  omega

theorem Transit.arrival_of_reply {transit : Transit} {now : Nat} {reply : Reply}
    (replied : transit.reply? now = some reply) :
    ∃ time, transit.arrival = some (time, reply) := by
  unfold Transit.reply? at replied
  split at replied
  case h_1 time reply' arrival =>
      obtain ⟨_, same⟩ := Option.ite_none_right_eq_some.mp replied
      cases same
      exact ⟨time, arrival⟩
  case h_2 => cases replied

theorem Move.knows {replies : Nat → Reply} (move : Move s m s' m')
    (heard : ∀ attempt ∈ Errand.handed ⟨⟨s, m⟩, .advance, ⟨s', m'⟩⟩,
      ∀ reply ∈ attempt.outcome.reply, reply = replies m.attempt)
    (knows : m.Knows replies s.flow.maxRetries.toNat) :
    m'.Knows replies s.flow.maxRetries.toNat := by
  obtain ⟨first, within, known⟩ := knows
  have bound := Nat.le_trans within decisive_le
  cases move with
  | crash | charge | miss | find | starve | wake | count | again | abandon | despair | forgo | withdraw
  | yield => exact ⟨first, within, trivial⟩
  | reward stage | refund stage =>
      simp only [stage] at known
      exact ⟨first, within, known⟩
  | offer =>
      refine ⟨first, within, ?_⟩
      intro time reply arrival
      simp only [Shared.offer, Sink.offer, Option.map_eq_some_iff] at arrival
      obtain ⟨reply', replied, same⟩ := arrival
      cases same
      rw [Errand.handed_offer, List.forall_mem_singleton] at heard
      exact heard _ replied
  | accept stage _ replied | refuse stage _ replied =>
      simp only [stage] at known
      obtain ⟨time, arrival⟩ := Transit.arrival_of_reply replied
      exact ⟨first, within, (known time _ arrival).symm⟩
  | confirm stage =>
      simp only [stage] at known
      have settles : Settles replies s.flow.maxRetries.toNat m.attempt :=
        ⟨first, .inl (by rw [known]; rfl)⟩
      exact ⟨first, within, eq_decisive within settles, known⟩
  | drop stage final =>
      simp only [stage] at known
      rw [Bool.or_eq_true, isLast_iff first bound] at final
      have settles : Settles replies s.flow.maxRetries.toNat m.attempt :=
        ⟨first, by rw [known]; exact final.symm⟩
      have failed : replies m.attempt ≠ .accepted := by simp [known]
      exact ⟨first, within, eq_decisive within settles, failed⟩
  | retry stage more =>
      simp only [stage] at known
      rw [Bool.or_eq_false_iff, ← Bool.not_eq_true, isLast_iff first bound] at more
      refine ⟨Nat.le_add_left .., lt_decisive within ?_, trivial⟩
      rintro ⟨_, final | last⟩
      · rw [known] at final
        simp only [Reply.isFinal, more.2] at final
        cases final
      · exact more.1 last

def Tallied (m : Sending) (calls attempts retried sent dropped : Int) : Prop :=
  match m.stage with
  | .wanting | .looking | .starved _ | .charged | .resting _ =>
      calls + 1 = m.attempt ∧ attempts + 1 = m.attempt ∧ retried + 1 = m.attempt ∧
        sent = 0 ∧ dropped = 0
  | .counted =>
      calls + 1 = m.attempt ∧ attempts = m.attempt ∧ retried + 1 = m.attempt ∧
        sent = 0 ∧ dropped = 0
  | .transit _ | .accepted | .rewarded | .refused _ | .refunded _ =>
      calls = m.attempt ∧ attempts = m.attempt ∧ retried + 1 = m.attempt ∧
        sent = 0 ∧ dropped = 0
  | .ended .sent =>
      calls = m.attempt ∧ attempts = m.attempt ∧ retried + 1 = m.attempt ∧
        sent = 1 ∧ dropped = 0
  | .ended .dropped =>
      calls = m.attempt ∧ attempts = m.attempt ∧ retried + 1 = m.attempt ∧
        sent = 0 ∧ dropped = 1
  | .ended .broken =>
      m.attempt = 1 ∧ calls = 0 ∧ attempts = 0 ∧ retried = 0 ∧ sent = 0 ∧ dropped = 0
  | .ended .cancelled =>
      calls ≤ m.attempt ∧ (attempts = retried ∨ attempts = retried + 1) ∧
        sent = 0 ∧ dropped = 0

end Sending

theorem Sending.Move.tallied {s s' : Shared} {m m' : Sending}
    {calls attempts retried sent dropped : Int} (move : Move s m s' m')
    (tallied : m.Tallied calls attempts retried sent dropped) :
    m'.Tallied (calls + (Errand.handed ⟨⟨s, m⟩, .advance, ⟨s', m'⟩⟩).length)
      (attempts + ((s'.stats.sendAttempts : Int) - s.stats.sendAttempts))
      (retried + ((s'.stats.retried : Int) - s.stats.retried))
      (sent + ((s'.stats.sent : Int) - s.stats.sent))
      (dropped + ((s'.stats.dropped : Int) - s.stats.dropped)) := by
  cases move with
  | crash stage _ first =>
      simp only [Tallied, stage, goto, Errand.handed, List.length_map, List.length_drop]
        at tallied ⊢
      omega
  | offer stage =>
      rw [Errand.handed_offer]
      simp only [Tallied, stage, goto, Shared.offer, List.length_singleton] at tallied ⊢
      omega
  | charge stage | miss stage | find stage | abandon stage | starve stage | despair stage
  | wake stage | count stage | forgo stage | withdraw stage | accept stage | refuse stage
  | reward stage | confirm stage | refund stage | drop stage | retry stage | yield stage
  | again stage =>
      simp only [Tallied, stage, goto, Shared.record, Shared.note, Shared.addCredits,
        Shared.settle, Shared.withdraw, Statistics.record, Errand.handed, Sink.settle, Sink.leave,
        List.length_map, List.length_drop] at tallied ⊢
      omega

namespace Sending

/-- What a send has brought to the pool, less what it took. -/
def yielded (flow : Config.FlowControl) (m : Sending) : Int :=
  match m.stage with
  | .charged | .counted | .transit _ | .accepted | .refused _ => -1
  | .rewarded | .ended .sent => flow.creditIncrement - 1
  | .wanting | .looking | .starved _ | .refunded _ | .resting _ | .ended .dropped
  | .ended .cancelled | .ended .broken => 0

variable {s s' : Shared} {m m' : Sending}

theorem Move.yielded (move : Move s m s' m')
    (fits : (m.creditEvent m').loss s.flow s.credits = 0) :
    (s'.credits.available : Int) - s.credits.available =
      m'.yielded s.flow - m.yielded s.flow := by
  have available := CreditEvent.after?_available move.credits.1
  rw [fits] at available
  cases move with
  | charge stage | forgo stage | withdraw stage | reward stage | refund stage =>
      simp only [creditEvent, holdsCredit, stage, goto, reduceCtorEq, if_true, if_false,
        CreditEvent.addition?, Option.getD_some, Option.getD_none, Nat.add_zero] at available
      simp only [Sending.yielded, stage, goto]
      omega
  | crash stage | miss stage | find stage | abandon stage | starve stage | despair stage
  | wake stage | count stage | offer stage | accept stage | refuse stage | confirm stage
  | drop stage | retry stage | yield stage | again stage =>
      simp only [Sending.yielded, stage, goto, Shared.record, Shared.note, Shared.offer,
        Shared.settle]
      omega

end Sending

namespace Errand

variable {flow : Config.FlowControl} {topic : String} {payload : List UInt8}
  {replies : Nat → Reply} {past : List (Transition Errand Act)} {e e' : Errand} {act : Act}
  {overflows : Bool}

/-- What every history of a send keeps. -/
structure Retrying (flow : Config.FlowControl) (overflows : Bool) (topic : String) (payload : List UInt8)
    (replies : Nat → Reply) (past : List (Transition Errand Act)) (e : Errand) : Prop where
  settings : e.shared.flow = flow
  command : e.sending.command = .publish topic payload
  alike : ∀ attempt ∈ attempts past, attempt.command = .publish topic payload
  apart : (attempts past).Pairwise fun earlier later =>
    earlier.time + flow.retryDelay.ticks ≤ later.time
  waits : ∀ attempt ∈ attempts past,
    e.sending.Waits flow.retryDelay.ticks e.shared.now attempt.time
  knows : e.sending.Knows replies flow.maxRetries.toNat
  tallied : e.sending.Tallied (attempts past).length (growth (·.stats.sendAttempts) past)
    (growth (·.stats.retried) past) (growth (·.stats.sent) past) (growth (·.stats.dropped) past)
  revoked : e.sending.stage = .ended .cancelled → e.shared.cancelled = true
  overflowed : e.sending.stage = .ended .broken → e.shared.overflows = true
  built : e.shared.overflows = overflows

theorem retrying_start (s : Shared) (index : Nat) :
    Retrying s.flow s.overflows topic payload replies [] (start s topic payload index) where
  settings := rfl
  command := rfl
  alike := List.forall_mem_nil _
  apart := .nil
  waits := List.forall_mem_nil _
  knows := ⟨Nat.le_refl _, decisive_pos, trivial⟩
  tallied := ⟨rfl, rfl, rfl, rfl, rfl⟩
  revoked := fun ended => by cases ended
  overflowed := fun ended => by cases ended
  built := rfl

theorem Retrying.advance (retrying : Retrying flow overflows topic payload replies past e)
    {s' : Shared} {m' : Sending} (move : Sending.Move e.shared e.sending s' m')
    (answered : Answered replies (past ++ [⟨e, .advance, ⟨s', m'⟩⟩])) :
    Retrying flow overflows topic payload replies (past ++ [⟨e, .advance, ⟨s', m'⟩⟩]) ⟨s', m'⟩ := by
  obtain ⟨s, m⟩ := e
  obtain ⟨rfl, command, alike, apart, waits, knows, tallied, revoked, _, built⟩ := retrying
  simp only at move command waits knows tallied
  have kept : s'.flow = s.flow ∧ s'.now = s.now ∧ s'.cancelled = s.cancelled ∧
      s'.overflows = s.overflows := by
    obtain ⟨_, _, _, _, _, rfl⟩ := move.reach
    exact ⟨rfl, rfl, rfl, rfl⟩
  have tallied' := move.tallied tallied
  have waits' :
      ∀ attempt ∈ attempts past, m'.Waits s.flow.retryDelay.ticks s'.now attempt.time := by
    rw [kept.2.1]
    exact fun attempt member => move.waits (waits attempt member)
  have revoked' : m'.stage = .ended .cancelled → s'.cancelled = true :=
    fun ended => kept.2.2.1.trans (move.cancelled_of_ended ended)
  have overflowed' : m'.stage = .ended .broken → s'.overflows = true :=
    fun ended => kept.2.2.2.trans (move.overflows_of_ended ended)
  have built' := kept.2.2.2.trans built
  rcases move.attempted with none | ⟨stage, rfl, one⟩
  · have knows' := move.knows (by rw [none]; exact List.forall_mem_nil _) knows
    refine ⟨kept.1, move.command.trans command, ?_, ?_, ?_, knows', ?_, revoked', overflowed', built'⟩
    · simpa only [attempts_append, none, List.append_nil] using alike
    · simpa only [attempts_append, none, List.append_nil] using apart
    · simpa only [attempts_append, none, List.append_nil] using waits'
    · simpa [gain] using tallied'
  · -- The call has the number of the attempt, so the sequence tells its reply.
    simp only [Sending.Waits, stage] at waits
    simp only [Sending.Tallied, stage] at tallied
    have place : (attempts past).length + 1 = m.attempt := by omega
    have heard := answered.last one
    rw [place] at heard
    have knows' := move.knows (by rw [one]; exact List.forall_mem_singleton.mpr heard) knows
    refine ⟨kept.1, command, ?_, ?_, ?_, knows', ?_, revoked', overflowed', built'⟩
    · rw [attempts_append, one, List.forall_mem_append, List.forall_mem_singleton]
      exact ⟨alike, command⟩
    · rw [attempts_append, one, List.pairwise_append]
      refine ⟨apart, List.pairwise_singleton .., fun earlier member later last => ?_⟩
      cases List.mem_singleton.mp last
      exact waits earlier member
    · rw [attempts_append, one, List.forall_mem_append, List.forall_mem_singleton]
      exact ⟨waits', Nat.le_of_eq kept.2.1.symm⟩
    · simpa [gain] using tallied'

theorem Retrying.next (retrying : Retrying flow overflows topic payload replies past e)
    (moved : e.step act = some e') (answered : Answered replies (past ++ [⟨e, act, e'⟩])) :
    Retrying flow overflows topic payload replies (past ++ [⟨e, act, e'⟩]) e' := by
  cases act with
  | advance =>
      simp only [step, Option.map_eq_some_iff, Prod.exists] at moved
      obtain ⟨s', m', moved, rfl⟩ := moved
      exact retrying.advance (Sending.move_of_step moved) answered
  | elsewhere shared =>
      obtain ⟨⟨settings, built, later, revokes⟩, moved⟩ := Option.ite_none_right_eq_some.mp moved
      cases moved
      have same : shared.overflows = e.shared.overflows := by
        rw [Shared.overflows, Shared.overflows, settings, built]
      have idle : attempts (past ++ [⟨e, .elsewhere shared, { e with shared }⟩]) =
          attempts past := by simp [handed]
      exact {
        settings := settings.trans retrying.settings
        command := retrying.command
        alike := by rw [idle]; exact retrying.alike
        apart := by rw [idle]; exact retrying.apart
        waits := by
          rw [idle]
          exact fun attempt member => (retrying.waits attempt member).later later
        knows := retrying.knows
        tallied := by simpa [idle, gain] using retrying.tallied
        revoked := fun ended => revokes (retrying.revoked ended)
        overflowed := fun ended => same.trans (retrying.overflowed ended)
        built := same.trans retrying.built }

theorem retrying_of_history {s : Shared} {index : Nat}
    (history : History step (start s topic payload index) past e)
    (answered : Answered replies past) :
    Retrying s.flow s.overflows topic payload replies past e := by
  induction history with
  | start => exact retrying_start s index
  | next _ moved induction => exact (induction answered.earlier).next moved answered

theorem growth_credits {s : Shared} {index : Nat}
    (history : History step (start s topic payload index) past e)
    (unclipped : ∀ made ∈ past, clipped made = 0) :
    e.shared.flow = s.flow ∧
      growth (·.credits.available) past = e.sending.yielded s.flow := by
  induction history with
  | start => exact ⟨rfl, rfl⟩
  | @next past e e' act _ moved induction =>
      obtain ⟨settings, grown⟩ :=
        induction fun made member => unclipped made (List.mem_append_left _ member)
      rw [growth_append, grown]
      cases act with
      | advance =>
          have fits := unclipped _ (List.mem_append_right _ (List.mem_singleton_self _))
          simp only [step, Option.map_eq_some_iff, Prod.exists] at moved
          obtain ⟨s', m', moved, rfl⟩ := moved
          have move := Sending.move_of_step moved
          have yielded := move.yielded fits
          rw [settings] at yielded
          refine ⟨move.credits.2.trans settings, ?_⟩
          simp only [gain, yielded]
          omega
      | elsewhere shared =>
          obtain ⟨⟨kept, _⟩, same⟩ := Option.ite_none_right_eq_some.mp moved
          cases same
          exact ⟨kept.trans settings, Int.add_zero _⟩

/-- The calls of a send, however it ends: all for the same message, and far enough apart. -/
structure Tried (flow : Config.FlowControl) (topic : String) (payload : List UInt8)
    (past : List (Transition Errand Act)) : Prop where
  alike : ∀ attempt ∈ attempts past, attempt.command = .publish topic payload
  apart : (attempts past).Pairwise fun earlier later =>
    earlier.time ≤ later.time ∧ flow.retryDelay ≤ .ofMillis (later.time - earlier.time)

/-- A send that came to an end by itself, with the number of its last attempt. -/
structure Concluded (flow : Config.FlowControl) (last : Nat)
    (past : List (Transition Errand Act)) (delivered : Bool) : Prop where
  calls : (attempts past).length = last
  attempts : growth (·.stats.sendAttempts) past = last
  retried : growth (·.stats.retried) past = last - 1
  sent : growth (·.stats.sent) past = if delivered then 1 else 0
  dropped : growth (·.stats.dropped) past = if delivered then 0 else 1
  credits : (∀ made ∈ past, clipped made = 0) →
    growth (·.credits.available) past = if delivered then (flow.creditIncrement : Int) - 1 else 0

/-- A send that was given up, with the number of the attempt that would have been its last. -/
structure Abandoned (last : Nat) (past : List (Transition Errand Act)) : Prop where
  calls : (attempts past).length ≤ last
  attempts : growth (·.stats.sendAttempts) past - growth (·.stats.retried) past = 0 ∨
    growth (·.stats.sendAttempts) past - growth (·.stats.retried) past = 1
  sent : growth (·.stats.sent) past = 0
  dropped : growth (·.stats.dropped) past = 0
  credits : (∀ made ∈ past, clipped made = 0) → growth (·.credits.available) past = 0

/-- However many credits there are and whatever else goes on, a send that is not cancelled calls the
sink as often as it takes until a reply is decisive, and no more; one that is cancelled has made some
of these calls. The counters and the pool tell how it went. -/
theorem bounded_retry {s : Shared} {index : Nat} {outcome : SendOutcome}
    (history : History step (start s topic payload index) past e)
    (answered : Answered replies past) (ended : e.sending.stage = .ended outcome) :
    Tried s.flow topic payload past ∧
      match outcome with
      | .sent =>
          replies (decisive replies s.flow.maxRetries.toNat) = .accepted ∧
            Concluded s.flow (decisive replies s.flow.maxRetries.toNat) past true
      | .dropped =>
          replies (decisive replies s.flow.maxRetries.toNat) ≠ .accepted ∧
            Concluded s.flow (decisive replies s.flow.maxRetries.toNat) past false
      | .cancelled =>
          e.shared.cancelled = true ∧ Abandoned (decisive replies s.flow.maxRetries.toNat) past
      | .broken =>
          s.checked = true ∧ s.flow.maxRetries = 4294967295 ∧ attempts past = [] := by
  have retrying := retrying_of_history history answered
  have apart : (attempts past).Pairwise fun earlier later =>
      earlier.time ≤ later.time ∧ s.flow.retryDelay ≤ .ofMillis (later.time - earlier.time) :=
    retrying.apart.imp fun waited =>
      ⟨Nat.le_of_add_right_le waited, Span.le_ofMillis (Nat.le_sub_of_add_le' waited)⟩
  have tried : Tried s.flow topic payload past := ⟨retrying.alike, apart⟩
  have pool : (∀ made ∈ past, clipped made = 0) →
      growth (·.credits.available) past = e.sending.yielded s.flow :=
    fun unclipped => (growth_credits history unclipped).2
  obtain ⟨_, within, known⟩ := retrying.knows
  have tallied := retrying.tallied
  simp only [Sending.yielded, ended] at pool
  simp only [Sending.Tallied, ended] at tallied
  simp only [ended] at known
  refine ⟨tried, ?_⟩
  cases outcome with
  | sent =>
      obtain ⟨last, accepted⟩ := known
      obtain ⟨calls, attempts, retried, sent, dropped⟩ := tallied
      rw [last] at accepted calls attempts retried
      exact ⟨accepted, Int.ofNat_inj.mp calls, attempts, by omega, sent, dropped, pool⟩
  | dropped =>
      obtain ⟨last, failed⟩ := known
      obtain ⟨calls, attempts, retried, sent, dropped⟩ := tallied
      rw [last] at failed calls attempts retried
      exact ⟨failed, Int.ofNat_inj.mp calls, attempts, by omega, sent, dropped, pool⟩
  | cancelled =>
      obtain ⟨calls, begun, sent, dropped⟩ := tallied
      refine ⟨retrying.revoked ended, ?_, ?_, sent, dropped, pool⟩
      · omega
      · omega
  | broken =>
      have overflows := retrying.built.symm.trans (retrying.overflowed ended)
      obtain ⟨checked, most⟩ := Shared.overflows_iff.mp overflows
      exact ⟨checked, most, List.length_eq_zero_iff.mp (Int.ofNat_inj.mp tallied.2.1)⟩

private def insistent : Config :=
  { topic := "news"
    flowControl :=
      { initialCredits := 2, creditIncrement := 3, maxRetries := 2, retryDelay := .ofMillis 5 } }

private def overloaded : Reply := .failed (.status ⟨.unavailable, "overloaded"⟩)

private def recovering : Shared :=
  .start insistent (.alone
    (.start (fun _ _ => none) fun call =>
      ⟨0, some (if call.attempt = 0 then overloaded else .accepted)⟩)
    (.ofScript [] false))

/-- Others take a credit between the two attempts, and the clock goes on. -/
private def insistentActs : List Act :=
  [.advance, .advance, .advance, .advance, .advance, .advance,
   .elsewhere { recovering with
     now := 5, credits := ⟨1, none⟩, sink := (recovering.sink.offer 0 (.publish "news" [1])).1 },
   .advance, .advance, .advance, .advance, .advance, .advance, .advance]

private def recovered (number : Nat) : Reply := if number = 1 then overloaded else .accepted

theorem bounded_retry_where_insistent :
    ∃ past e, History step (start recovering "news" [1] 0) past e ∧ Answered recovered past ∧
      e.sending.stage = .ended .sent ∧ (attempts past).length = 2 ∧
      growth (·.stats.retried) past = 1 ∧ growth (·.credits.available) past = 2 := by
  have run : (replay step (start recovering "news" [1] 0) insistentActs).map
      (fun (past, e) =>
        (decide (Answered recovered past), e.sending.stage, past.all (clipped · = 0))) =
        some (true, .ended .sent, true) := by
    decide
  obtain ⟨⟨past, e⟩, replayed, facts⟩ := Option.map_eq_some_iff.mp run
  simp only [Prod.mk.injEq, decide_eq_true_iff, List.all_eq_true] at facts
  obtain ⟨answered, ended, unclipped⟩ := facts
  have history := History.ofReplay replayed
  have last : decisive recovered recovering.flow.maxRetries.toNat = 2 :=
    (Nat.find_eq_iff _).mpr (by decide)
  have retried := bounded_retry history answered ended
  rw [last] at retried
  obtain ⟨_, _, concluded⟩ := retried
  exact ⟨past, e, history, answered, ended, concluded.calls, concluded.retried,
    concluded.credits unclipped⟩

end Errand

end Courier
