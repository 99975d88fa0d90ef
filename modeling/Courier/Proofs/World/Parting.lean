import Courier.Proofs.World.Answers

/-! A subscriber that unsubscribes is on its way out. Whether its node takes that, refuses it or never
answers, the session ends in the same way, and from then on it counts nothing but the frames that its
workers still handle. -/

namespace Courier

namespace Statistics

def Event.isHandling : Event → Bool
  | .processed | .received | .trace | .unknown | .decodeError => true
  | _ => false

def Event.isArrival : Event → Bool
  | .enqueued | .bufferDropped => true
  | _ => false

/-- Since it was `base` only frames were counted: some that workers handled, and no more than
`arriving` that the pump put into the buffer or dropped. -/
def CountsFrames (base : Statistics) (arriving : Nat) (stats : Statistics) : Prop :=
  ∃ events : List Event, (∀ event ∈ events, event.isHandling = true ∨ event.isArrival = true) ∧
    events.countP Event.isArrival ≤ arriving ∧ stats = events.foldl record base

theorem CountsFrames.refl (stats : Statistics) : CountsFrames stats 0 stats :=
  ⟨[], List.forall_mem_nil _, Nat.le_refl _, rfl⟩

theorem CountsFrames.trans {first second third : Statistics} {arriving arriving' : Nat}
    (earlier : CountsFrames first arriving second) (later : CountsFrames second arriving' third) :
    CountsFrames first (arriving + arriving') third := by
  obtain ⟨events, frames, few, rfl⟩ := earlier
  obtain ⟨events', frames', few', rfl⟩ := later
  refine ⟨events ++ events', ?_, ?_, (List.foldl_append ..).symm⟩
  · rw [List.forall_mem_append]
    exact ⟨frames, frames'⟩
  · rw [List.countP_append]
    exact Nat.add_le_add few few'

def sending (stats : Statistics) : Statistics :=
  { sent := stats.sent
    acked := stats.acked
    dropped := stats.dropped
    retried := stats.retried
    sendAttempts := stats.sendAttempts
    totalLatency := stats.totalLatency }

def unhandled (stats : Statistics) : Statistics :=
  { stats.sending with
    frames := stats.frames
    enqueued := stats.enqueued
    bufferDropped := stats.bufferDropped }

theorem unhandled_record {event : Event} (handling : event.isHandling = true)
    (stats : Statistics) : (stats.record event).unhandled = stats.unhandled := by
  cases event with
  | processed | received | trace | unknown | decodeError => rfl
  | attempt | sent | retry | dropped | enqueued | bufferDropped => cases handling

theorem sending_record {event : Event}
    (frame : event.isHandling = true ∨ event.isArrival = true) (stats : Statistics) :
    (stats.record event).sending = stats.sending := by
  cases event with
  | processed | received | trace | unknown | decodeError | enqueued | bufferDropped => rfl
  | attempt | sent | retry | dropped => simp [Event.isHandling, Event.isArrival] at frame

theorem CountsFrames.sending {base stats : Statistics} {arriving : Nat}
    (counts : CountsFrames base arriving stats) : stats.sending = base.sending := by
  obtain ⟨events, frames, few, rfl⟩ := counts
  clear few
  induction events generalizing base with
  | nil => rfl
  | cons event events induction =>
      rw [List.forall_mem_cons] at frames
      rw [List.foldl_cons, induction frames.2, sending_record frames.1]

theorem CountsFrames.unhandled {base stats : Statistics} (counts : CountsFrames base 0 stats) :
    stats.unhandled = base.unhandled := by
  obtain ⟨events, frames, none, rfl⟩ := counts
  rw [Nat.le_zero, List.countP_eq_zero] at none
  induction events generalizing base with
  | nil => rfl
  | cons event events induction =>
      rw [List.forall_mem_cons] at frames none
      rw [List.foldl_cons, induction frames.2 none.2,
        unhandled_record (frames.1.resolve_right none.1)]

theorem CountsFrames.mono {base stats : Statistics} {arriving arriving' : Nat}
    (counts : CountsFrames base arriving stats) (few : arriving ≤ arriving') :
    CountsFrames base arriving' stats := by
  obtain ⟨events, frames, fewer, same⟩ := counts
  exact ⟨events, frames, Nat.le_trans fewer few, same⟩

theorem CountsFrames.handling (stats : Statistics) (event : Event)
    (handling : event.isHandling = true) : CountsFrames stats 0 (stats.record event) := by
  refine ⟨[event], ?_, ?_, rfl⟩
  · rw [List.forall_mem_singleton]
    exact .inl handling
  · cases event with
    | processed | received | trace | unknown | decodeError => exact Nat.le_refl _
    | attempt | sent | retry | dropped | enqueued | bufferDropped => cases handling

theorem CountsFrames.arrival (stats : Statistics) (event : Event)
    (arrival : event.isArrival = true) : CountsFrames stats 1 (stats.record event) := by
  refine ⟨[event], ?_, List.countP_le_length, rfl⟩
  rw [List.forall_mem_singleton]
  exact .inr arrival

end Statistics

theorem Worker.Move.countsFrames {gates : List Gate} {s s' : Shared} {worker worker' : Worker}
    (move : Worker.Move gates s worker s' worker') : s.stats.CountsFrames 0 s'.stats := by
  cases move with
  | count => exact .handling _ .processed rfl
  | reject => exact .handling _ .decodeError rfl
  | number => exact .handling _ .received rfl
  | trace => exact .handling _ .trace rfl
  | ignore => exact .handling _ .unknown rfl
  | acknowledge stage =>
      obtain ⟨log, same⟩ := acknowledge_eq s _
      rw [same]
      split <;> exact .refl _
  | record stage recorded =>
      obtain ⟨ledger, rfl⟩ := Shared.ledger_of_recordLine recorded
      exact .refl _
  | take | park | quit | stop | enter | pass | done | print | log | keep | rest | wake | leave =>
      exact .refl _

namespace Pump

/-- The frames that were taken from the stream and are neither counted nor refused. -/
def inHand : Pump → Nat
  | .holding _ | .stored => 1
  | .listening | .ended _ => 0

theorem Move.countsFrames {s s' : Shared} {pump pump' : Pump} (move : Pump.Move s pump s' pump')
    (cancelled : s.cancelled = true) :
    ∃ arriving, s.stats.CountsFrames arriving s'.stats ∧
      arriving + pump'.inHand ≤ pump.inHand := by
  cases move with
  | receive active | fail active | close active => cases active.symm.trans cancelled
  | cancel => exact ⟨0, .refl _, Nat.le_refl _⟩
  | store => exact ⟨0, .refl _, Nat.le_refl _⟩
  | refuse => exact ⟨0, .refl _, Nat.zero_le _⟩
  | overflow => exact ⟨1, .arrival _ .bufferDropped rfl, Nat.le_refl _⟩
  | count => exact ⟨1, .arrival _ .enqueued rfl, Nat.le_refl _⟩

end Pump

namespace Session

/-- A session that unsubscribes by a time, or has done so. -/
def Leaving (due : Nat) (counts : Statistics → Prop) : Session → Prop
  | .unsubscribing _ deadline => deadline = due
  | .closing driven | .draining driven | .joining driven =>
      driven.exit = .ok .interrupted ∧ driven.publish = none
  | .ended result => ∃ stats, result = .ok ⟨.interrupted, stats, none⟩ ∧ counts stats
  | _ => False

variable {view : View} {s s' : Shared} {session session' : Session} {due : Nat}
  {counts counts' : Statistics → Prop}

private theorem leaving_finish {driven : Driven} (counted : counts s.stats)
    (leaving : driven.exit = .ok .interrupted ∧ driven.publish = none) :
    (finish s driven).Leaving due counts := by
  obtain ⟨exit, publish, pumpSeen⟩ := driven
  obtain ⟨rfl, rfl⟩ := leaving
  exact ⟨s.stats, rfl, counted⟩

theorem Move.leaving (move : Move view s session s' session') (counted : counts s.stats)
    (leaving : session.Leaving due counts) : session'.Leaving due counts := by
  cases move with
  | publish | forgo | subscribe | withdraw | accept | refuse | unsubscribe | watch | lose | wait
  | rouse | interrupt | linger | halt | settle | depart => exact leaving.elim
  | part | tear | abandon => exact ⟨rfl, rfl⟩
  | drain | stop => exact leaving
  | drained | joined => exact leaving_finish counted leaving

theorem Leaving.later (leaving : session.Leaving due counts)
    (later : ∀ stats, counts stats → counts' stats) : session.Leaving due counts' := by
  cases session with
  | ended result =>
      obtain ⟨stats, same, counted⟩ := leaving
      exact ⟨stats, same, later stats counted⟩
  | unsubscribing | closing | draining | joining => exact leaving
  | starting | subscribing | listening | watching | waiting | publishing | halting | lingering =>
      exact leaving.elim

theorem Move.stats (move : Move view s session s' session') : s'.stats = s.stats := by
  obtain ⟨_, _, _, _, _, _, rfl⟩ := move.reach
  rfl

theorem Move.leaves (move : Move view s session s' session')
    (handed : .unsubscribe view.topic ∈ s.sink.handed s'.sink) :
    s.cancelled = true ∧ s'.cancelled = true ∧
      session'.Leaving (s.now + unsubscribeTimeout.ticks) counts := by
  cases move with
  | unsubscribe cancelled => exact ⟨cancelled, cancelled, rfl⟩
  | subscribe | publish | forgo | watch | lose | wait | rouse | interrupt | linger | halt | settle
  | depart | joined => simp at handed
  | drain | stop | drained => simp [Shared.note, stopAll] at handed
  | withdraw | abandon => simp [Shared.withdraw, Shared.note] at handed
  | accept | refuse | part | tear => simp [Shared.settle, Shared.print, Shared.note] at handed

end Session

namespace World

variable {config : Config} {around : Surroundings} {records : Bool} {gates : List Gate}
  {past : List (Transition World Motion)} {w w' : World} {motion : Motion}

def inHand (w : World) : Nat := w.pump.elim 0 Pump.inHand

/-- The unsubscription was handed over when a client was in the state `since`. -/
structure Parting (since w : World) : Prop where
  cancelled : w.shared.cancelled = true
  counts : ∃ arriving, since.shared.stats.CountsFrames arriving w.shared.stats ∧
    arriving + w.inHand ≤ since.inHand
  leaving : ∃ session, w.session = some session ∧
    session.Leaving (since.shared.now + Session.unsubscribeTimeout.ticks)
      (since.shared.stats.CountsFrames since.inHand)

theorem Move.parting (move : Move w motion w') (governed : w.Governed .subscribe)
    (handed : .unsubscribe w.topic ∈ handed ⟨w, motion, w'⟩) : Parting w w' := by
  rcases move.sink_of_subscriber governed with rfl | same
  · cases move with
    | session running moved =>
        have move := Session.move_of_step moved
        obtain ⟨_, cancelled, leaving⟩ := move.leaves handed
        refine ⟨cancelled, ⟨0, ?_, Nat.le_of_eq (Nat.zero_add _)⟩, _, rfl, leaving⟩
        rw [move.stats]
        exact .refl _
  · rw [World.handed, same, Sink.handed_self] at handed
    cases handed

theorem Parting.step {since : World} (parting : Parting since w) (move : Move w motion w')
    (governed : w.Governed .subscribe) : Parting since w' := by
  obtain ⟨publisher, tasks⟩ := governed.silent rfl
  have cancelled := move.cancelled parting.cancelled
  obtain ⟨arriving, counts, few⟩ := parting.counts
  obtain ⟨session, driving, leaving⟩ := parting.leaving
  have counted : since.shared.stats.CountsFrames since.inHand w.shared.stats :=
    counts.mono (Nat.le_trans (Nat.le_add_right ..) few)
  cases move with
  | session running moved =>
      cases driving.symm.trans running
      have move := Session.move_of_step moved
      refine ⟨cancelled, ⟨arriving, ?_, few⟩, _, rfl, move.leaving counted leaving⟩
      rw [move.stats]
      exact counts
  | publisher running =>
      rw [publisher] at running
      cases running
  | task running =>
      rw [tasks] at running
      cases running
  | worker running moved =>
      have more := (Worker.move_of_step moved).countsFrames
      exact ⟨cancelled, ⟨arriving, counts.trans more, few⟩, session, driving, leaving⟩
  | pump running moved =>
      obtain ⟨arriving', more, fewer⟩ :=
        (Pump.move_of_step moved).countsFrames parting.cancelled
      refine ⟨cancelled, ⟨_, counts.trans more, ?_⟩, session, driving, leaving⟩
      simp only [inHand, running, Option.elim_some] at few ⊢
      omega
  | outside =>
      rename_i event _ _ _
      cases event <;> exact ⟨cancelled, ⟨arriving, counts, few⟩, session, driving, leaving⟩
  | signal | writer | clock =>
      exact ⟨cancelled, ⟨arriving, counts, few⟩, session, driving, leaving⟩

theorem parting_of_history (mode : config.mode = .subscribe)
    (history : History advance (ofSession config around records gates) past w)
    {earlier later : List (Transition World Motion)} {made : Transition World Motion}
    (course : past = earlier ++ made :: later)
    (parts : .unsubscribe config.topic ∈ handed made) : Parting made.before w := by
  induction history generalizing later with
  | start => simp at course
  | next history moved induction =>
      have governed := mode ▸ governed_of_history history
      have move := move_of_advance moved
      rcases List.eq_nil_or_concat later with rfl | ⟨later, last, rfl⟩
      · obtain ⟨rfl, same⟩ := List.append_inj' course rfl
        cases List.singleton_inj.mp same
        exact move.parting governed (topic_of_history history ▸ parts)
      · rw [List.concat_eq_append, ← List.cons_append, ← List.append_assoc] at course
        exact (induction (List.append_inj' course rfl).1).step move governed

end World

end Courier
