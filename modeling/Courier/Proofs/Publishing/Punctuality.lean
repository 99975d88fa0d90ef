import Courier.Proofs.Publishing.Pacing

/-! A publisher that finds credits and slots whenever it looks for them. It loses no time but what
the clock adds to its pauses. -/

namespace Courier

namespace Throttled

/-- The publisher has lost no more time since the first message than the clock takes for each
pause. -/
structure OnTime (now : Nat) (admissions : List Admission) (pauses : List Span)
    (t : Throttled) : Prop where
  awake : now ≤ t.restsUntil now
  late : ∀ first, admissions.head? = some first →
    (Span.ofMillis (t.restsUntil now)).nanos ≤
      (Span.ofMillis first.time).nanos + (Span.sum pauses).nanos +
        pauses.length * granularity.nanos

section Steps

variable {p : Publication} {s s' : Shared} {t t' : Throttled} {started : Option SendTask}
  {delay : Span} {now now' : Nat} {admissions : List Admission} {pauses : List Span}

theorem onTime_of_awake (awake : t.pausing? = none)
    (late : ∀ first, admissions.head? = some first →
      (Span.ofMillis now).nanos ≤
        (Span.ofMillis first.time).nanos + (Span.sum pauses).nanos +
          pauses.length * granularity.nanos) :
    t.OnTime now admissions pauses where
  awake := Nat.le_of_eq (restsUntil_of_awake awake now).symm
  late := by
    rw [restsUntil_of_awake awake]
    exact late

theorem onTime_start (p : Publication) (now : Nat) : (start p).OnTime now [] [] :=
  onTime_of_awake (pausing?_visit ..) nofun

private theorem OnTime.pass (onTime : t.OnTime now admissions pauses)
    (awake : t.pausing? = none) (awake' : t'.pausing? = none) :
    t'.OnTime now admissions (pauses ++ t'.pausing?.toList) := by
  have late := onTime.late
  rw [restsUntil_of_awake awake] at late
  rw [awake', Option.toList_none, List.append_nil]
  exact onTime_of_awake awake' late

private theorem OnTime.launch (onTime : t.OnTime s.now admissions pauses)
    (stage : t.stage = .admitting) :
    (t.pause p s).OnTime s.now (admissions ++ [(t.admitted p s).admission s.now])
      (pauses ++ (t.pause p s).pausing?.toList) := by
  have late := onTime.late
  simp only [restsUntil, stage] at late
  have since : ∀ first,
      (admissions ++ [(t.admitted p s).admission s.now]).head? = some first →
        (Span.ofMillis s.now).nanos ≤
          (Span.ofMillis first.time).nanos + (Span.sum pauses).nanos +
            pauses.length * granularity.nanos := by
    intro first head
    rcases head?_append_cases head with earlier | ⟨rfl, rfl⟩
    · exact late first earlier
    · exact Nat.le_trans (Nat.le_add_right ..) (Nat.le_add_right ..)
  rcases t.pause_cases p s with ⟨due, deadline, after, same⟩ | ⟨short, same⟩
  · have soon := Nat.le_of_lt (nanos_after_bounds s (t.debt + s.flow.pacingDelay)).2
    have awake : s.now ≤ s.after (t.debt + s.flow.pacingDelay) := Nat.le_add_right ..
    rw [after] at soon awake
    rw [same]
    refine ⟨awake, fun first head => ?_⟩
    simp only [pausing?, restsUntil, Option.toList_some, Span.nanos_sum_append,
      Span.nanos_sum_singleton, List.length_append, List.length_singleton, Nat.succ_mul]
    have paid := Nat.add_le_add_right (since first head)
      ((t.debt + s.flow.pacingDelay).nanos + granularity.nanos)
    rw [Nat.add_add_add_comm, Nat.add_assoc (Span.ofMillis first.time).nanos] at paid
    exact Nat.le_trans soon paid
  · have awake : (t.pause p s).pausing? = none := by
      rw [same]
      exact pausing?_visit ..
    rw [awake, Option.toList_none, List.append_nil]
    exact onTime_of_awake awake since

theorem Move.onTime (move : Move p s t s' t' started) (active : s.cancelled = false)
    (onTime : t.OnTime s.now admissions pauses) :
    t'.OnTime s.now (admissions ++ (started.map (·.admission s.now)).toList)
      (pauses ++ t'.pausing?.toList) := by
  cases move with
  | launch stage => exact onTime.launch stage
  | quit stage cancelled => cases active.symm.trans cancelled
  | resume stage active due =>
      -- The clock has not passed the deadline, and the publisher goes on no earlier.
      obtain ⟨soon, late⟩ := onTime
      simp only [restsUntil, stage] at soon late
      cases Nat.le_antisymm soon due
      have awake := pausing?_visit { t with debt := .zero } p (t.index + 1)
      rw [awake, Option.map_none, Option.toList_none, Option.toList_none, List.append_nil,
        List.append_nil]
      exact onTime_of_awake awake late
  | find stage | giveUp stage | wait stage | hold stage | leave stage | acquire stage =>
      rw [Option.map_none, Option.toList_none, List.append_nil]
      exact onTime.pass (by simp only [pausing?, stage]) rfl

theorem OnTime.later {deadline : Nat} (onTime : t.OnTime now admissions pauses)
    (stage : t.stage = .pausing deadline) (soon : now' ≤ deadline) :
    t.OnTime now' admissions pauses := by
  obtain ⟨_, late⟩ := onTime
  simp only [restsUntil, stage] at late
  refine ⟨?_, ?_⟩
  · simp only [restsUntil, stage]
    exact soon
  · simp only [restsUntil, stage]
    exact late

theorem Move.going (move : Move p s t s' t' started) : t.stage ≠ .joining := by
  intro joining
  cases move with
  | find stage | giveUp stage | wait stage | hold stage | leave stage | acquire stage
  | launch stage | quit stage | resume stage => cases joining.symm.trans stage

theorem Paced.late_of_admitting {first : Admission} {later : List Admission}
    (paced : t.Paced p delay now admissions pauses) (onTime : t.OnTime now admissions pauses)
    (stage : t.stage = .admitting)
    (head : (admissions ++ ⟨t.index, now⟩ :: later).head? = some first) :
    (Span.ofMillis now).nanos ≤
      (Span.ofMillis first.time).nanos + t.index * delay.nanos +
        pauses.length * granularity.nanos := by
  obtain ⟨placed, payments, _⟩ := paced
  obtain ⟨_, late⟩ := onTime
  simp only [Placed, stage] at placed
  simp only [outstanding, stage] at payments
  simp only [restsUntil, stage] at late
  rw [← placed.1]
  rcases head?_append_cases head with earlier | ⟨rfl, rfl⟩
  · rw [← payments.balance]
    refine Nat.le_trans (late first earlier) (Nat.add_le_add_right ?_ _)
    exact Nat.add_le_add_left (Nat.le_add_right ..) _
  · exact Nat.le_trans (Nat.le_add_right ..) (Nat.le_add_right ..)

def isHeldUp (s : Shared) (t : Throttled) : Bool :=
  match t.stage with
  | .waiting (.resting _) => true
  | .acquiring (.queued ticket) => (s.slots.take? ticket).isNone
  | _ => false

theorem pausing_of_stalled (stalled : t.step p s = none) (free : t.isHeldUp s = false)
    (going : t.stage ≠ .joining) :
    ∃ deadline, t.stage = .pausing deadline ∧ s.now < deadline := by
  cases stage : t.stage with
  | joining => exact (going stage).elim
  | admitting =>
      simp only [step, stage] at stalled
      cases stalled
  | pausing deadline =>
      refine ⟨deadline, rfl, Nat.lt_of_not_le fun due => ?_⟩
      simp only [step, stage, due, if_true] at stalled
      split at stalled <;> cases stalled
  | waiting wait =>
      cases wait with
      | ended found => cases found <;> simp [step, stage] at stalled
      | looking => simp [step, stage, CreditWait.step] at stalled
      | resting => simp [isHeldUp, stage] at free
  | acquiring wait =>
      cases wait with
      | ended held => cases held <;> simp [step, stage] at stalled
      | asking =>
          simp only [step, stage, SlotWait.step, Option.map_eq_none_iff] at stalled
          split at stalled <;> cases stalled
      | queued ticket =>
          simp only [isHeldUp, stage, Option.isNone_eq_false_iff, Option.isSome_iff_exists] at free
          obtain ⟨slots, free⟩ := free
          simp only [step, stage, SlotWait.step, free, Option.map_eq_none_iff] at stalled
          split at stalled <;> cases stalled
      | taken | raised => simp [step, stage, SlotWait.step] at stalled

end Steps

end Throttled

namespace Publisher

def OnTime (now : Nat) (admissions : List Admission) (pauses : List Span)
    (publisher : Publisher) : Prop :=
  ∀ t, publisher.throttled? = some t → t.stage ≠ .joining → t.OnTime now admissions pauses

variable {p : Publication} {s s' : Shared} {tasks : List SendTask}
  {publisher publisher' : Publisher} {started : Option SendTask} {now' : Nat}
  {admissions : List Admission} {pauses : List Span}

theorem onTime_start (p : Publication) (s : Shared) : (start p s).OnTime s.now [] [] := by
  intro t stage _
  rw [throttled?_eq_some_iff, start] at stage
  cases enabled : s.flow.enabled with
  | true =>
      rw [enabled, if_pos rfl] at stage
      cases stage
      exact Throttled.onTime_start p s.now
  | false =>
      rw [enabled, if_neg Bool.false_ne_true] at stage
      cases stage

theorem Move.onTime (move : Move p s tasks publisher s' publisher' started)
    (active : s.cancelled = false) (onTime : publisher.OnTime s.now admissions pauses) :
    publisher'.OnTime s.now (admissions ++ (started.map (·.admission s.now)).toList)
      (pauses ++ publisher'.pausing?.toList) := by
  intro t' stage' _
  cases move with
  | throttled stage moved =>
      cases stage'
      have move := Throttled.move_of_step moved
      exact move.onTime active (onTime _ (throttled?_eq_some_iff.mpr stage) move.going)
  | unthrottled | join | finish => cases stage'

theorem OnTime.later (onTime : publisher.OnTime s.now admissions pauses)
    (stalled : publisher.step p s tasks = none)
    (free : ∀ t, publisher.throttled? = some t → t.isHeldUp s = false)
    (soon : ∀ deadline, publisher.deadline? = some deadline → s.now < deadline →
      now' ≤ deadline) :
    publisher.OnTime now' admissions pauses := by
  intro t throttled going
  have stage := throttled?_eq_some_iff.mp throttled
  simp only [step, stage] at stalled
  split at stalled
  case h_1 => cases stalled
  case h_2 =>
      obtain ⟨deadline, pausing, early⟩ :=
        Throttled.pausing_of_stalled (Option.map_eq_none_iff.mp stalled) (free t throttled) going
      have known : publisher.deadline? = some deadline := by
        simp only [deadline?, stage, Throttled.deadline?, pausing]
      exact (onTime t throttled going).later pausing (soon deadline known early)

end Publisher

end Courier
