import Courier.Proofs.Publishing.Progress

/-! The pauses of a publisher. A debt grows by the delay with each message that is admitted, and as
soon as the clock can tell it apart from nothing, it is paid in one pause. -/

namespace Courier

structure Admission where
  index : Nat
  time : Nat
  deriving DecidableEq, Repr

def SendTask.admission (task : SendTask) (now : Nat) : Admission := ⟨task.index, now⟩

namespace Throttled

theorem nanos_after_bounds (s : Shared) (span : Span) :
    (Span.ofMillis s.now).nanos + span.nanos ≤ (Span.ofMillis (s.after span)).nanos ∧
      (Span.ofMillis (s.after span)).nanos <
        (Span.ofMillis s.now).nanos + (span.nanos + granularity.nanos) := by
  rw [Shared.after, Span.nanos_ofMillis_add]
  exact ⟨Nat.add_le_add_left span.nanos_le_ticks _, Nat.add_lt_add_left span.ticks_lt_nanos _⟩

def pausing? (t : Throttled) : Option Span :=
  match t.stage with
  | .pausing _ => some t.debt
  | _ => none

def outstanding (t : Throttled) : Span :=
  match t.stage with
  | .pausing _ => .zero
  | _ => t.debt

def restsUntil (now : Nat) (t : Throttled) : Nat :=
  match t.stage with
  | .pausing deadline => deadline
  | _ => now

/-- The pauses and the debt make up for a delay after each message. -/
structure Payments (delay : Span) (admissions : List Admission) (pauses : List Span)
    (debt : Span) : Prop where
  order : admissions.map (·.index) = List.range admissions.length
  balance : (Span.sum pauses).nanos + debt.nanos = admissions.length * delay.nanos
  small : debt.nanos < granularity.nanos
  clear : granularity ≤ delay → debt = .zero
  each : ∀ pause ∈ pauses,
    granularity ≤ pause ∧ pause.nanos < granularity.nanos + delay.nanos ∧
      (granularity ≤ delay → pause = delay)

namespace Payments

variable {delay debt : Span} {admissions : List Admission} {pauses : List Span}
  {admission : Admission}

theorem start (delay : Span) : Payments delay [] [] .zero where
  order := rfl
  balance := (Nat.zero_mul _).symm
  small := by decide
  clear _ := rfl
  each := List.forall_mem_nil _

private theorem order_append (payments : Payments delay admissions pauses debt)
    (next : admission.index = admissions.length) :
    (admissions ++ [admission]).map (·.index) = List.range (admissions ++ [admission]).length := by
  rw [List.map_append, payments.order, List.map_singleton, next, List.length_append,
    List.length_singleton, List.range_succ]

theorem defer (payments : Payments delay admissions pauses debt)
    (next : admission.index = admissions.length) (short : ¬granularity ≤ debt + delay) :
    Payments delay (admissions ++ [admission]) pauses (debt + delay) where
  order := payments.order_append next
  balance := by
    rw [Span.nanos_add, List.length_append, List.length_singleton, Nat.succ_mul,
      ← payments.balance, Nat.add_assoc]
  small := Nat.lt_of_not_le short
  clear long := by
    -- A whole millisecond is due at once, so that no debt is left before it.
    rw [payments.clear long] at short
    exact (short (Nat.le_trans long (Nat.le_add_left ..))).elim
  each := payments.each

theorem settle (payments : Payments delay admissions pauses debt)
    (next : admission.index = admissions.length) (due : granularity ≤ debt + delay) :
    Payments delay (admissions ++ [admission]) (pauses ++ [debt + delay]) .zero where
  order := payments.order_append next
  balance := by
    rw [Span.nanos_sum_append, Span.nanos_sum_singleton, Span.nanos_add, List.length_append,
      List.length_singleton, Nat.succ_mul, ← payments.balance, Span.nanos_zero, Nat.add_zero,
      Nat.add_assoc]
  small := by decide
  clear _ := rfl
  each := by
    intro pause member
    rcases List.mem_append.mp member with before | last
    · exact payments.each pause before
    · cases List.mem_singleton.mp last
      refine ⟨due, Nat.add_lt_add_right payments.small _, fun long => ?_⟩
      rw [payments.clear long]
      exact congrArg Span.mk (Nat.zero_add _)

end Payments

/-- The pauses so far are as long as they have to be, and the time since the first message is long
enough for them. -/
structure Paced (p : Publication) (delay : Span) (now : Nat) (admissions : List Admission)
    (pauses : List Span) (t : Throttled) : Prop where
  placed : t.Placed p admissions.length
  payments : Payments delay admissions pauses t.outstanding
  early : ∀ first, admissions.head? = some first →
    (Span.ofMillis first.time).nanos + (Span.sum pauses).nanos ≤
      (Span.ofMillis (t.restsUntil now)).nanos

section Steps

variable {p : Publication} {s s' : Shared} {t t' : Throttled} {started : Option SendTask}
  {delay : Span} {now now' : Nat} {admissions : List Admission} {pauses : List Span}

theorem outstanding_of_awake (awake : t.pausing? = none) : t.outstanding = t.debt := by
  unfold pausing? at awake
  unfold outstanding
  split at awake
  case h_1 => cases awake
  case h_2 => rfl

theorem restsUntil_of_awake (awake : t.pausing? = none) (now : Nat) : t.restsUntil now = now := by
  unfold pausing? at awake
  unfold restsUntil
  split at awake
  case h_1 => cases awake
  case h_2 => rfl

theorem pausing?_visit (t : Throttled) (p : Publication) (index : Nat) :
    (t.visit p index).pausing? = none := by
  by_cases more : index < p.count <;> simp [visit, pausing?, more]

theorem paced_of_awake (placed : t.Placed p admissions.length)
    (payments : Payments delay admissions pauses t.debt) (awake : t.pausing? = none)
    (early : ∀ first, admissions.head? = some first →
      (Span.ofMillis first.time).nanos + (Span.sum pauses).nanos ≤ (Span.ofMillis now).nanos) :
    t.Paced p delay now admissions pauses where
  placed
  payments := outstanding_of_awake awake ▸ payments
  early := by
    rw [restsUntil_of_awake awake]
    exact early

theorem paced_start (p : Publication) (delay : Span) (now : Nat) :
    (start p).Paced p delay now [] [] :=
  paced_of_awake (placed_visit (Nat.zero_le _)) (.start delay) (pausing?_visit ..) nofun

theorem Paced.later (paced : t.Paced p delay now admissions pauses) (later : now ≤ now') :
    t.Paced p delay now' admissions pauses := by
  refine ⟨paced.placed, paced.payments, fun first head => ?_⟩
  have early := paced.early first head
  unfold restsUntil at early ⊢
  split at early
  case h_1 => exact early
  case h_2 => exact Nat.le_trans early (Span.nanos_ofMillis_le later)

theorem pause_cases (t : Throttled) (p : Publication) (s : Shared) :
    (granularity ≤ t.debt + s.flow.pacingDelay ∧
      ∃ deadline, s.after (t.debt + s.flow.pacingDelay) = deadline ∧
        t.pause p s =
          { t with debt := t.debt + s.flow.pacingDelay, stage := .pausing deadline }) ∨
    (¬granularity ≤ t.debt + s.flow.pacingDelay ∧
      t.pause p s = { t with debt := t.debt + s.flow.pacingDelay }.visit p (t.index + 1)) := by
  unfold pause
  dsimp only
  split
  case isTrue due => exact .inl ⟨due, _, rfl, rfl⟩
  case isFalse short => exact .inr ⟨short, rfl⟩

theorem head?_append_cases {admission first : Admission} {later : List Admission}
    (head : (admissions ++ admission :: later).head? = some first) :
    admissions.head? = some first ∨ admissions = [] ∧ first = admission := by
  cases admissions with
  | nil =>
      cases head
      exact .inr ⟨rfl, rfl⟩
  | cons => exact .inl head

private theorem Paced.pass (paced : t.Paced p delay now admissions pauses)
    (placed : t'.Placed p admissions.length) (awake : t.pausing? = none)
    (awake' : t'.pausing? = none) (debt : t'.debt = t.debt) :
    t'.Paced p delay now admissions (pauses ++ t'.pausing?.toList) := by
  obtain ⟨_, payments, early⟩ := paced
  rw [outstanding_of_awake awake] at payments
  rw [restsUntil_of_awake awake] at early
  rw [awake', Option.toList_none, List.append_nil]
  exact paced_of_awake placed (debt ▸ payments) awake' early

private theorem Paced.launch
    (paced : t.Paced p s.flow.pacingDelay s.now admissions pauses) (stage : t.stage = .admitting) :
    (t.pause p s).Paced p s.flow.pacingDelay s.now
      (admissions ++ [(t.admitted p s).admission s.now])
      (pauses ++ (t.pause p s).pausing?.toList) := by
  obtain ⟨placed, payments, early⟩ := paced
  simp only [Placed, stage] at placed
  simp only [outstanding, stage] at payments
  simp only [restsUntil, stage] at early
  have next : ((t.admitted p s).admission s.now).index = admissions.length := placed.1.symm
  have placed' : (t.pause p s).Placed p
      (admissions ++ [(t.admitted p s).admission s.now]).length := by
    rw [List.length_append, List.length_singleton, placed.1]
    exact placed_pause placed.2
  -- Nothing is paid before the first message.
  have since : ∀ first,
      (admissions ++ [(t.admitted p s).admission s.now]).head? = some first →
        (Span.ofMillis first.time).nanos + (Span.sum pauses).nanos ≤
          (Span.ofMillis s.now).nanos := by
    intro first head
    rcases head?_append_cases head with earlier | ⟨rfl, rfl⟩
    · exact early first earlier
    · have balance := payments.balance
      rw [List.length_nil, Nat.zero_mul, Nat.add_eq_zero_iff] at balance
      rw [balance.1, Nat.add_zero]
      exact Nat.le_refl _
  rcases t.pause_cases p s with ⟨due, deadline, after, same⟩ | ⟨short, same⟩
  · -- Only the bound matters, not how the deadline is computed.
    have enough := (nanos_after_bounds s (t.debt + s.flow.pacingDelay)).1
    rw [after] at enough
    rw [same] at placed' ⊢
    refine ⟨placed', payments.settle next due, fun first head => ?_⟩
    simp only [pausing?, restsUntil, Option.toList_some, Span.nanos_sum_append,
      Span.nanos_sum_singleton]
    rw [← Nat.add_assoc]
    exact Nat.le_trans (Nat.add_le_add_right (since first head) _) enough
  · have awake : (t.pause p s).pausing? = none := by
      rw [same]
      exact pausing?_visit ..
    have deferred : Payments s.flow.pacingDelay
        (admissions ++ [(t.admitted p s).admission s.now]) pauses (t.pause p s).debt := by
      rw [same]
      exact payments.defer next short
    rw [awake, Option.toList_none, List.append_nil]
    exact paced_of_awake placed' deferred awake since

theorem Move.paced (move : Move p s t s' t' started) (active : s.cancelled = false)
    (paced : t.Paced p s.flow.pacingDelay s.now admissions pauses) :
    t'.Paced p s.flow.pacingDelay s.now
      (admissions ++ (started.map (·.admission s.now)).toList)
      (pauses ++ t'.pausing?.toList) := by
  have placed := move.placed paced.placed
  cases move with
  | launch stage => exact paced.launch stage
  | quit stage cancelled => cases active.symm.trans cancelled
  | resume stage active due =>
      obtain ⟨_, payments, early⟩ := paced
      simp only [outstanding, stage] at payments
      simp only [restsUntil, stage] at early
      have awake := pausing?_visit { t with debt := .zero } p (t.index + 1)
      rw [awake, Option.map_none, Option.toList_none, Option.toList_none, List.append_nil,
        List.append_nil]
      refine paced_of_awake placed payments awake fun first head => ?_
      exact Nat.le_trans (early first head) (Span.nanos_ofMillis_le due)
  | find stage | giveUp stage | wait stage | hold stage | leave stage | acquire stage =>
      rw [Option.map_none, Option.toList_none, List.append_nil]
      exact paced.pass placed (by simp only [pausing?, stage]) rfl rfl

/-- A message comes less than a millisecond before its time. -/
theorem Paced.early_of_admitting {first : Admission} {later : List Admission}
    (paced : t.Paced p delay now admissions pauses) (stage : t.stage = .admitting)
    (head : (admissions ++ ⟨t.index, now⟩ :: later).head? = some first) :
    (Span.ofMillis first.time).nanos + t.index * delay.nanos <
      (Span.ofMillis now).nanos + granularity.nanos := by
  obtain ⟨placed, payments, early⟩ := paced
  simp only [Placed, stage] at placed
  simp only [outstanding, stage] at payments
  simp only [restsUntil, stage] at early
  rw [← placed.1]
  rcases head?_append_cases head with earlier | ⟨rfl, rfl⟩
  · rw [← payments.balance, ← Nat.add_assoc]
    exact Nat.add_lt_add_of_le_of_lt (early first earlier) payments.small
  · rw [List.length_nil, Nat.zero_mul]
    exact Nat.add_lt_add_left (Nat.zero_lt_of_lt payments.small) _

end Steps

end Throttled

namespace Publisher

def throttled? (publisher : Publisher) : Option Throttled :=
  match publisher.stage with
  | .throttled t => some t
  | _ => none

def pausing? (publisher : Publisher) : Option Span := publisher.throttled?.bind Throttled.pausing?

/-- Without flow control there are no pauses, and in the end there is no debt to keep. -/
def Paced (p : Publication) (delay : Span) (now : Nat) (admissions : List Admission)
    (pauses : List Span) (publisher : Publisher) : Prop :=
  match publisher.stage with
  | .throttled t => t.Paced p delay now admissions pauses
  | .unthrottled _ | .ended _ => ∃ debt, Throttled.Payments delay admissions pauses debt

variable {p : Publication} {s s' : Shared} {tasks : List SendTask}
  {publisher publisher' : Publisher} {started : Option SendTask} {delay : Span} {now now' : Nat}
  {admissions : List Admission} {pauses : List Span} {t : Throttled}

theorem throttled?_eq_some_iff :
    publisher.throttled? = some t ↔ publisher.stage = .throttled t := by
  unfold throttled?
  split
  case h_1 stage => rw [stage, Option.some.injEq, Stage.throttled.injEq]
  case h_2 other => exact ⟨nofun, fun stage => (other t stage).elim⟩

theorem paced_start (p : Publication) (s : Shared) (delay : Span) :
    (start p s).Paced p delay s.now [] [] := by
  unfold start Paced
  cases s.flow.enabled with
  | true => exact Throttled.paced_start p delay s.now
  | false => exact ⟨_, .start delay⟩

theorem Paced.payments (paced : publisher.Paced p delay now admissions pauses) :
    ∃ debt, Throttled.Payments delay admissions pauses debt ∧
      ∀ t, publisher.throttled? = some t → t.outstanding = debt := by
  simp only [throttled?_eq_some_iff]
  cases stage : publisher.stage with
  | throttled t =>
      simp only [Paced, stage] at paced
      refine ⟨t.outstanding, paced.payments, ?_⟩
      rintro _ ⟨⟩
      rfl
  | unthrottled | ended =>
      simp only [Paced, stage] at paced
      obtain ⟨debt, payments⟩ := paced
      exact ⟨debt, payments, nofun⟩

theorem Paced.later (paced : publisher.Paced p delay now admissions pauses)
    (later : now ≤ now') : publisher.Paced p delay now' admissions pauses := by
  unfold Paced at paced ⊢
  split at paced
  case h_1 => exact Throttled.Paced.later paced later
  case h_2 | h_3 => exact paced

theorem Move.paced (move : Move p s tasks publisher s' publisher' started)
    (active : s.cancelled = false)
    (paced : publisher.Paced p s.flow.pacingDelay s.now admissions pauses) :
    publisher'.Paced p s.flow.pacingDelay s.now
      (admissions ++ (started.map (·.admission s.now)).toList)
      (pauses ++ publisher'.pausing?.toList) := by
  obtain ⟨debt, payments, _⟩ := paced.payments
  cases move with
  | throttled stage moved =>
      simp only [Paced, stage] at paced
      exact (Throttled.move_of_step moved).paced active paced
  | unthrottled | join | finish =>
      rw [← List.append_nil admissions, ← List.append_nil pauses] at payments
      exact ⟨debt, payments⟩

end Publisher

end Courier
