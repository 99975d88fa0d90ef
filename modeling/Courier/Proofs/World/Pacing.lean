import Courier.Proofs.Publishing.Punctuality
import Courier.Proofs.World.Timing

/-! The pace at which a client admits its messages. Over any time it is the pace that was asked
for: the pauses fall behind by less than a millisecond, and each of them takes less than a
millisecond too long. -/

namespace Courier.World

def throttled? (w : World) : Option Throttled := w.publisher.bind Publisher.throttled?

def admitted? (made : Transition World Motion) : Option Admission :=
  made.after.tasks[made.before.tasks.length]?.map (·.admission made.before.shared.now)

/-- The pause that the publisher begins in a step. A pause that it has begun ends with the next. -/
def paused? (made : Transition World Motion) : Option Span :=
  match made.label with
  | .part .publisher => made.after.publisher.bind Publisher.pausing?
  | _ => none

def admissions (past : List (Transition World Motion)) : List Admission :=
  past.filterMap admitted?

def pauses (past : List (Transition World Motion)) : List Span := past.filterMap paused?

def isUncancelled (made : Transition World Motion) : Bool :=
  match made.label with
  | .part .publisher => !made.before.shared.cancelled
  | _ => true

def isUnhindered (made : Transition World Motion) : Bool :=
  match made.label with
  | .part _ => true
  | .clock _ => made.before.throttled?.all fun t => !t.isHeldUp made.before.shared

variable {config : Config} {around : Surroundings}
  {past earlier later : List (Transition World Motion)} {made : Transition World Motion}
  {start w w' : World} {motion : Motion} {delay : Span}

theorem admissions_append (past : List (Transition World Motion))
    (made : Transition World Motion) :
    admissions (past ++ [made]) = admissions past ++ (admitted? made).toList :=
  filterMap_append_singleton ..

theorem pauses_append (past : List (Transition World Motion)) (made : Transition World Motion) :
    pauses (past ++ [made]) = pauses past ++ (paused? made).toList :=
  filterMap_append_singleton ..

theorem admitted?_publisher {shared : Shared} {publisher : Publisher} (w : World)
    (started : Option SendTask) :
    admitted? ⟨w, .part .publisher,
        { w with shared, publisher := some publisher, tasks := w.tasks ++ started.toList }⟩ =
      started.map (·.admission w.shared.now) := by
  cases started <;> simp [admitted?]

structure Apart (w w' : World) : Prop where
  publication : w'.publication = w.publication
  publisher : w'.publisher = w.publisher
  tasks : w'.tasks.length = w.tasks.length

theorem Move.apart (move : Move w motion w') (other : motion ≠ .part .publisher) :
    Apart w w' := by
  cases move with
  | publisher => exact (other rfl).elim
  | task => exact ⟨rfl, rfl, List.length_set⟩
  | session | worker | pump | outside | signal | writer | clock => exact ⟨rfl, rfl, rfl⟩

theorem Apart.admissions (apart : Apart w w') (past : List (Transition World Motion)) :
    admissions (past ++ [⟨w, motion, w'⟩]) = admissions past := by
  have none : admitted? ⟨w, motion, w'⟩ = none := by
    rw [admitted?, List.getElem?_eq_none (Nat.le_of_eq apart.tasks), Option.map_none]
  rw [admissions_append, none, Option.toList_none, List.append_nil]

theorem pauses_of_other (other : motion ≠ .part .publisher)
    (past : List (Transition World Motion)) :
    pauses (past ++ [⟨w, motion, w'⟩]) = pauses past := by
  have none : paused? ⟨w, motion, w'⟩ = none := by
    unfold paused?
    split
    case h_1 same => exact (other same).elim
    case h_2 => rfl
  rw [pauses_append, none, Option.toList_none, List.append_nil]

structure Paced (delay : Span) (past : List (Transition World Motion)) (w : World) : Prop where
  flow : w.shared.flow.pacingDelay = delay
  publisher : ∀ publisher, w.publisher = some publisher →
    publisher.Paced w.publication delay w.shared.now (admissions past) (pauses past)

def OnTime (past : List (Transition World Motion)) (w : World) : Prop :=
  ∀ publisher, w.publisher = some publisher →
    publisher.OnTime w.shared.now (admissions past) (pauses past)

theorem Move.paced (move : Move w motion w') (active : isUncancelled ⟨w, motion, w'⟩ = true)
    (paced : Paced delay past w) : Paced delay (past ++ [⟨w, motion, w'⟩]) w' := by
  refine ⟨move.flow ▸ paced.flow, ?_⟩
  by_cases other : motion = .part .publisher
  case pos =>
    subst other
    have now := move.now_eq_of_part
    rw [isUncancelled, Bool.not_eq_true'] at active
    cases move with
    | publisher running moved =>
        have before := paced.publisher _ running
        rw [← paced.flow] at before
        have after := (Publisher.move_of_step moved).paced active before
        rintro _ ⟨⟩
        rw [now, admissions_append, pauses_append, admitted?_publisher, ← paced.flow]
        exact after
  case neg =>
    have apart := move.apart other
    rw [apart.publisher, apart.publication, apart.admissions, pauses_of_other other]
    exact fun publisher running => (paced.publisher publisher running).later move.now_le

theorem paced_of_history (publishes : start.Publishes config around)
    (history : History advance start past w) (active : past.all isUncancelled = true) :
    Paced config.flowControl.pacingDelay past w := by
  induction history with
  | start =>
      obtain ⟨shared, _, publisher⟩ := publishes.parts
      refine ⟨?_, ?_⟩
      · rw [shared]
        rfl
      · intro publisher' running
        cases publisher.symm.trans running
        exact Publisher.paced_start ..
  | next _ moved induction =>
      rw [List.all_append, Bool.and_eq_true, List.all_cons, Bool.and_eq_true] at active
      exact (move_of_advance moved).paced active.2.1 (induction active.1)

theorem Move.onTime (move : Move w motion w') (active : isUncancelled ⟨w, motion, w'⟩ = true)
    (prompt : isPrompt ⟨w, motion, w'⟩ = true)
    (unhindered : isUnhindered ⟨w, motion, w'⟩ = true) (onTime : OnTime past w) :
    OnTime (past ++ [⟨w, motion, w'⟩]) w' := by
  by_cases other : motion = .part .publisher
  case pos =>
    subst other
    have now := move.now_eq_of_part
    rw [isUncancelled, Bool.not_eq_true'] at active
    cases move with
    | publisher running moved =>
        have after := (Publisher.move_of_step moved).onTime active (onTime _ running)
        rintro _ ⟨⟩
        rw [now, admissions_append, pauses_append, admitted?_publisher]
        exact after
  case neg =>
    have apart := move.apart other
    intro publisher running
    rw [apart.publisher] at running
    rw [apart.admissions, pauses_of_other other]
    cases motion with
    | part agent =>
        rw [move.now_eq_of_part]
        exact onTime publisher running
    | clock now =>
        cases move with
        | clock later =>
            -- The publisher cannot move either, so that it waits for the end of its pause.
            have stuck : w.isStuck = true := (Bool.and_eq_true_iff.mp prompt).1
            have stalled := stalled_of_stuck .publisher stuck (by simp [agents])
            simp only [step, stepPublisher, running, Option.map_eq_none_iff] at stalled
            refine (onTime publisher running).later stalled ?_ ?_
            · intro t throttled
              simpa [isUnhindered, throttled?, running, throttled] using unhindered
            · intro deadline known future
              refine le_due_of_prompt prompt ?_ future
              simp [deadlines, running, known]

theorem onTime_of_history (publishes : start.Publishes config around)
    (history : History advance start past w) (active : past.all isUncancelled = true)
    (prompt : past.all isPrompt = true) (unhindered : past.all isUnhindered = true) :
    OnTime past w := by
  induction history with
  | start =>
      obtain ⟨_, _, publisher⟩ := publishes.parts
      intro publisher' running
      cases publisher.symm.trans running
      exact Publisher.onTime_start start.publication start.shared
  | next _ moved induction =>
      simp only [List.all_append, List.all_cons, Bool.and_eq_true] at active prompt unhindered
      exact (move_of_advance moved).onTime active.2.1 prompt.2.1 unhindered.2.1
        (induction active.1 prompt.1 unhindered.1)

theorem Move.admission {admission : Admission} (move : Move w motion w')
    (admits : admitted? ⟨w, motion, w'⟩ = some admission) :
    ∃ publisher t, w.publisher = some publisher ∧ publisher.stage = .throttled t ∧
      t.stage = .admitting ∧ admission = ⟨t.index, w.shared.now⟩ := by
  by_cases other : motion = .part .publisher
  case pos =>
    subst other
    cases move with
    | publisher running moved =>
        rw [admitted?_publisher] at admits
        rcases (Publisher.move_of_step moved).started_cases with
          rfl | ⟨t, stage, admitting, rfl, rfl, rfl⟩
        · cases admits
        · cases admits
          exact ⟨_, t, running, stage, admitting, rfl⟩
  case neg =>
    have apart := move.apart other
    rw [admitted?, List.getElem?_eq_none (Nat.le_of_eq apart.tasks)] at admits
    cases admits

/-- A message is admitted after other steps of a run, and a first one by then. -/
structure Admits (past earlier : List (Transition World Motion)) (first admission : Admission) :
    Prop where
  step : ∃ made later, past = earlier ++ made :: later ∧ admitted? made = some admission
  first : (admissions past).head? = some first

theorem Admits.before {first admission : Admission} (admits : Admits past earlier first admission)
    (history : History advance start past w) :
    ∃ w publisher t later, History advance start earlier w ∧ w.publisher = some publisher ∧
      publisher.stage = .throttled t ∧ t.stage = .admitting ∧
        admission = ⟨t.index, w.shared.now⟩ ∧
          (admissions earlier ++ admission :: later).head? = some first := by
  obtain ⟨⟨made, later, rfl, admitted⟩, head⟩ := admits
  have member : made ∈ earlier ++ made :: later := by simp
  have move := move_of_advance (history.moved_of_mem member)
  obtain ⟨publisher, t, running, stage, admitting, same⟩ := move.admission admitted
  refine ⟨made.before, publisher, t, admissions later, history.before_of_append, running, stage,
    admitting, same, ?_⟩
  simp only [← head, World.admissions, List.filterMap_append,
    List.filterMap_cons_some admitted]

theorem Admits.all {first admission : Admission} (admits : Admits past earlier first admission)
    {holds : Transition World Motion → Bool} (all : past.all holds = true) :
    earlier.all holds = true := by
  obtain ⟨⟨made, later, rfl, _⟩, _⟩ := admits
  rw [List.all_append, Bool.and_eq_true] at all
  exact all.1

structure PaidInFull (delay : Span) (past : List (Transition World Motion)) (w : World) : Prop where
  payments : ∃ debt, Throttled.Payments delay (admissions past) (pauses past) debt ∧
    ∀ t, w.throttled? = some t → t.outstanding = debt
  early : ∀ earlier first admission, Admits past earlier first admission →
    (Span.ofMillis first.time).nanos + admission.index * delay.nanos <
      (Span.ofMillis admission.time).nanos + Throttled.granularity.nanos
  late : ∀ earlier first admission, Admits past earlier first admission →
    earlier.all isPrompt = true → earlier.all isUnhindered = true →
      (Span.ofMillis admission.time).nanos ≤
        (Span.ofMillis first.time).nanos + admission.index * delay.nanos +
          (pauses earlier).length * Throttled.granularity.nanos

/-- The pauses of a publisher and the debt that is left make up for a delay after each message. So
no message comes a millisecond before its time, and where nothing else takes time, none comes later
than a millisecond for each pause. -/
theorem pacing_paid_in_full (config : Config) (around : Surroundings)
    (publishes : start.Publishes config around) (history : History advance start past w)
    (active : past.all isUncancelled = true) :
    PaidInFull config.flowControl.pacingDelay past w where
  payments := by
    obtain ⟨publisher, running, _⟩ := (accounted_of_history publishes history).publisher
    have paced := (paced_of_history publishes history active).publisher publisher running
    obtain ⟨debt, payments, outstanding⟩ := paced.payments
    refine ⟨debt, payments, fun t throttled => outstanding t ?_⟩
    rwa [throttled?, running, Option.bind_some] at throttled
  early earlier first admission admits := by
    obtain ⟨w, publisher, t, later, history, running, stage, admitting, rfl, head⟩ :=
      admits.before history
    have paced := (paced_of_history publishes history (admits.all active)).publisher _ running
    simp only [Publisher.Paced, stage] at paced
    exact paced.early_of_admitting admitting head
  late earlier first admission admits prompt unhindered := by
    obtain ⟨w, publisher, t, later, history, running, stage, admitting, rfl, head⟩ :=
      admits.before history
    have active := admits.all active
    have paced := (paced_of_history publishes history active).publisher _ running
    simp only [Publisher.Paced, stage] at paced
    have going : t.stage ≠ .joining := by
      rw [admitting]
      intro same
      cases same
    have onTime := onTime_of_history publishes history active prompt unhindered _ running t
      (Publisher.throttled?_eq_some_iff.mpr stage) going
    exact paced.late_of_admitting onTime admitting head

private theorem exists_admits {first admission : Admission}
    (head : (admissions past).head? = some first) (member : admission ∈ admissions past) :
    ∃ earlier, Admits past earlier first admission := by
  obtain ⟨made, member, admitted⟩ := List.mem_filterMap.mp member
  obtain ⟨earlier, later, same⟩ := List.append_of_mem member
  exact ⟨earlier, ⟨made, later, same, admitted⟩, head⟩

private def uneven : Config :=
  { topic := "news"
    flowControl :=
      { enabled := true, initialCredits := 4, maxConcurrentSends := 4, maxRetries := 1
        pacingDelay := .ofMicros 700 }
    publishing := { message := "hello", count := 4 } }

private def unevenMotions : List Motion :=
  times
    [(16, .part .publisher), (9, .part (.task 0)), (9, .part (.task 1)), (1, .clock 2),
      (17, .part .publisher), (9, .part (.task 2)), (9, .part (.task 3)), (1, .clock 4),
      (2, .part .publisher)]

theorem pacing_paid_in_full_where_uneven :
    ∃ start past w earlier,
      start.Publishes uneven (.alone .accepting (.ofScript [] false)) ∧
      History advance start past w ∧ past.all isUncancelled = true ∧
        admissions past = [⟨0, 0⟩, ⟨1, 0⟩, ⟨2, 2⟩, ⟨3, 2⟩] ∧
          pauses past = [.ofMicros 1400, .ofMicros 1400] ∧
            Admits past earlier ⟨0, 0⟩ ⟨3, 2⟩ ∧ earlier.all isPrompt = true ∧
              earlier.all isUnhindered = true ∧ PaidInFull (.ofMicros 700) past w := by
  have course :
      (replay advance
        (ofPublication uneven (.alone .accepting (.ofScript [] false)) "" false)
        unevenMotions).map
        (fun (past, _) =>
          (past.all isUncancelled, past.all isPrompt, past.all isUnhindered, admissions past,
            pauses past)) =
      some (true, true, true, [⟨0, 0⟩, ⟨1, 0⟩, ⟨2, 2⟩, ⟨3, 2⟩],
        [.ofMicros 1400, .ofMicros 1400]) := by
    decide
  obtain ⟨⟨past, w⟩, replayed, course⟩ := Option.map_eq_some_iff.mp course
  simp only [Prod.mk.injEq] at course
  obtain ⟨active, prompt, unhindered, admitted, paused⟩ := course
  have publishes : Publishes uneven (.alone .accepting (.ofScript [] false))
      (ofPublication uneven (.alone .accepting (.ofScript [] false)) "" false) :=
    .alone "" false
  have history := History.ofReplay replayed
  obtain ⟨earlier, admits⟩ : ∃ earlier, Admits past earlier ⟨0, 0⟩ ⟨3, 2⟩ :=
    exists_admits (by rw [admitted]; rfl) (by rw [admitted]; decide)
  exact ⟨_, past, w, earlier, publishes, history, active, admitted, paused, admits,
    admits.all prompt, admits.all unhindered,
    pacing_paid_in_full uneven _ publishes history active⟩

end Courier.World
