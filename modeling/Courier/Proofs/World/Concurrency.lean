import Courier.Proofs.Publishing.SingleFile
import Courier.Proofs.World.Aftermath
import Courier.Proofs.World.Offers

/-! How many messages of a client are under way at once, and in which order they are attempted. -/

namespace Courier.World

variable {config : Config} {around : Surroundings} {past : List (Transition World Motion)}
  {start w w' : World} {motion : Motion} {limit count base : Nat}

theorem seated_of_publishes (publishes : start.Publishes config around)
    (history : History advance start past w) :
    Seated config.flowControl.maxConcurrentSends w.shared.slots w.seat w.tasks := by
  induction history with
  | start =>
      obtain ⟨shared, tasks, publisher⟩ := publishes.parts
      rw [seat, publisher, Option.elim_some, Seated.seat_start, shared, tasks]
      exact .start _
  | next _ moved induction => exact (move_of_advance moved).seated induction

section Peak

def observed? (w : World) : Option Nat := w.publisher.bind Publisher.observed?

theorem Move.gauged (move : Move w motion w') (seated : Seated limit w.shared.slots w.seat w.tasks)
    (gauged : Gauged limit w.shared.slots w.observed?) :
    Gauged limit w'.shared.slots w'.observed? := by
  cases move with
  | session running moved =>
      obtain ⟨_, _, _, _, _, _, rfl⟩ := (Session.move_of_step moved).reach
      exact gauged
  | publisher running moved =>
      rw [seat, running] at seated
      rw [observed?, running] at gauged
      exact gauged.publisher seated (Publisher.move_of_step moved)
  | task running moved =>
      have admitted := seated.admitted _ (List.mem_of_getElem? running)
      have peak := (SendTask.move_of_step moved).peak admitted
      exact ⟨peak ▸ gauged.peak, gauged.observed⟩
  | worker running moved =>
      obtain ⟨_, _, _, _, _, _, _, rfl⟩ := (Worker.move_of_step moved).reach
      exact gauged
  | pump running moved =>
      obtain ⟨_, _, _, _, rfl⟩ := (Pump.move_of_step moved).reach
      exact gauged
  | outside planned due =>
      rename_i event _
      cases event <;> exact gauged
  | signal | writer | clock => exact gauged

theorem gauged_of_history (publishes : start.Publishes config around)
    (history : History advance start past w) :
    Gauged config.flowControl.maxConcurrentSends w.shared.slots w.observed? := by
  induction history with
  | start =>
      obtain ⟨shared, _, publisher⟩ := publishes.parts
      rw [observed?, publisher, Option.bind_some, Gauged.observed?_start, shared]
      exact .none (Nat.zero_le _)
  | next history moved induction =>
      exact (move_of_advance moved).gauged (seated_of_publishes publishes history) induction

end Peak

section Numbers

def Numbered (w : World) : Prop := w.tasks.map (·.index) = List.range w.tasks.length

theorem Numbered.index (numbered : w.Numbered) {place : Nat} {task : SendTask}
    (present : w.tasks[place]? = some task) : task.index = place := by
  obtain ⟨bound, _⟩ := List.getElem?_eq_some_iff.mp present
  have same := congrArg (·[place]?) numbered
  simp only [List.getElem?_map, present, Option.map_some, List.getElem?_range bound] at same
  exact Option.some.inj same

theorem Move.numbered (move : Move w motion w') (accounted : w.Accounted count base)
    (numbered : w.Numbered) : w'.Numbered := by
  cases move with
  | publisher running moved =>
      obtain ⟨publisher, present, books⟩ := accounted.publisher
      cases present.symm.trans running
      rcases (Publisher.move_of_step moved).started_cases with
        rfl | ⟨t, stage, admitting, rfl, rfl, rfl⟩
      · simpa only [Numbered, Option.toList_none, List.append_nil] using numbered
      · simp only [Publisher.Accounted, stage, Throttled.Placed, admitting] at books
        simp only [Numbered, Option.toList_some, List.map_append, List.map_singleton,
          List.length_append, List.length_singleton, List.range_succ]
        rw [numbered, books.2.1]
        rfl
  | task running moved =>
      rename_i place task task' shared
      have same := (SendTask.move_of_step moved).index
      obtain ⟨bound, _⟩ := List.getElem?_eq_some_iff.mp running
      rw [Numbered, List.map_set, List.length_set, same, ← numbered]
      apply List.ext_getElem?
      intro other
      by_cases moves : place = other
      · subst moves
        rw [List.getElem?_set_self (by simpa using bound), List.getElem?_map, running,
          Option.map_some]
      · rw [List.getElem?_set_ne moves]
  | session | worker | pump | outside | signal | writer | clock => exact numbered

theorem numbered_of_history (publishes : start.Publishes config around)
    (history : History advance start past w) : w.Numbered := by
  induction history with
  | start =>
      rw [Numbered, publishes.parts.2.1]
      rfl
  | next history moved induction =>
      exact (move_of_advance moved).numbered (accounted_of_history publishes history) induction

theorem Move.admits (move : Move w motion w') {task : SendTask}
    (admits : w'.tasks = w.tasks ++ [task]) :
    ∃ publisher t, w.publisher = some publisher ∧ publisher.stage = .throttled t ∧
      t.stage = .admitting ∧ task.index = t.index := by
  have longer := congrArg List.length admits
  rw [List.length_append] at longer
  cases move with
  | publisher running moved =>
      rcases (Publisher.move_of_step moved).started_cases with
        rfl | ⟨t, stage, admitting, rfl, rfl, rfl⟩
      · simp at longer
      · rw [Option.toList_some, List.append_cancel_left_eq, List.singleton_inj] at admits
        exact ⟨_, t, running, stage, admitting, admits ▸ rfl⟩
  | task running moved =>
      rw [List.length_set] at longer
      exact absurd longer (by simp)
  | session | worker | pump | outside | signal | writer => exact absurd longer (by simp)
  | clock => exact absurd longer (by simp [setClock])

end Numbers

section Order

def Follows (enabled : Bool) (w : World) : Prop :=
  ∀ publisher, w.publisher = some publisher → publisher.Follows enabled

theorem Move.follows {enabled : Bool} (move : Move w motion w') (follows : w.Follows enabled) :
    w'.Follows enabled := by
  cases move with
  | publisher running moved =>
      rintro publisher' ⟨⟩
      exact (Publisher.move_of_step moved).follows (follows _ running)
  | session | task | worker | pump | outside | signal | writer | clock => exact follows

theorem follows_of_history (publishes : start.Publishes config around)
    (history : History advance start past w) : w.Follows config.flowControl.enabled := by
  induction history with
  | start =>
      obtain ⟨shared, _, publisher⟩ := publishes.parts
      intro publisher' running
      cases publisher.symm.trans running
      rw [shared]
      exact Publisher.follows_start _ _
  | next _ moved induction => exact (move_of_advance moved).follows induction

structure InOrder (past : List (Transition World Motion)) (w : World) : Prop where
  order : (attempts past).Pairwise (· ≤ ·)
  heads : ∀ publisher, w.publisher = some publisher → publisher.Heads (attempts past) w.tasks

private theorem InOrder.elsewhere (inOrder : InOrder past w) (aside : Aside w w') :
    InOrder (past ++ [⟨w, motion, w'⟩]) w' := by
  have none : attempts (past ++ [⟨w, motion, w'⟩]) = attempts past := by
    rw [attempts_append, offered?_of_sink aside.sink, Option.toList_none, List.map_nil,
      List.append_nil]
  constructor
  · rw [none]
    exact inOrder.order
  · rw [none, aside.publisher, aside.tasks]
    exact inOrder.heads

private theorem order_append {attempts fresh : List Nat} (order : attempts.Pairwise (· ≤ ·))
    (single : fresh.length ≤ 1)
    (after : ∀ earlier ∈ attempts, ∀ later ∈ fresh, earlier ≤ later) :
    (attempts ++ fresh).Pairwise (· ≤ ·) := by
  rw [List.pairwise_append]
  refine ⟨order, ?_, after⟩
  match fresh, single with
  | [], _ => exact .nil
  | [index], _ => exact List.pairwise_singleton ..

private theorem length_offer (offer? : Option Offer) :
    (offer?.toList.map (·.index)).length ≤ 1 := by
  cases offer? <;> simp

private theorem fresh_cases (held next : Option Offer) :
    (if held.isSome then none else next) = none ∨
      (if held.isSome then none else next) = next := by
  cases held with
  | none => exact .inr rfl
  | some => exact .inl rfl

theorem Move.inOrder {enabled : Bool} (move : Move w motion w') (accounted : w.Accounted count base)
    (seated : Seated limit w.shared.slots w.seat w.tasks) (numbered : w.Numbered)
    (follows : w.Follows enabled) (single : enabled = true → limit = 1)
    (inOrder : InOrder past w) :
    InOrder (past ++ [⟨w, motion, w'⟩]) w' := by
  rcases move.publishing_cases accounted with aside | rfl | ⟨place, rfl⟩
  · exact inOrder.elsewhere aside
  · cases move with
    | publisher running moved =>
        rename_i publisher publisher' shared started
        rw [seat, running] at seated
        obtain ⟨heads, after⟩ := (Publisher.move_of_step moved).heads (follows _ running) single
          seated (inOrder.heads _ running) (fresh_cases ..)
        constructor
        · rw [attempts_append, offered?_publisher running moved]
          exact order_append inOrder.order (length_offer _) after
        · rw [attempts_append, offered?_publisher running moved]
          rintro publisher' ⟨⟩
          exact heads
  · cases move with
    | task running moved =>
        rename_i task task' shared
        obtain ⟨publisher, present, books⟩ := accounted.publisher
        have admitted := seated.admitted task (List.mem_of_getElem? running)
        obtain ⟨heads, after⟩ := (inOrder.heads _ present).send books running
          (numbered.index running) admitted moved (fresh_cases ..)
        constructor
        · rw [attempts_append, offered?_task running moved]
          exact order_append inOrder.order (length_offer _) after
        · rw [attempts_append, offered?_task running moved]
          intro publisher' running'
          cases present.symm.trans running'
          exact heads

theorem inOrder_of_history (publishes : start.Publishes config around)
    (single : config.flowControl.enabled = true → config.flowControl.maxConcurrentSends = 1)
    (history : History advance start past w) :
    InOrder past w := by
  induction history with
  | start =>
      obtain ⟨_, tasks, publisher⟩ := publishes.parts
      refine ⟨.nil, ?_⟩
      intro publisher' running
      cases publisher.symm.trans running
      rw [tasks]
      exact Publisher.heads_start _ _
  | next history moved induction =>
      exact (move_of_advance moved).inOrder (accounted_of_history publishes history)
        (seated_of_publishes publishes history) (numbered_of_history publishes history)
        (follows_of_history publishes history) single induction

end Order

/-- What the slots hold the sends of a client to. -/
structure Limited (config : Config) (around : Surroundings)
    (past : List (Transition World Motion)) (w : World) : Prop where
  atSink : config.flowControl.enabled = true →
    w.shared.sink.inside ≤ around.sink.inside + config.flowControl.maxConcurrentSends
  inFlight : w.shared.slots.inFlight ≤ config.flowControl.maxConcurrentSends
  peak : w.shared.slots.peak ≤ config.flowControl.maxConcurrentSends
  idle : ∀ report, w.publishReport? = some report → w.shared.slots.inFlight = 0
  /-- When a message is admitted, all before it were, and not as many of them are under way as there
  are slots. -/
  admission : ∀ made ∈ past, ∀ task, made.after.tasks = made.before.tasks ++ [task] →
    made.before.tasks.map (·.index) = List.range task.index ∧
      made.before.tasks.countP SendTask.isUnderway < config.flowControl.maxConcurrentSends
  calls : w.shared.sink.calls.length = around.sink.calls.length + (attempts past).length
  order : (config.flowControl.enabled = true → config.flowControl.maxConcurrentSends = 1) →
    (attempts past).Pairwise (· ≤ ·)

private theorem atSink_of_history (publishes : start.Publishes config around)
    (enabled : config.flowControl.enabled = true) (history : History advance start past w) :
    w.shared.sink.inside ≤ around.sink.inside + config.flowControl.maxConcurrentSends := by
  have inside := (engaged_of_history publishes history).inside
  have held := (seated_of_publishes publishes history).countP_offer?_le
  obtain ⟨publisher, running, _⟩ := (accounted_of_history publishes history).publisher
  have follows := follows_of_history publishes history publisher running
  -- Under flow control only sends have anything with the sink.
  have none : publisher.offer? = none := by
    cases stage : publisher.stage with
    | throttled | ended => simp only [Publisher.offer?, stage]
    | unthrottled =>
        simp only [Publisher.Follows, stage, enabled] at follows
        cases follows
  simp only [offer?, running, Option.bind_some, none, Option.isSome_none, Bool.toNat_false]
    at inside
  omega

private theorem idle_of_history (publishes : start.Publishes config around)
    (history : History advance start past w) {report : PublishReport}
    (reported : w.publishReport? = some report) : w.shared.slots.inFlight = 0 := by
  have accounted := accounted_of_history publishes history
  have seated := seated_of_publishes publishes history
  obtain ⟨publisher, running, _⟩ := accounted.publisher
  have ended := (accounted.settled reported).2
  rw [publishReport?, running, Option.bind_some] at reported
  have unseated : w.seat = .none := by
    rw [seat, running, Option.elim_some, Publisher.seat, Publisher.stage_of_report? reported]
  rw [unseated] at seated
  exact (seated.vacant fun task member => (ended task member).2).2.1

private theorem admission_of_history (publishes : start.Publishes config around)
    (history : History advance start past w) :
    ∀ made ∈ past, ∀ task, made.after.tasks = made.before.tasks ++ [task] →
      made.before.tasks.map (·.index) = List.range task.index ∧
        made.before.tasks.countP SendTask.isUnderway < config.flowControl.maxConcurrentSends := by
  induction history with
  | start => exact List.forall_mem_nil _
  | next history moved induction =>
      intro made member task admits
      rcases List.mem_append.mp member with earlier | last
      · exact induction made earlier task admits
      · cases List.mem_singleton.mp last
        obtain ⟨publisher, t, running, stage, admitting, index⟩ :=
          (move_of_advance moved).admits admits
        obtain ⟨_, present, books⟩ := (accounted_of_history publishes history).publisher
        cases present.symm.trans running
        simp only [Publisher.Accounted, stage, Throttled.Placed, admitting] at books
        have seated := seated_of_publishes publishes history
        rw [seat, running, Option.elim_some, Publisher.seat, stage] at seated
        refine ⟨?_, seated.countP_isUnderway_lt ?_⟩
        · rw [index, ← books.2.1]
          exact numbered_of_history publishes history
        · simp only [Throttled.seat, admitting]

/-- Whatever happens, no more messages are under way at once than there are slots; and where they
can only be under way one by one, the sink sees them in their order. -/
theorem slots_limit_sends (config : Config) (around : Surroundings)
    (publishes : start.Publishes config around) (history : History advance start past w) :
    Limited config around past w where
  atSink enabled := atSink_of_history publishes enabled history
  inFlight := by
    obtain ⟨publisher, running, _⟩ := (accounted_of_history publishes history).publisher
    have seated := seated_of_publishes publishes history
    rw [seat, running] at seated
    exact seated.inFlight_le publisher.counted_le_holds
  peak := (gauged_of_history publishes history).peak
  idle _ reported := idle_of_history publishes history reported
  admission := admission_of_history publishes history
  calls := (engaged_of_history publishes history).calls
  order single := (inOrder_of_history publishes single history).order

private def lonely : Config :=
  { topic := "news"
    flowControl :=
      { enabled := true, initialCredits := 5, maxConcurrentSends := 1, maxRetries := 1
        pacingDelay := .zero }
    publishing := { message := "hello", count := 2 } }

private def refusing : Surroundings :=
  .alone
    (.start (fun _ _ => none) fun call =>
      if call.attempt = 0 then ⟨0, some (.failed (.status ⟨.unavailable, ""⟩))⟩ else .immediate)
    (.ofScript [] false)

/-- While a message waits for its second attempt, the publisher waits for the slot. -/
private def refusingMotions : List Motion :=
  times
    [(11, .part .publisher), (6, .part (.task 0)), (1, .clock 1000), (10, .part (.task 0)),
      (5, .part .publisher), (9, .part (.task 1)), (1, .part .publisher)]

theorem slots_limit_sends_where_single :
    ∃ start past w report, start.Publishes lonely refusing ∧ History advance start past w ∧
      w.publishReport? = some report ∧ report.sent = 2 ∧ attempts past = [0, 0, 1] ∧
        [0, 0, 1].Pairwise (· ≤ ·) ∧ w.shared.sink.calls.length = 0 + 3 ∧
          w.shared.slots.peak ≤ 1 ∧ w.shared.slots.inFlight = 0 := by
  have course :
      (replay advance (ofPublication lonely refusing "" false) refusingMotions).map
        (fun (past, w) => (w.publishReport?.map (·.sent), attempts past)) =
      some (some 2, [0, 0, 1]) := by
    decide
  obtain ⟨⟨past, w⟩, replayed, course⟩ := Option.map_eq_some_iff.mp course
  simp only [Prod.mk.injEq, Option.map_eq_some_iff] at course
  obtain ⟨⟨report, reported, sent⟩, made⟩ := course
  have publishes : Publishes lonely refusing (ofPublication lonely refusing "" false) :=
    .alone "" false
  have history := History.ofReplay replayed
  have limited := slots_limit_sends lonely refusing publishes history
  have order := limited.order fun _ => rfl
  have calls := limited.calls
  rw [made] at order calls
  exact ⟨_, past, w, report, publishes, history, reported, sent, made, order, calls,
    limited.peak, limited.idle report reported⟩

end Courier.World
