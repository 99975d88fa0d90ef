import Courier.Proofs.Publishing.Ceasing
import Courier.Proofs.World.Concurrency
import Courier.Proofs.World.Orders

/-! A client that was cancelled. From then on it hands nothing over to the sink, and nothing that
was with the sink comes to a good or bad end. -/

namespace Courier

structure SendTask.Ceases (overflows : Bool) (task task' : SendTask) : Prop where
  unsettled : task.posting.outcome = none → task'.Ceasing overflows
  settled : ∀ outcome, task.posting.outcome = some outcome → task'.posting.outcome = some outcome
  withdrawing : task.offer?.isSome = true → task'.Withdrawing overflows

theorem SendTask.ceases_of_idle {overflows : Bool} {task : SendTask} (admitted : task.Admitted)
    (idle : task.isBusy = false) : task.Ceases overflows task where
  unsettled := ceasing_of_idle admitted idle
  settled _ settled := settled
  withdrawing := withdrawing_of_offer?

theorem SendTask.Ceases.step {s s' : Shared} {task task' task'' : SendTask}
    (ceases : task.Ceases s.overflows task') (move : SendTask.Move s task' s' task'')
    (cancelled : s.cancelled = true) : task.Ceases s.overflows task'' where
  unsettled unsettled := (move.ceasing cancelled (ceases.unsettled unsettled)).1
  settled outcome settled := (move.settled (ceases.settled outcome settled)).1
  withdrawing held := (move.withdrawing cancelled (ceases.withdrawing held)).1

theorem SendTask.Ceases.results {s s' : Shared} {task task' task'' : SendTask}
    (ceases : task.Ceases s.overflows task') (move : SendTask.Move s task' s' task'')
    (cancelled : s.cancelled = true) : s'.results = s.results := by
  cases settled : task.posting.outcome with
  | none => exact (move.ceasing cancelled (ceases.unsettled settled)).2.1
  | some outcome => exact (move.settled (ceases.settled outcome settled)).2

theorem Shared.results_of_outlay {s s' : Shared} (sink : s'.sink = s.sink)
    (outlay : s'.outlay = s.outlay) : s'.results = s.results := by
  simp only [Shared.outlay, Outlay.mk.injEq] at outlay
  obtain ⟨_, sent, acked, dropped, retried, _⟩ := outlay
  rw [results, results, sink, sent, acked, dropped, retried]

namespace World

/-- No part has a slot or a reply in hand that it goes on with at once. -/
structure Suspended (w : World) : Prop where
  publisher : ∀ publisher, w.publisher = some publisher → publisher.isBusy = false
  tasks : ∀ task ∈ w.tasks, task.isBusy = false

def remaining (w : World) : Agent → Nat
  | .task place => w.tasks[place]?.elim 0 SendTask.remaining
  | .publisher => w.publisher.elim 0 Publisher.remaining
  | .session | .outside | .signal | .worker _ | .pump | .writer => 0

/-- The client was cancelled at `w`, and has come to `w'` since. -/
structure Ceases (w w' : World) : Prop where
  cancelled : w'.shared.cancelled = true
  overflows : w'.shared.overflows = w.shared.overflows
  results : w'.shared.results = w.shared.results
  tasks : Alongside (SendTask.Ceases w.shared.overflows) w.tasks w'.tasks
  idle : ∀ publisher, w'.publisher = some publisher → publisher.isBusy = false
  withdrawing : (w.offer? .publisher).isSome = true →
    ∃ publisher, w'.publisher = some publisher ∧ publisher.Withdrawing

variable {config : Config} {around : Surroundings} {past later : List (Transition World Motion)}
  {start w w' w'' : World} {motion : Motion} {count base : Nat}

theorem ceases_of_suspended (accounted : w.Accounted count base)
    (admitted : ∀ task ∈ w.tasks, task.Admitted) (cancelled : w.shared.cancelled = true)
    (suspended : w.Suspended) : w.Ceases w where
  cancelled := cancelled
  overflows := rfl
  results := rfl
  tasks := by
    refine ⟨rfl, ?_⟩
    intro place task task' present present'
    cases present.symm.trans present'
    have member := List.mem_of_getElem? present
    exact SendTask.ceases_of_idle (admitted task member) (suspended.tasks task member)
  idle := suspended.publisher
  withdrawing := by
    intro held
    obtain ⟨publisher, running, _⟩ := accounted.publisher
    rw [offer?, running, Option.bind_some] at held
    exact ⟨publisher, running, Publisher.withdrawing_of_offer? held⟩

private theorem Ceases.elsewhere (ceases : w.Ceases w') (move : Move w' motion w'')
    (aside : Aside w' w'') : w.Ceases w'' where
  cancelled := move.cancelled ceases.cancelled
  overflows := move.overflows.trans ceases.overflows
  results := (Shared.results_of_outlay aside.sink aside.outlay).trans ceases.results
  tasks := aside.tasks ▸ ceases.tasks
  idle := aside.publisher ▸ ceases.idle
  withdrawing := aside.publisher ▸ ceases.withdrawing

theorem Ceases.step (ceases : w.Ceases w') (move : Move w' motion w'')
    (accounted : w'.Accounted count base) : w.Ceases w'' := by
  have cancelled := ceases.cancelled
  have cancelled' := move.cancelled cancelled
  have overflows' := move.overflows.trans ceases.overflows
  rcases move.publishing_cases accounted with aside | rfl | ⟨place, rfl⟩
  · exact ceases.elsewhere move aside
  · cases move with
    | publisher running moved =>
        have move := Publisher.move_of_step moved
        obtain ⟨idle, rfl, results⟩ := move.ceasing cancelled (ceases.idle _ running)
        refine ⟨cancelled', overflows', results.trans ceases.results, ?_, ?_, ?_⟩
        · rw [Option.toList_none, List.append_nil]
          exact ceases.tasks
        · rintro publisher ⟨⟩
          exact idle
        · intro held
          obtain ⟨publisher, running', withdrawing⟩ := ceases.withdrawing held
          cases running.symm.trans running'
          exact ⟨_, rfl, (move.withdrawing cancelled withdrawing).1⟩
  · cases move with
    | task running moved =>
        have move := SendTask.move_of_step moved
        obtain ⟨task, present, related⟩ := ceases.tasks.exists_at running
        rw [← ceases.overflows] at related
        have next := related.step move cancelled
        rw [ceases.overflows] at next
        exact ⟨cancelled', overflows', (related.results move cancelled).trans ceases.results,
          ceases.tasks.set_right present next, ceases.idle,
          ceases.withdrawing⟩

/-- Giving up what was with the sink takes a part some steps of its own, and no others. None of them
leaves a line in the ledger. -/
theorem Ceases.countdown (ceases : w.Ceases w') (move : Move w' motion w'') {agent : Agent}
    (held : (w.offer? agent).isSome = true) :
    w''.remaining agent + (decide (motion = .part agent)).toNat = w'.remaining agent ∧
      (motion = .part agent → w''.shared.ledger = w'.shared.ledger) := by
  have cancelled := ceases.cancelled
  cases agent with
  | session | outside | signal | worker | pump | writer => cases held
  | task place =>
      obtain ⟨task, present, held⟩ := offering_of_isSome held
      obtain ⟨task', present', related⟩ := ceases.tasks.exists_other present
      have withdrawing := related.withdrawing held
      rw [← ceases.overflows] at withdrawing
      cases move with
      | task running moved =>
          rename_i index _ task'' _
          have move := SendTask.move_of_step moved
          -- The steps of other sends leave this one where it is.
          by_cases same : index = place
          · subst same
            cases present'.symm.trans running
            refine ⟨?_, fun _ => (move.ceasing cancelled withdrawing.1).2.2⟩
            simp only [remaining, getElem?_set_of_getElem? running, running, Option.elim_some,
              decide_true, Bool.toNat_true]
            exact (move.withdrawing cancelled withdrawing).2
          · refine ⟨?_, fun moves => ?_⟩
            · simp [remaining, List.getElem?_set_ne same, same]
            · cases moves
              exact (same rfl).elim
      | publisher running moved =>
          obtain ⟨_, rfl, _⟩ :=
            (Publisher.move_of_step moved).ceasing cancelled (ceases.idle _ running)
          refine ⟨?_, nofun⟩
          simp [remaining]
      | session | worker | pump | outside | signal | writer | clock => exact ⟨rfl, nofun⟩
  | publisher =>
      obtain ⟨publisher, running', withdrawing⟩ := ceases.withdrawing held
      cases move with
      | publisher running moved =>
          cases running.symm.trans running'
          have withdrawn := (Publisher.move_of_step moved).withdrawing cancelled withdrawing
          refine ⟨?_, fun _ => withdrawn.2.2⟩
          simp only [remaining, running, Option.elim_some, decide_true, Bool.toNat_true]
          exact withdrawn.2.1
      | session | task | worker | pump | outside | signal | writer | clock => exact ⟨rfl, nofun⟩

theorem ceases_of_history (ceases : w.Ceases w) (accounted : w.Accounted count base)
    (history : History advance w later w') : w.Ceases w' ∧ w'.Accounted count base := by
  induction history with
  | start => exact ⟨ceases, accounted⟩
  | next _ moved induction =>
      have move := move_of_advance moved
      exact ⟨induction.1.step move induction.2, move.accounted induction.2⟩

theorem Move.handsBack {place : Nat} (move : Move w (.part (.task place)) w')
    (cancelled : w.shared.cancelled = true) (held : (w.offer? (.task place)).isSome = true) :
    w'.shared.credits = w.shared.credits.add 1 ∧
      ∃ task, w'.tasks[place]? = some task ∧ task.posting.outcome = some .cancelled := by
  obtain ⟨task, present, held⟩ := offering_of_isSome held
  cases move with
  | task running moved =>
      cases present.symm.trans running
      obtain ⟨outcome, credits⟩ := (SendTask.move_of_step moved).withdrawn cancelled held
      exact ⟨credits, _, getElem?_set_of_getElem? running, outcome⟩

structure Silenced (config : Config) (around : Surroundings) (w : World)
    (later : List (Transition World Motion)) (w' : World) : Prop where
  results : w'.shared.results = w.shared.results
  admitted : w'.tasks.length = w.tasks.length
  /-- A message that had no outcome is sent no more, and if its send stops, it was given up. -/
  unsettled : ∀ (place : Nat) (task : SendTask), w.tasks[place]? = some task →
    task.posting.outcome = none → ∃ (task' : SendTask), w'.tasks[place]? = some task' ∧
      (∀ outcome, task'.posting.outcome = some outcome →
        outcome.IsGivenUp w.shared.overflows) ∧
        (task'.step w'.shared = none → ∃ outcome, task'.outcome? = some outcome ∧
          outcome.IsGivenUp w.shared.overflows)
  handsBack : ∀ made ∈ later, ∀ (place : Nat), made.label = .part (.task place) →
    (made.before.offer? (.task place)).isSome = true →
      made.after.shared.credits = made.before.shared.credits.add 1 ∧
        ∃ (task : SendTask), made.after.tasks[place]? = some task ∧
          task.posting.outcome = some .cancelled
  /-- A part that had something with the sink makes just so many more steps. -/
  countdown : ∀ agent, (w.offer? agent).isSome = true →
    w'.remaining agent + later.countP (·.label = .part agent) = w.remaining agent
  unrecorded : ∀ made ∈ later, ∀ agent, made.label = .part agent →
    (w.offer? agent).isSome = true → made.after.shared.ledger = made.before.shared.ledger
  reports : (w.offer? .publisher).isSome = true → w'.step .publisher = none →
    w'.publishReport?.isSome = true
  report : ∀ report, w'.publishReport? = some report →
    report.sent = w.shared.stats.sent ∧
      report.dropped = w.shared.stats.dropped + endedWith .broken w'.tasks ∧
        report.cancelled = config.publishing.count - (report.sent + report.dropped)
  /-- No send has panicked, but where the number of attempts overflows. -/
  unbroken : (config.flowControl.enabled = true → around.checked = true →
    config.flowControl.maxRetries ≠ 4294967295) → endedWith .broken w'.tasks = 0

private theorem countdown_of_history (ceases : w.Ceases w) (accounted : w.Accounted count base)
    (history : History advance w later w') {agent : Agent}
    (held : (w.offer? agent).isSome = true) :
    w'.remaining agent + later.countP (·.label = .part agent) = w.remaining agent := by
  induction history with
  | start => rfl
  | @next _ before after motion history moved induction =>
      have ceases := (ceases_of_history ceases accounted history).1
      have step := (ceases.countdown (move_of_advance moved) held).1
      have last : [Transition.mk before motion after].countP (·.label = .part agent) =
          (decide (motion = .part agent)).toNat := by
        by_cases moves : motion = .part agent <;> simp [moves]
      rw [List.countP_append, last]
      omega

private theorem steps_of_history (ceases : w.Ceases w) (accounted : w.Accounted count base)
    (history : History advance w later w') :
    ∀ made ∈ later, w.Ceases made.before ∧ Move made.before made.label made.after := by
  induction history with
  | start => exact List.forall_mem_nil _
  | next history moved induction =>
      intro made member
      rcases List.mem_append.mp member with earlier | last
      · exact induction made earlier
      · cases List.mem_singleton.mp last
        exact ⟨(ceases_of_history ceases accounted history).1, move_of_advance moved⟩

/-- Once a client is cancelled, while its parts are suspended, nothing more is published: nothing is
handed over to the sink, and whatever is with it is withdrawn. -/
theorem nothing_published_after_cancel (config : Config) (around : Surroundings)
    (publishes : start.Publishes config around) (history : History advance start past w)
    (cancelled : w.shared.cancelled = true) (suspended : w.Suspended)
    (further : History advance w later w') :
    Silenced config around w later w' := by
  have accounted := accounted_of_history publishes history
  have admitted := (seated_of_publishes publishes history).admitted
  have ceasing := ceases_of_suspended accounted admitted cancelled suspended
  obtain ⟨ceases, accounted'⟩ := ceases_of_history ceasing accounted further
  have steps := steps_of_history ceasing accounted further
  refine ⟨ceases.results, ceases.tasks.length, ?_, ?_, ?_, ?_, ?_, ?_, ?_⟩
  · intro place task present unsettled
    obtain ⟨task', present', related⟩ := ceases.tasks.exists_other present
    have ceasing := related.unsettled unsettled
    exact ⟨task', present', fun _ => ceasing.outcome, ceasing.ended_of_stalled ceases.cancelled⟩
  · rintro ⟨before, label, after⟩ member place rfl held
    obtain ⟨ceases, move⟩ := steps _ member
    exact move.handsBack ceases.cancelled held
  · intro agent held
    exact countdown_of_history ceasing accounted further held
  · rintro made member agent label held
    obtain ⟨ceases, move⟩ := steps made member
    exact (ceases.countdown move held).2 label
  · intro held stalled
    obtain ⟨publisher, running, withdrawing⟩ := ceases.withdrawing held
    simp only [step, stepPublisher, running, Option.map_eq_none_iff] at stalled
    rw [publishReport?, running, Option.bind_some]
    exact withdrawing.reported_of_stalled ceases.cancelled stalled
  · intro report reported
    obtain ⟨total, sent, _, dropped, _⟩ := (accounted'.settled reported).1
    have results := ceases.results
    simp only [Shared.results, Results.mk.injEq] at results
    obtain ⟨_, _, same, _, same', _⟩ := results
    simp only [Shared.outlay, same, same'] at sent dropped
    refine ⟨sent.symm, dropped.symm, ?_⟩
    omega
  · intro fits
    obtain ⟨sound, unbroken⟩ := unbroken_of_history publishes fits history
    exact endedWith_eq_zero (unbroken_since sound unbroken further).2

private def brisk : Config :=
  { topic := "news"
    flowControl :=
      { enabled := true, initialCredits := 5, maxConcurrentSends := 4, pacingDelay := .zero }
    publishing := { message := "hello", count := 2 } }

/-- The sink accepts a command in the very moment in which the client is cancelled. -/
private def belated : Surroundings :=
  { Surroundings.alone (.start (fun _ _ => none) fun _ => ⟨100, some .accepted⟩)
      (.ofScript [] false) with
    outside := [100].map (·, .cancel) }

private def beforeMotions : List Motion :=
  times
    [(16, .part .publisher), (3, .part (.task 0)), (1, .clock 100), (1, .part .outside)]

private def afterMotions : List Motion :=
  times [(4, .part (.task 0)), (6, .part (.task 1)), (1, .part .publisher)]

theorem nothing_published_after_cancel_where_belated :
    ∃ start past w later w' report, start.Publishes brisk belated ∧
      History advance start past w ∧ w.shared.cancelled = true ∧ w.Suspended ∧
        History advance w later w' ∧ (w.offer? (.task 0)).isSome = true ∧
          w.shared.sink.calls.length = 1 ∧ w'.shared.sink.calls.length = 1 ∧
            later.countP (·.label = .part (.task 0)) = 4 ∧
              w'.publishReport? = some report ∧ report.sent = 0 ∧ report.dropped = 0 ∧
                report.cancelled = 2 ∧ Silenced brisk belated w later w' := by
  have course :
      (replay advance (ofPublication brisk belated "" false) beforeMotions).bind
        (fun (_, w) => (replay advance w afterMotions).map fun (_, w') =>
          ((w.shared.cancelled, w.publisher.all (!·.isBusy), w.tasks.all (!·.isBusy)),
            ((w.offer? (.task 0)).isSome, w.shared.sink.calls.length, w.remaining (.task 0)),
            (w.shared.stats.sent, w.shared.stats.dropped, w'.remaining (.task 0)),
            w'.publishReport?.isSome)) =
      some ((true, true, true), (true, 1, 4), (0, 0, 0), true) := by
    decide
  obtain ⟨⟨past, w⟩, replayed, course⟩ := Option.bind_eq_some_iff.mp course
  obtain ⟨⟨later, w'⟩, further, course⟩ := Option.map_eq_some_iff.mp course
  simp only [Prod.mk.injEq] at course
  obtain ⟨⟨cancelled, publisher, tasks⟩, ⟨held, calls, steps⟩, ⟨sent, dropped, done⟩, reported⟩ :=
    course
  obtain ⟨report, reported⟩ := Option.isSome_iff_exists.mp reported
  have publishes : Publishes brisk belated (ofPublication brisk belated "" false) := .alone "" false
  have history := History.ofReplay replayed
  have further := History.ofReplay further
  have suspended : w.Suspended := by
    refine ⟨?_, ?_⟩
    · intro _ running
      simpa [running] using publisher
    · simpa using tasks
  have silenced :=
    nothing_published_after_cancel brisk belated publishes history cancelled suspended further
  have results := silenced.results
  simp only [Shared.results, Results.mk.injEq] at results
  have countdown := silenced.countdown (.task 0) held
  rw [done, steps, Nat.zero_add] at countdown
  have counts := silenced.report report reported
  have whole := silenced.unbroken (by rintro _ ⟨⟩)
  obtain ⟨sent', dropped', cancelled'⟩ := counts
  rw [dropped, whole] at dropped'
  rw [sent] at sent'
  rw [sent', dropped'] at cancelled'
  exact ⟨_, past, w, later, w', report, publishes, history, cancelled, suspended, further, held,
    calls, results.1 ▸ calls, countdown, reported, sent', dropped', cancelled', silenced⟩

end World

end Courier
