import Courier.Proofs.World.Numbering

/-! What is left of the messages when the workers have stopped: what the gates did with them, what is
paid for them, and what is told of them. -/

namespace Courier

namespace World

variable {config : Config} {around : Surroundings} {gates : List Gate}
  {frames : List Wire.Response} {past : List (Transition World Motion)} {start w w' : World}
  {motion : Motion}

theorem records_of_apart (move : Move w motion w') (apart : ∀ index, motion ≠ .part (.worker index)) :
    ∀ deed ∈ leaves ⟨w, motion, w'⟩, ∃ line, deed = .record line := by
  obtain ⟨lines, left⟩ := (move.unheard apart).leaves
  intro deed member
  rw [leaves, left.since_records] at member
  obtain ⟨line, _, same⟩ := List.mem_map.mp member
  exact ⟨line, same.symm⟩

theorem due_of_resting {index : Nat} {worker : Worker} {deadline : Nat} {visit : Worker.Visit}
    {deeds : List Deed} (move : Move w (.part (.worker index)) w')
    (present : w.workers[index]? = some worker) (stage : worker.stage = .resting deadline visit deeds) :
    deadline ≤ w.shared.now := by
  cases move with
  | worker running moved =>
      cases present.symm.trans running
      simp only [Worker.step, stage] at moved
      split at moved
      case isTrue due => exact due
      case isFalse => cases moved

def earns (made : Transition World Motion) : Bool := (brought? made).any (·.2.seq?.isSome)

theorem countP_earns (past : List (Transition World Motion)) :
    past.countP earns = ((brought past).filterMap (·.2.seq?)).length := by
  rw [brought, List.filterMap_filterMap, List.length_filterMap_eq_countP]
  congr 1
  funext made
  rw [earns]
  cases brought? made <;> rfl

theorem credits_of_worker {index : Nat} (settings : w.shared.flow = config.flowControl)
    (move : Move w (.part (.worker index)) w') :
    w'.shared.credits =
      if config.flowControl.enabled ∧ earns ⟨w, .part (.worker index), w'⟩ then
        w.shared.credits.add config.flowControl.creditIncrement
      else w.shared.credits := by
  cases move with
  | @worker _ worker worker' shared running moved =>
      have present : (w.workers.set index worker')[index]? = some worker' :=
        getElem?_set_of_getElem? running
      have credits := (Worker.move_of_step moved).credits
      rw [settings] at credits
      simp only [earns, brought?, running, present]
      rw [credits]
      cases worker.brings? worker' <;> simp

structure Undrawn (w : World) : Prop where
  publisher : w.publisher = none
  tasks : w.tasks = []
  planned : ∀ planned ∈ w.outside, ∀ amount, planned.2 ≠ .addCredits amount

theorem Move.undrawn (move : Move w motion w') (undrawn : w.Undrawn) :
    w'.Undrawn ∧
      ((∃ index, motion = .part (.worker index)) ∨ w'.shared.credits = w.shared.credits) := by
  obtain ⟨publisher, tasks, planned⟩ := undrawn
  cases move with
  | worker => exact ⟨⟨publisher, tasks, planned⟩, .inl ⟨_, rfl⟩⟩
  | session _ moved =>
      obtain ⟨_, _, _, _, _, _, rfl⟩ := (Session.move_of_step moved).reach
      exact ⟨⟨publisher, tasks, planned⟩, .inr rfl⟩
  | publisher running =>
      rw [publisher] at running
      cases running
  | task running =>
      rw [tasks] at running
      cases running
  | pump _ moved =>
      obtain ⟨_, _, _, _, rfl⟩ := (Pump.move_of_step moved).reach
      exact ⟨⟨publisher, tasks, planned⟩, .inr rfl⟩
  | outside plan due =>
      rename_i event _
      rw [plan, List.forall_mem_cons] at planned
      refine ⟨⟨publisher, tasks, planned.2⟩, .inr ?_⟩
      cases event with
      | cancel | shutdown => rfl
      | addCredits amount => exact (planned.1 amount rfl).elim
  | signal | writer | clock => exact ⟨⟨publisher, tasks, planned⟩, .inr rfl⟩

theorem undrawn_of_history (undrawn : start.Undrawn)
    (history : History advance start past w) : w.Undrawn := by
  induction history with
  | start => exact undrawn
  | next _ moved induction => exact ((move_of_advance moved).undrawn induction).1

/-- A pool that only the workers have to do with grows with each message and not otherwise. -/
theorem pool_of_history (staffs : Staffs config around gates frames start)
    (undrawn : start.Undrawn) (history : History advance start past w) :
    w.shared.credits =
      if config.flowControl.enabled then
        Nat.repeat (·.add config.flowControl.creditIncrement) (past.countP earns)
          start.shared.credits
      else start.shared.credits := by
  induction history with
  | start => simp [Nat.repeat]
  | @next past w w' motion history moved pool =>
      have move := move_of_advance moved
      have settings := (delivers_of_history staffs history).settings
      have touches := (move.undrawn (undrawn_of_history undrawn history)).2
      rw [List.countP_append, List.countP_singleton]
      by_cases works : ∃ index, motion = .part (.worker index)
      · obtain ⟨index, rfl⟩ := works
        rw [credits_of_worker settings move, pool]
        cases config.flowControl.enabled <;> cases earns ⟨w, .part (.worker index), w'⟩ <;>
          simp [Nat.repeat]
      · have unbrought := (idle_of_apart w w' (not_exists.mp works)).2.2.1
        rw [touches.resolve_left works, pool, earns, unbrought]
        rfl

private theorem unheld_of_stopped (stopped : w.workersStopped = true) (recording : Bool)
    (index : Nat) :
    (w.workers[index]?.bind Worker.pending?) = none ∧
      w.workers[index]?.toList.flatMap (·.ahead recording) = [] := by
  cases present : w.workers[index]? with
  | none => exact ⟨rfl, rfl⟩
  | some worker =>
      have stage : worker.stage = .stopped := Worker.stage_of_isStopped
        (List.all_eq_true.mp stopped worker (List.mem_of_getElem? present))
      simp [Worker.pending?, Worker.ahead, stage]

private theorem filter_of_fst {α : Type} {events : List (Nat × α)} {index : Nat}
    (only : ∀ event ∈ events, event.1 = index) : events.filter (·.1 = index) = events :=
  List.filter_eq_self.mpr fun event member => decide_eq_true (only event member)

private theorem fst_of_filter {α : Type} {events : List (Nat × α)}
    (places : ∀ index, 1 ≤ index → events.filter (·.1 = index) = []) :
    ∀ event ∈ events, event.1 = 0 := by
  intro event member
  refine Decidable.byContradiction fun other => ?_
  have absent := places event.1 (Nat.pos_of_ne_zero other)
  have present : event ∈ events.filter (·.1 = event.1) := List.mem_filter.mpr ⟨member, by simp⟩
  rw [absent] at present
  cases present

private theorem map_byWorker {events : List (Nat × Wire.Response)} {index : Nat}
    (only : ∀ event ∈ events, event.1 = index) :
    (byWorker index events).map (index, ·) = events := by
  rw [byWorker, filter_of_fst only, List.map_map]
  refine (List.map_congr_left fun event member => ?_).trans (List.map_id _)
  exact congrArg (·, event.2) (only event member).symm

theorem countP_rounds (count : Nat) :
    (List.range' 1 count).countP (· % Worker.progressEvery = 0) = count / 100 := by
  induction count with
  | zero => rfl
  | succ count induction =>
      rw [List.range'_1_concat, List.countP_append, induction, List.countP_singleton,
        Worker.progressEvery]
      by_cases round : (1 + count) % 100 = 0
      · simp only [round, decide_true, if_true]
        omega
      · simp only [round, decide_false, Bool.false_eq_true, if_false]
        omega

/-- What the workers of a client have done when all of them have stopped. -/
structure Joined (config : Config) (gates : List Gate) (frames : List Wire.Response)
    (start : World) (past : List (Transition World Motion)) (w : World) : Prop where
  arrived : frames ++ stored past = (taken past).map (·.2) ++ w.shared.buffer.queue
  handled : (taken past).Perm (told past)
  brought : (brought past).Perm (numbered 1 (told past))
  seqs : ((World.brought past).filterMap (·.2.seq?)).Perm
    (List.range' 1 w.shared.stats.received)
  single : config.consumer.workers = 1 → World.brought past = numbered 1 (taken past)
  passed : ∀ index, atGates index past =
    ((World.brought past).filter (·.1 = index)).flatMap fun event =>
      passage start.shared.ledger.isSome gates event.2
  /-- On the console, in the log, in the ledger and with the keepers is what was done, in order. -/
  left : ∀ place, w.shared.deeds place =
    start.shared.deeds place ++ Deed.leftAt place (past.flatMap leaves)
  aside : ∀ made ∈ past, (∀ index, made.label ≠ .part (.worker index)) →
    ∀ deed ∈ leaves made, ∃ line, deed = .record line
  rested : ∀ made ∈ past, ∀ index worker deadline visit deeds,
    made.label = .part (.worker index) → made.before.workers[index]? = some worker →
      worker.stage = .resting deadline visit deeds → deadline ≤ made.before.shared.now
  progress : Log.progress w.shared.log = w.shared.stats.received / 100
  earned : past.countP earns = w.shared.stats.received
  paid : ∀ made ∈ past, ∀ index, made.label = .part (.worker index) →
    made.after.shared.credits =
      if config.flowControl.enabled ∧ earns made then
        made.before.shared.credits.add config.flowControl.creditIncrement
      else made.before.shared.credits
  pool : start.Undrawn →
    w.shared.credits =
      if config.flowControl.enabled then
        Nat.repeat (·.add config.flowControl.creditIncrement) w.shared.stats.received
          start.shared.credits
      else start.shared.credits

/-- However many workers there are and however they take turns, each message gets a number of its
own, is paid for once and is brought to the gates once, and so is each trace. Every gate that accepts
it is started once, after the gate before it has finished, and does its work once. What cannot be read
reaches no gate. -/
theorem messages_delivered_once (staffs : Staffs config around gates frames start)
    (history : History advance start past w) (stopped : w.workersStopped = true) :
    Joined config gates frames start past w := by
  obtain ⟨_, _, _, crew, handled, places, received, brings, passes, left, progress⟩ :=
    delivers_of_history staffs history
  have pool (undrawn : start.Undrawn) := pool_of_history staffs undrawn history
  have settled := handled.settled stopped
  have stages := unheld_of_stopped stopped start.shared.ledger.isSome
  simp only [(stages _).1, (stages _).2, Option.map_none, Option.toList_none,
    List.append_nil] at brings passes
  have perm : (brought past).Perm (numbered 1 (told past)) :=
    perm_of_filter fun index => (brings index).symm
  have seqs := perm.filterMap (·.2.seq?)
  rw [seqs_numbered, ← received] at seqs
  have handed := perm_of_byWorker settled.2.2
  have earned : past.countP earns = w.shared.stats.received := by
    rw [countP_earns, seqs.length_eq, List.length_range']
  rw [earned] at pool
  refine ⟨handled.order, handed, perm, seqs, ?_, passes, left, ?_, ?_, ?_, earned, ?_, pool⟩
  · intro alone
    rw [crew, alone] at places
    have takenOnly := fst_of_filter fun index outside => (places index outside).1
    have broughtOnly := fst_of_filter fun index outside => (places index outside).2
    have toldOnly : ∀ event ∈ told past, event.1 = 0 := fun event member =>
      takenOnly event (handed.mem_iff.mpr member)
    have numberedOnly : ∀ event ∈ numbered 1 (told past), event.1 = 0 := fun event member =>
      broughtOnly event (perm.mem_iff.mpr member)
    have same := brings 0
    rw [filter_of_fst broughtOnly, filter_of_fst numberedOnly] at same
    rw [← same, ← map_byWorker toldOnly, ← settled.2.2 0, map_byWorker takenOnly]
  · rintro ⟨before, motion, after⟩ member apart
    exact records_of_apart (move_of_advance (history.moved_of_mem member)) apart
  · rintro ⟨before, motion, after⟩ member index worker deadline visit deeds rfl present stage
    exact due_of_resting (move_of_advance (history.moved_of_mem member)) present stage
  · have rounds := seqs.countP_eq (· % Worker.progressEvery = 0)
    rw [countP_rounds, List.countP_filterMap] at rounds
    rw [progress, ← rounds]
    congr 1
    funext event
    cases event.2.seq? <;> rfl
  · rintro ⟨before, motion, after⟩ member index rfl
    obtain ⟨earlier, later, rfl⟩ := List.append_of_mem member
    have settings := (delivers_of_history staffs history.before_of_append).settings
    exact credits_of_worker settings (move_of_advance (history.moved_of_mem member))

private def twofold : Config :=
  { topic := "news"
    consumer := { workers := 2 }
    flowControl := { enabled := true, initialCredits := 0, creditIncrement := 3 } }

private def quiet : Surroundings := .alone .accepting (.ofScript [] false)

private def shelf : List Gate := [.console, .keeper "shelf" true false 5]

private def mixed : List Wire.Response :=
  [Feed.echoOf "news" [1], Feed.echoOf "news" [2], ⟨9, []⟩]

/-- The second worker numbers its message first and comes to the gates last. -/
private def twofoldMotions : List Motion :=
  times
    [(2, .part (.worker 0)), (3, .part (.worker 1)), (7, .part (.worker 0)), (1, .clock 5),
      (4, .part (.worker 0)), (6, .part (.worker 1)), (1, .clock 10), (8, .part (.worker 1)),
      (1, .part (.worker 0))]

theorem messages_delivered_once_where_twofold :
    ∃ past w, Staffs twofold quiet shelf mixed (ofWorkers twofold quiet shelf mixed false false) ∧
      History advance (ofWorkers twofold quiet shelf mixed false false) past w ∧
      w.workersStopped = true ∧ w.shared.stats.received = 2 ∧
      ((brought past).filterMap (·.2.seq?)).Perm [1, 2] ∧
      Deed.leftAt .console (past.flatMap leaves) = [.print 2 [1], .print 1 [2]] ∧
      w.shared.credits = ⟨6, none⟩ := by
  have course : (replay advance (ofWorkers twofold quiet shelf mixed false false)
      twofoldMotions).map (fun (_, w) =>
        (w.workersStopped, w.shared.stats.received, w.shared.deeds .console)) =
      some (true, 2, [.print 2 [1], .print 1 [2]]) := by
    decide +kernel
  obtain ⟨⟨past, w⟩, replayed, course⟩ := Option.map_eq_some_iff.mp course
  simp only [Prod.mk.injEq] at course
  obtain ⟨stopped, received, printed⟩ := course
  have staffs : Staffs twofold quiet shelf mixed _ := .pool mixed false false
  have history := History.ofReplay replayed
  have joined := messages_delivered_once staffs history stopped
  have seqs := joined.seqs
  have pool := joined.pool ⟨rfl, rfl, nofun⟩
  have left := joined.left .console
  rw [received] at seqs pool
  exact ⟨past, w, staffs, history, stopped, received, seqs, left.symm.trans printed, pool⟩

end World

end Courier
