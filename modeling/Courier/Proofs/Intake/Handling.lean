import Courier.Proofs.Intake.Pumping

/-! Which worker took which frame, and what it told of it. The frames are taken in the order in
which they were put into the buffer, and each worker tells of those that it took, one after the
other. -/

namespace Courier

def byWorker (index : Nat) (events : List (Nat × Wire.Response)) : List Wire.Response :=
  (events.filter (·.1 = index)).map (·.2)

@[simp] theorem byWorker_append (index : Nat) (events later : List (Nat × Wire.Response)) :
    byWorker index (events ++ later) = byWorker index events ++ byWorker index later := by
  simp [byWorker]

theorem byWorker_self (index : Nat) (frame? : Option Wire.Response) :
    byWorker index (frame?.map (index, ·)).toList = frame?.toList := by
  cases frame? <;> simp [byWorker]

theorem byWorker_other {index other : Nat} (differs : index ≠ other)
    (frame? : Option Wire.Response) :
    byWorker other (frame?.map (index, ·)).toList = [] := by
  cases frame? <;> simp [byWorker, differs]

theorem count_byWorker (index : Nat) (frame : Wire.Response)
    (events : List (Nat × Wire.Response)) :
    (byWorker index events).count frame = events.count (index, frame) := by
  induction events with
  | nil => rfl
  | cons event events induction =>
      obtain ⟨worker, other⟩ := event
      by_cases same : worker = index
      · subst same
        simp only [byWorker, decide_true, List.filter_cons_of_pos, List.map_cons,
          List.count_cons] at induction ⊢
        rw [induction]
        simp
      · simp only [byWorker, same, decide_false, Bool.false_eq_true, not_false_eq_true,
          List.filter_cons_of_neg, List.count_cons] at induction ⊢
        rw [induction]
        simp [same]

theorem perm_of_byWorker {events events' : List (Nat × Wire.Response)}
    (same : ∀ index, byWorker index events = byWorker index events') :
    events.Perm events' := by
  rw [List.perm_iff_count]
  intro ⟨index, frame⟩
  rw [← count_byWorker, ← count_byWorker, same]

namespace Worker

def inHand (worker : Worker) : List Wire.Response :=
  worker.counted?.toList ++ worker.fetched?.toList

/-- What a step of a worker is to the buffer and to the counters. -/
structure Exchange (intake : Intake) (worker : Worker) (intake' : Intake) (worker' : Worker) :
    Prop where
  queue : intake.buffer.queue = worker'.fetched?.toList ++ intake'.buffer.queue
  counted : worker'.counted? = worker.fetched?
  processed : intake'.tally.processed = intake.tally.processed + worker.fetched?.toList.length
  classified : intake'.tally.classified = intake.tally.classified + worker.counted?.toList.length
  frames : intake'.tally.frames = intake.tally.frames
  enqueued : intake'.tally.enqueued = intake.tally.enqueued
  bufferDropped : intake'.tally.bufferDropped = intake.tally.bufferDropped

variable {intake intake' : Intake} {worker worker' : Worker}

theorem Turn.exchange (turn : Turn intake worker intake' worker') :
    Exchange intake worker intake' worker' := by
  cases turn with
  | take free filled stage =>
      rename_i frame queue
      have fetched : worker'.fetched? = some frame := by rw [fetched?, stage]
      have counted : worker'.counted? = none := by rw [counted?, stage]
      constructor <;> simp [free.fetched, free.counted, fetched, counted, filled]
  | park free free' | pass free free' =>
      constructor <;> simp [free.fetched, free.counted, free'.fetched, free'.counted]
  | stop free drained stage =>
      have fetched : worker'.fetched? = none := by rw [fetched?, stage]
      have counted : worker'.counted? = none := by rw [counted?, stage]
      constructor <;> simp [free.fetched, free.counted, fetched, counted]
  | count stage stage' =>
      constructor <;> simp [fetched?, counted?, stage, stage']
  | classify stage free' =>
      rename_i frame
      have fetched : worker.fetched? = none := by rw [fetched?, stage]
      have counted : worker.counted? = some frame := by rw [counted?, stage]
      constructor <;> simp [fetched, counted, free'.fetched, free'.counted]

end Worker

namespace Pump.Move

variable {s s' : Shared} {pump pump' : Pump}

theorem queue (move : Pump.Move s pump s' pump') :
    s'.intake.buffer.queue = s.intake.buffer.queue ++ (pump.stored? pump').toList := by
  cases move with
  | store put =>
      obtain ⟨parked, same⟩ := Buffer.eq_of_put_stored put
      rw [same]
      rfl
  | cancel | receive | fail | close | overflow | refuse | count => exact (List.append_nil _).symm

theorem processed (move : Pump.Move s pump s' pump') :
    s'.intake.tally.processed = s.intake.tally.processed ∧
      s'.intake.tally.classified = s.intake.tally.classified := by
  cases move <;> exact ⟨rfl, rfl⟩

end Pump.Move

structure Handled (taken told : List (Nat × Wire.Response)) (stored : List Wire.Response)
    (intake : Intake) (workers : List Worker) : Prop where
  order : stored = taken.map (·.2) ++ intake.buffer.queue
  processed : taken.length =
    intake.tally.processed + workers.countP (·.fetched?.isSome)
  classified : intake.tally.processed =
    intake.tally.classified + workers.countP (·.counted?.isSome)
  inHand : ∀ index, byWorker index taken =
    byWorker index told ++ workers[index]?.toList.flatMap Worker.inHand

namespace Handled

variable {taken told : List (Nat × Wire.Response)} {stored : List Wire.Response}
  {intake intake' : Intake} {workers : List Worker}

private theorem nothing_inHand
    (empty : ∀ worker ∈ workers, worker.fetched? = none ∧ worker.counted? = none) :
    workers.countP (·.fetched?.isSome) = 0 ∧ workers.countP (·.counted?.isSome) = 0 ∧
      ∀ index : Nat, workers[index]?.toList.flatMap Worker.inHand = [] := by
  refine ⟨?_, ?_, ?_⟩
  · rw [List.countP_eq_zero]
    intro worker member
    simp [(empty worker member).1]
  · rw [List.countP_eq_zero]
    intro worker member
    simp [(empty worker member).2]
  · intro index
    cases present : workers[index]? with
    | none => rfl
    | some worker =>
        have nothing := empty worker (List.mem_of_getElem? present)
        simp [Worker.inHand, nothing.1, nothing.2]

theorem begin (tally : intake.tally = ⟨0, 0, 0, 0, 0⟩)
    (empty : ∀ worker ∈ workers, worker.fetched? = none ∧ worker.counted? = none) :
    Handled [] [] intake.buffer.queue intake workers := by
  obtain ⟨fetched, counted, inHand⟩ := nothing_inHand empty
  refine ⟨rfl, ?_, ?_, ?_⟩
  · rw [tally, fetched]
    rfl
  · rw [tally, counted]
  · intro index
    rw [inHand]
    rfl

theorem start (tally : intake.tally = ⟨0, 0, 0, 0, 0⟩) (queue : intake.buffer.queue = [])
    (empty : ∀ worker ∈ workers, worker.fetched? = none ∧ worker.counted? = none) :
    Handled [] [] [] intake workers := by
  have handled := begin tally empty
  rwa [queue] at handled

theorem keep (handled : Handled taken told stored intake workers)
    (queue : intake'.buffer.queue = intake.buffer.queue) (tally : intake'.tally = intake.tally) :
    Handled taken told stored intake' workers where
  order := queue ▸ handled.order
  processed := tally ▸ handled.processed
  classified := tally ▸ handled.classified
  inHand := handled.inHand

theorem step {index : Nat} {worker worker' : Worker}
    (handled : Handled taken told stored intake workers) (running : workers[index]? = some worker)
    (exchange : Worker.Exchange intake worker intake' worker') :
    Handled (taken ++ (worker'.fetched?.map (index, ·)).toList)
      (told ++ (worker.counted?.map (index, ·)).toList) stored intake'
      (workers.set index worker') := by
  have fetched := countP_set_add (fun worker : Worker => worker.fetched?.isSome) running worker'
  have counted := countP_set_add (fun worker : Worker => worker.counted?.isSome) running worker'
  have length (frame? : Option Wire.Response) : frame?.toList.length = frame?.isSome.toNat := by
    cases frame? <;> rfl
  refine ⟨?_, ?_, ?_, ?_⟩
  · rw [handled.order, exchange.queue, List.map_append, List.append_assoc]
    cases worker'.fetched? <;> rfl
  · have processed := handled.processed
    have processed' := exchange.processed
    rw [length] at processed'
    rw [List.length_append, Option.toList_map, List.length_map, length]
    omega
  · have classified := handled.classified
    have classified' := exchange.classified
    have processed' := exchange.processed
    rw [length] at classified' processed'
    rw [exchange.counted] at counted
    omega
  · intro other
    rw [byWorker_append, byWorker_append, handled.inHand]
    by_cases same : index = other
    · subst same
      rw [byWorker_self, byWorker_self, running, getElem?_set_of_getElem? running]
      simp only [Option.toList_some, List.flatMap_singleton, Worker.inHand, exchange.counted,
        List.append_assoc]
    · rw [byWorker_other same, byWorker_other same, List.getElem?_set_ne same, List.append_nil,
        List.append_nil]

theorem ofPump {s s' : Shared} {pump pump' : Pump}
    (handled : Handled taken told stored s.intake workers) (move : Pump.Move s pump s' pump') :
    Handled taken told (stored ++ (pump.stored? pump').toList) s'.intake workers where
  order := by
    rw [move.queue, handled.order, List.append_assoc]
  processed := move.processed.1 ▸ handled.processed
  classified := by
    rw [move.processed.1, move.processed.2]
    exact handled.classified
  inHand := handled.inHand

theorem settled (handled : Handled taken told stored intake workers)
    (stopped : workers.all Worker.isStopped = true) :
    taken.length = intake.tally.processed ∧
      intake.tally.processed = intake.tally.classified ∧
        ∀ index, byWorker index taken = byWorker index told := by
  have empty : ∀ worker ∈ workers, worker.fetched? = none ∧ worker.counted? = none := by
    intro worker member
    have stage : worker.stage = .stopped :=
      Worker.stage_of_isStopped (List.all_eq_true.mp stopped worker member)
    simp only [Worker.fetched?, Worker.counted?, stage, and_self]
  obtain ⟨fetched, counted, inHand⟩ := nothing_inHand empty
  refine ⟨?_, ?_, ?_⟩
  · rw [handled.processed, fetched, Nat.add_zero]
  · rw [handled.classified, counted, Nat.add_zero]
  · intro index
    rw [handled.inHand, inHand, List.append_nil]

end Handled

end Courier
