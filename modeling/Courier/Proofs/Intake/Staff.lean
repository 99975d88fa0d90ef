import Courier.Proofs.Intake.Turns
import Courier.Proofs.Places

/-! Who is at work. The buffer counts the workers that have not stopped and knows whether the pump
still runs; as long as nobody tells the workers to stop, they leave no frame behind. -/

namespace Courier

namespace Buffer

variable {buffer buffer' : Buffer} {frame : Wire.Response}

theorem eq_of_put_stored (put : buffer.put frame = .stored buffer') :
    ∃ parked, buffer' = { buffer with queue := buffer.queue ++ [frame], parked } := by
  unfold Buffer.put at put
  split at put
  · cases put
  · split at put
    · cases put
      exact ⟨_, rfl⟩
    · split at put
      · cases put
        exact ⟨_, rfl⟩
      · cases put

theorem receivers_of_put_closed (put : buffer.put frame = .closed) : buffer.receivers = 0 := by
  unfold Buffer.put at put
  split at put
  case isTrue alone => exact alone
  case isFalse =>
      split at put
      · cases put
      · split at put <;> cases put

end Buffer

def active (workers : List Worker) : Nat := workers.countP Worker.isActive

theorem active_eq_zero {workers : List Worker} (stopped : workers.all Worker.isStopped = true) :
    active workers = 0 := by
  rw [active, List.countP_eq_zero]
  intro worker member
  simp [Worker.isActive, List.all_eq_true.mp stopped worker member]

theorem active_set {workers : List Worker} {index : Nat} {worker worker' : Worker}
    (running : workers[index]? = some worker) (same : worker'.isActive = worker.isActive) :
    active (workers.set index worker') = active workers := by
  have counted := countP_set_add Worker.isActive running worker'
  rw [same] at counted
  exact Nat.add_right_cancel counted

structure Staffed (intake : Intake) (pump : Pump) (workers : List Worker) : Prop where
  receivers : intake.buffer.receivers = active workers
  fed : intake.buffer.fed = pump.exit?.isNone
  working : intake.shutdown = false →
    active workers = workers.length ∨ (intake.buffer.queue = [] ∧ intake.buffer.fed = false)
  refused : pump.exit? = some .bufferClosed → intake.shutdown = true

namespace Staffed

variable {intake intake' : Intake} {pump : Pump} {workers : List Worker}

theorem ofWorker {index : Nat} {worker worker' : Worker} (staffed : Staffed intake pump workers)
    (running : workers[index]? = some worker) (turn : Worker.Turn intake worker intake' worker') :
    Staffed intake' pump (workers.set index worker') := by
  cases turn with
  | take free filled fetched =>
      have same : active (workers.set index worker') = active workers := by
        apply active_set running
        rw [free.active, Worker.isActive, Worker.isStopped, fetched]
        rfl
      refine ⟨staffed.receivers.trans same.symm, staffed.fed, ?_, staffed.refused⟩
      intro told
      rw [same, List.length_set]
      rcases staffed.working told with all | ⟨empty, _⟩
      · exact .inl all
      · cases filled.symm.trans empty
  | park free free' | pass free free' =>
      have same := active_set running (free'.active.trans free.active.symm)
      refine ⟨staffed.receivers.trans same.symm, staffed.fed, ?_, staffed.refused⟩
      rw [same, List.length_set]
      exact staffed.working
  | stop free drained stopped =>
      have counted := countP_set_add Worker.isActive running worker'
      rw [free.active, Worker.isActive, Worker.isStopped, stopped] at counted
      refine ⟨?_, staffed.fed, fun told => .inr (drained told), staffed.refused⟩
      change intake.buffer.receivers - 1 = active _
      rw [staffed.receivers, active, active, ← Nat.add_sub_cancel (n := List.countP _ _) (m := 1)]
      exact congrArg (· - 1) counted.symm
  | count fetched counted =>
      have same : active (workers.set index worker') = active workers := by
        apply active_set running
        simp only [Worker.isActive, Worker.isStopped, fetched, counted]
      refine ⟨staffed.receivers.trans same.symm, staffed.fed, ?_, staffed.refused⟩
      rw [same, List.length_set]
      exact staffed.working
  | classify counted free' =>
      have same : active (workers.set index worker') = active workers := by
        apply active_set running
        rw [free'.active, Worker.isActive, Worker.isStopped, counted]
        rfl
      refine ⟨staffed.receivers.trans same.symm, staffed.fed, ?_, staffed.refused⟩
      rw [same, List.length_set]
      exact staffed.working

theorem stopAll (staffed : Staffed intake pump workers) :
    Staffed { intake with shutdown := true } pump workers where
  receivers := staffed.receivers
  fed := staffed.fed
  working := nofun
  refused := fun _ => rfl

theorem active_of_running (staffed : Staffed intake pump workers) (running : pump.exit? = none)
    (untold : intake.shutdown = false) :
    active workers = workers.length := by
  rcases staffed.working untold with all | ⟨_, unfed⟩
  · exact all
  · rw [staffed.fed, running] at unfed
    cases unfed

theorem ended (staffed : Staffed intake pump workers) (exit : Pump.Exit)
    (lawful : exit ≠ .bufferClosed ∨ intake.shutdown = true) :
    Staffed { intake with buffer := intake.buffer.finish } (.ended exit) workers where
  receivers := staffed.receivers
  fed := rfl
  working := by
    intro untold
    rcases staffed.working untold with all | ⟨empty, _⟩
    · exact .inl all
    · exact .inr ⟨empty, rfl⟩
  refused := by
    intro same
    rcases lawful with other | told
    · exact (other (Option.some.inj same)).elim
    · exact told

theorem ofPump {s s' : Shared} {pump pump' : Pump} (staffed : Staffed s.intake pump workers)
    (manned : workers ≠ []) (move : Pump.Move s pump s' pump') :
    Staffed s'.intake pump' workers := by
  cases move with
  | cancel => exact staffed.ended .cancelled (.inl nofun)
  | close => exact staffed.ended .endOfStream (.inl nofun)
  | fail active arrived failed ofStream =>
      refine staffed.ended _ (.inl ?_)
      rintro rfl
      cases ofStream
  | refuse put =>
      have alone := Buffer.receivers_of_put_closed put
      refine staffed.ended .bufferClosed (.inr ?_)
      cases told : s.intake.shutdown with
      | true => rfl
      | false =>
          have all := staffed.active_of_running rfl told
          have receivers := staffed.receivers
          have none := List.length_eq_zero_iff.mp (all.symm.trans (receivers.symm.trans alone))
          exact (manned none).elim
  | store put =>
      obtain ⟨parked, same⟩ := Buffer.eq_of_put_stored put
      cases same
      exact ⟨staffed.receivers, staffed.fed,
        fun untold => .inl (staffed.active_of_running rfl untold), nofun⟩
  | receive | overflow | count =>
      exact ⟨staffed.receivers, staffed.fed, staffed.working, nofun⟩

end Staffed

end Courier
