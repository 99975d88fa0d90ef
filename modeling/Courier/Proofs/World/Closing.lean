import Courier.Proofs.Intake.Staff

/-! How a session ends its parts. Until it tells the workers to stop, they go on; after the end of
the stream it tells them so only when they have stopped of themselves, and so have left nothing
behind. -/

namespace Courier

namespace Session

/-- What a session says of the end of the pump is so. -/
structure Driven.Knows (exit? : Option Pump.Exit) (driven : Driven) : Prop where
  seen : driven.pumpSeen = true → exit?.isSome = true
  ofStream : ∀ exit, driven.exit = .ok (.streamEnded exit) →
    exit? = some exit ∧ exit.isOfStream = true

/-- A report that nothing can change any more. -/
structure Report.Final (intake : Intake) (exit? : Option Pump.Exit) (workers : List Worker)
    (report : Report) : Prop where
  stopped : workers.all Worker.isStopped = true
  exited : exit?.isSome = true
  tally : report.stats.tally = intake.tally
  drained : ∀ exit, report.exit = .streamEnded exit →
    exit? = some exit ∧ exit.isOfStream = true ∧ intake.buffer.queue = []

def Faithful (intake : Intake) (exit? : Option Pump.Exit) (workers : List Worker) :
    Session → Prop
  | .halting exit => intake.shutdown = false ∧ exit? = some exit
  | .closing driven => intake.shutdown = false ∧ driven.Knows exit?
  | .draining driven => intake.shutdown = false ∧ driven.Knows exit? ∧ driven.streamEnded = true
  | .joining driven => driven.Knows exit? ∧ driven.streamEnded = false
  | .ended (.ok report) => report.Final intake exit? workers
  | .ended (.error _) => True
  | _ => intake.shutdown = false

variable {view : View} {s s' : Shared} {session session' : Session} {exit? : Option Pump.Exit}
  {workers : List Worker} {intake intake' : Intake}

private theorem knows_of_quiet {exit : Except StreamError Exit} {publish : Option PublishReport}
    (other : ∀ ended, exit ≠ .ok (.streamEnded ended)) :
    Driven.Knows exit? ⟨exit, publish, false⟩ where
  seen := nofun
  ofStream := fun ended same => (other ended same).elim

private theorem knows_of_stopped {exit : Pump.Exit} {publish : Option PublishReport}
    (stopped : exit? = some exit) (unrefused : exit ≠ .bufferClosed) :
    (Driven.pumpStopped exit publish).Knows exit? := by
  cases exit with
  | cancelled => exact ⟨fun _ => stopped ▸ rfl, nofun⟩
  | bufferClosed => exact (unrefused rfl).elim
  | endOfStream | pingLimit | failed =>
      refine ⟨fun _ => stopped ▸ rfl, ?_⟩
      intro exit same
      cases same
      exact ⟨stopped, rfl⟩

private theorem streamEnded_eq {driven : Driven} {exit : Exit} (reached : driven.exit = .ok exit) :
    driven.streamEnded = true ↔ ∃ ended, exit = .streamEnded ended := by
  cases exit <;> simp [Driven.streamEnded, reached]

private theorem finish_faithful {driven : Driven} (knows : driven.Knows exit?)
    (stopped : workers.all Worker.isStopped = true) (exited : exit?.isSome = true)
    (drained : driven.streamEnded = true → intake.buffer.queue = [])
    (tally : s.stats.tally = intake.tally) :
    (finish s driven).Faithful intake exit? workers := by
  unfold finish
  cases reached : driven.exit with
  | error error => trivial
  | ok exit =>
      refine ⟨stopped, exited, tally, ?_⟩
      intro ended same
      have known := knows.ofStream ended (reached.trans (congrArg Except.ok same))
      exact ⟨known.1, known.2, drained ((streamEnded_eq reached).mpr ⟨ended, same⟩)⟩

private theorem queue_eq_nil {pump : Pump} (staffed : Staffed intake pump workers)
    (manned : workers ≠ []) (untold : intake.shutdown = false)
    (stopped : workers.all Worker.isStopped = true) :
    intake.buffer.queue = [] := by
  rcases staffed.working untold with all | ⟨empty, _⟩
  · have none := all.symm.trans (active_eq_zero stopped)
    exact (manned (List.length_eq_zero_iff.mp none)).elim
  · exact empty

private theorem Driven.Knows.exited {driven : Driven} (knows : driven.Knows exit?)
    (streamEnded : driven.streamEnded = true) :
    exit?.isSome = true := by
  unfold Driven.streamEnded at streamEnded
  split at streamEnded
  case h_1 exit reached => rw [(knows.ofStream exit reached).1, Option.isSome_some]
  case h_2 => cases streamEnded

theorem Move.intake_cases (move : Move view s session s' session') :
    s'.intake = s.intake ∨ s'.intake = { s.intake with shutdown := true } := by
  cases move with
  | stop | drained => exact .inr rfl
  | publish | forgo | subscribe | withdraw | accept | refuse | unsubscribe | watch | lose | wait
  | rouse | part | tear | abandon | interrupt | linger | halt | settle | depart | drain | joined =>
      exact .inl rfl

theorem Move.faithful {pump : Pump} (move : Move view s session s' session')
    (pumpExit : view.pumpExit = pump.exit?)
    (workersStopped : view.workersStopped = workers.all Worker.isStopped)
    (staffed : Staffed s.intake pump workers) (manned : workers ≠ [])
    (faithful : session.Faithful s.intake pump.exit? workers) :
    session'.Faithful s'.intake pump.exit? workers := by
  have unrefused (exit : Pump.Exit) (untold : s.intake.shutdown = false)
      (ended : pump.exit? = some exit) : exit ≠ .bufferClosed := by
    rintro rfl
    cases untold.symm.trans (staffed.refused ended)
  cases move with
  | publish | subscribe | accept | unsubscribe | watch | wait | rouse | linger => exact faithful
  | forgo | withdraw | refuse | part | tear | abandon | interrupt | depart =>
      exact ⟨faithful, knows_of_quiet nofun⟩
  | lose lost =>
      have ended := pumpExit.symm.trans lost
      exact ⟨faithful, knows_of_stopped ended (unrefused _ faithful ended)⟩
  | halt unpublished lost => exact ⟨faithful, pumpExit.symm.trans lost⟩
  | settle published =>
      exact ⟨faithful.1, knows_of_stopped faithful.2 (unrefused _ faithful.1 faithful.2)⟩
  | drain streamEnded => exact ⟨faithful.1, faithful.2, streamEnded⟩
  | stop streamEnded => exact ⟨faithful.2, streamEnded⟩
  | drained stopped =>
      obtain ⟨untold, knows, streamEnded⟩ := faithful
      have stopped := workersStopped.symm.trans stopped
      have empty := queue_eq_nil staffed manned untold stopped
      exact finish_faithful knows stopped (knows.exited streamEnded) (fun _ => empty) rfl
  | joined stopped pumped =>
      obtain ⟨knows, streamEnded⟩ := faithful
      have stopped := workersStopped.symm.trans stopped
      have exited : pump.exit?.isSome = true := by
        rcases pumped with seen | ended
        · exact knows.seen seen
        · exact pumpExit ▸ ended
      refine finish_faithful knows stopped exited ?_ rfl
      intro ended
      cases streamEnded.symm.trans ended

theorem Faithful.ofWorker {index : Nat} {worker worker' : Worker}
    (faithful : session.Faithful intake exit? workers) (running : workers[index]? = some worker)
    (turn : Worker.Turn intake worker intake' worker') :
    session.Faithful intake' exit? (workers.set index worker') := by
  have told := turn.shutdown
  cases session with
  | ended result =>
      cases result with
      | error error => trivial
      | ok report =>
          have stopped := List.all_eq_true.mp faithful.stopped worker (List.mem_of_getElem? running)
          have active := turn.active
          rw [Worker.isActive, stopped] at active
          cases active
  | joining driven => exact faithful
  | starting | subscribing | listening | watching | waiting | unsubscribing | publishing
  | lingering =>
      exact told.trans faithful
  | halting | closing | draining => exact ⟨told.trans faithful.1, faithful.2⟩

private theorem Driven.Knows.later {driven : Driven} (knows : driven.Knows none)
    (exit? : Option Pump.Exit) :
    driven.Knows exit? where
  seen := fun seen => nomatch knows.seen seen
  ofStream := fun exit reached => nomatch (knows.ofStream exit reached).1

theorem Faithful.ofPump {pump pump' : Pump}
    (faithful : session.Faithful s.intake pump.exit? workers) (move : Pump.Move s pump s' pump') :
    session.Faithful s'.intake pump'.exit? workers := by
  have told := move.shutdown
  have running := move.running
  rw [running] at faithful
  cases session with
  | ended result =>
      cases result with
      | error error => trivial
      | ok report => cases faithful.exited
  | halting exit => cases faithful.2
  | joining driven => exact ⟨faithful.1.later _, faithful.2⟩
  | closing driven => exact ⟨told.trans faithful.1, faithful.2.later _⟩
  | draining driven => exact ⟨told.trans faithful.1, faithful.2.1.later _, faithful.2.2⟩
  | starting | subscribing | listening | watching | waiting | unsubscribing | publishing
  | lingering =>
      exact told.trans faithful

end Session

end Courier
