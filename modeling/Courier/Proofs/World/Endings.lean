import Courier.Proofs.Publishing.Untroubled
import Courier.Proofs.World.Control
import Courier.Proofs.World.Publishing
import Courier.Proofs.World.Reasons
import Courier.Proofs.World.Receiving

/-! What a session reports of its end, against what happened. -/

namespace Courier.World

def refusal? (made : Transition World Motion) : Option StreamError :=
  match made.label with
  | .part .session => made.before.session.bind (Session.refusal? made.before.shared.now)
  | _ => none

/-- The pump ends, and nobody has told it to. -/
def EndsItself (exit : Pump.Exit) (made : Transition World Motion) : Prop :=
  made.before.shared.cancelled = false ∧ made.before.pumpExit? = none ∧
    made.after.pumpExit? = some exit

structure Witnessed (around : Surroundings) (past : List (Transition World Motion)) (w : World) :
    Prop where
  undisturbed : w.shared.cancelled = false → Undisturbed around past
  disturbed : ∀ session, w.session = some session → session.isDriving = true →
    w.shared.cancelled = true → Disturbed around past
  lost : w.pumpExit? = some .cancelled → w.shared.cancelled = true
  ended : ∀ exit, w.pumpExit? = some exit → exit.isOfStream = true →
    HappenedFirst around (EndsItself exit) past

variable {config : Config} {around : Surroundings} {records : Bool} {gates : List Gate}
  {past : List (Transition World Motion)} {w w' : World} {motion : Motion}

theorem witnessed_start (config : Config) (around : Surroundings) (records : Bool)
    (gates : List Gate) :
    Witnessed around [] (ofSession config around records gates) := by
  rw [ofSession_eq]
  exact ⟨fun active => ⟨active, List.forall_mem_nil _⟩, fun _ _ _ cancelled => .inl cancelled,
    nofun, nofun⟩

private theorem Move.disturbed (move : Move w motion w') (witnessed : Witnessed around past w)
    {session' : Session} (running : w'.session = some session')
    (driving : session'.isDriving = true) (cancelled : w'.shared.cancelled = true) :
    Disturbed around (past ++ [⟨w, motion, w'⟩]) := by
  by_cases own : motion = .part .session
  · subst own
    cases move with
    | session running' moved =>
        cases running
        have driven := (Session.move_of_step moved).driving driving
        rw [driven.2] at cancelled
        exact (witnessed.disturbed _ running' driven.1 cancelled).append _
  · have same := move.session_cases.resolve_left own
    rw [same] at running
    cases before : w.shared.cancelled with
    | true => exact (witnessed.disturbed _ running driving before).append _
    | false =>
        have cancels := move.cancels_of_cancelled own before cancelled
        exact .inr ⟨_, List.mem_append_right _ (List.mem_singleton_self _), cancels, before,
          session', running, driving⟩

theorem Move.witnessed (move : Move w motion w') (witnessed : Witnessed around past w) :
    Witnessed around (past ++ [⟨w, motion, w'⟩]) w' := by
  refine ⟨?_, fun session running driving => move.disturbed witnessed running driving, ?_, ?_⟩
  · intro active
    refine undisturbed_append.mpr ⟨witnessed.undisturbed (move.active_before active), ?_⟩
    rw [← Bool.not_eq_true]
    intro cancels
    cases active.symm.trans (move.cancelled_of_cancels cancels)
  · intro told
    rcases move.pump_cases with same | ⟨pump, pump', shared, _, after, orders, moved⟩
    · rw [pumpExit?, same] at told
      exact move.cancelled (witnessed.lost told)
    · rw [pumpExit?, after, Option.bind_some] at told
      exact orders.trans (moved.cancelled_of_exit told)
  · intro exit ended ofStream
    refine happenedFirst_append.mpr ?_
    rcases move.pump_cases with same | ⟨pump, pump', shared, before, after, _, moved⟩
    · rw [pumpExit?, same] at ended
      exact .inl (witnessed.ended exit ended ofStream)
    · have running : w.pumpExit? = none := by
        rw [pumpExit?, before, Option.bind_some, moved.running]
      have ended' := ended
      rw [pumpExit?, after, Option.bind_some] at ended'
      have active := moved.active_of_exit ended' ofStream
      exact .inr ⟨⟨active, running, ended⟩, witnessed.undisturbed active⟩

theorem witnessed_of_history
    (history : History advance (ofSession config around records gates) past w) :
    Witnessed around past w := by
  induction history with
  | start => exact witnessed_start config around records gates
  | next _ moved induction => exact (move_of_advance moved).witnessed induction

theorem Move.untroubled {count base : Nat} (move : Move w motion w')
    (accounted : w.Accounted count base)
    (untroubled : w.shared.cancelled = false →
      ∃ publisher, w.publisher = some publisher ∧ publisher.Untroubled w.publication w.tasks)
    (active' : w'.shared.cancelled = false) :
    ∃ publisher, w'.publisher = some publisher ∧ publisher.Untroubled w'.publication w'.tasks := by
  have active := move.active_before active'
  obtain ⟨publisher, running, untroubled⟩ := untroubled active
  obtain ⟨publisher', running', books⟩ := accounted.publisher
  cases running.symm.trans running'
  cases move with
  | publisher running' moved =>
      cases running.symm.trans running'
      exact ⟨_, rfl, (Publisher.move_of_step moved).untroubled active books untroubled⟩
  | task sending moved =>
      exact ⟨publisher, running, untroubled.advance active sending (SendTask.move_of_step moved)⟩
  | session | worker | pump | outside | signal | writer | clock =>
      exact ⟨publisher, running, untroubled⟩

theorem untroubled_of_history {start : World} (publishes : start.Publishes config around)
    (history : History advance start past w) (active : w.shared.cancelled = false) :
    ∃ publisher, w.publisher = some publisher ∧ publisher.Untroubled w.publication w.tasks := by
  induction history with
  | start =>
      obtain ⟨_, tasks, publisher⟩ := publishes.parts
      rw [tasks]
      exact ⟨_, publisher, Publisher.untroubled_start ..⟩
  | next history moved induction =>
      have accounted := accounted_of_history publishes history
      exact (move_of_advance moved).untroubled accounted induction active

/-- Every message of a publisher was sent or dropped. -/
structure Complete (config : Config) (report : PublishReport) : Prop where
  publishes : config.mode = .publish
  uncancelled : report.cancelled = 0
  total : report.sent + report.dropped = config.publishing.count

theorem complete_of_history (mode : config.mode = .publish)
    (history : History advance (ofSession config around records gates) past w)
    (active : w.shared.cancelled = false) {report : PublishReport}
    (reported : w.publishReport? = some report) :
    Complete config report := by
  have publishes : Publishes config around (ofSession config around records gates) :=
    .inSession mode records gates
  obtain ⟨publisher, running, untroubled⟩ := untroubled_of_history publishes history active
  have accounted := accounted_of_history publishes history
  have total := (accounted.settled reported).1.total
  rw [publishReport?, running, Option.bind_some] at reported
  simp only [Publisher.Untroubled, Publisher.stage_of_report? reported] at untroubled
  rw [untroubled] at total
  exact ⟨mode, untroubled, total⟩

/-- What a session says of its end is what happened. -/
structure Sincere (config : Config) (around : Surroundings)
    (past : List (Transition World Motion)) (session : Session) : Prop where
  failed : ∀ error, session.failure? = some error ↔
    HappenedFirst around (refusal? · = some error) past
  subscriber : ∀ error, session.failure? = some error → config.mode = .subscribe
  candid : session.Candid (Disturbed around past) (Complete config)

theorem Sincere.elsewhere {session : Session} (sincere : Sincere config around past session)
    {made : Transition World Motion} (other : refusal? made = none) :
    Sincere config around (past ++ [made]) session where
  failed := by
    intro error
    rw [happenedFirst_append, other, sincere.failed]
    simp
  subscriber := sincere.subscriber
  candid := sincere.candid.later fun disturbed => disturbed.append made

theorem Sincere.drive {session session' : Session} {shared : Shared}
    (sincere : Sincere config around past session) (running : w.session = some session)
    (move : Session.Move w.view w.shared session shared session')
    (witnessed : Witnessed around past w) (governed : w.Governed config.mode)
    (complete : config.mode = .publish → w.shared.cancelled = false →
      ∀ report, w.publishReport? = some report → Complete config report) :
    Sincere config around
      (past ++ [⟨w, .part .session, { w with shared, session := some session' }⟩]) session' := by
  refine ⟨?_, ?_, ?_⟩
  · intro error
    rw [happenedFirst_append, ← sincere.failed]
    simp only [refusal?, running, Option.bind_some]
    rcases move.failure_cases with ⟨active, unfailed, failed⟩ | ⟨otherwise, failed⟩
    · rw [unfailed, failed]
      simp [witnessed.undisturbed active]
    · rw [failed]
      rcases otherwise with ⟨driving, cancelled⟩ | unrefused
      · have disturbed := witnessed.disturbed _ running driving cancelled
        simp [disturbed.not_undisturbed]
      · simp [unrefused]
  · intro error failed'
    rcases move.failure_cases with ⟨_, _, failed⟩ | ⟨_, failed⟩
    · rw [failed] at failed'
      have orderly := governed.orderly _ running
      cases session with
      | subscribing => exact orderly
      | starting | listening | watching | waiting | unsubscribing | publishing | halting | lingering
      | closing | draining | joining | ended => cases failed'
    · exact sincere.subscriber error (failed ▸ failed')
  · have candid := move.candid (fun driving => witnessed.disturbed _ running driving)
      witnessed.lost ?_ sincere.candid
    · exact candid.later fun disturbed => disturbed.append _
    · rintro rfl active report published
      exact complete (governed.orderly _ running) active report published

theorem sincere_of_history
    (history : History advance (ofSession config around records gates) past w) :
    ∃ session, w.session = some session ∧ Sincere config around past session := by
  induction history with
  | start =>
      have unrefused (error : StreamError) :
          ¬HappenedFirst around (refusal? · = some error) [] := by
        rintro ⟨earlier, made, later, same, _⟩
        simp at same
      rw [ofSession_eq]
      exact ⟨_, rfl, fun error => by simp [Session.failure?, unrefused], nofun, trivial⟩
  | next history moved induction =>
      obtain ⟨session, running, sincere⟩ := induction
      have move := move_of_advance moved
      have witnessed := witnessed_of_history history
      have governed := governed_of_history history
      cases move with
      | session running' moved =>
          cases running.symm.trans running'
          refine ⟨_, rfl, sincere.drive running (Session.move_of_step moved) witnessed governed ?_⟩
          exact fun mode active report => complete_of_history mode history active
      | publisher | task | worker | pump | outside | signal | writer | clock =>
          exact ⟨session, running, sincere.elsewhere rfl⟩

structure Truthful (config : Config) (around : Surroundings)
    (past : List (Transition World Motion)) (result : Except StreamError Session.Report) :
    Prop where
  failed : ∀ error, result = .error error ↔
    config.mode = .subscribe ∧ HappenedFirst around (refusal? · = some error) past
  streamEnded : ∀ report exit, result = .ok report → report.exit = .streamEnded exit →
    exit ≠ .cancelled ∧ exit ≠ .bufferClosed ∧ HappenedFirst around (EndsItself exit) past
  interrupted : ∀ report, result = .ok report → report.exit = .interrupted →
    Disturbed around past
  published : ∀ report, result = .ok report → report.exit = .published →
    config.mode = .publish ∧ ∃ publish, report.publish = some publish ∧
      publish.cancelled = 0 ∧ publish.sent + publish.dropped = config.publishing.count
  error : ∀ report error, result = .ok report →
    (report.error? = some error ↔ report.exit = .streamEnded (.failed error))

/-- Whenever a session is cancelled from outside and in whatever order its parts move, its result
tells how it ended. -/
theorem session_reports_truthfully (config : Config) (valid : config.error? = none)
    (around : Surroundings) (cancellations : List Nat) (records : Bool) (gates : List Gate)
    (history : History advance
      (ofSession config { around with outside := cancellations.map (·, .cancel) } records gates)
      past w)
    {result : Except StreamError Session.Report} (ended : w.sessionResult? = some result) :
    Truthful config { around with outside := cancellations.map (·, .cancel) } past result := by
  have unplanned := unplanned_of_cancellations cancellations
  obtain ⟨session, running, sincere⟩ := sincere_of_history history
  cases running.symm.trans (session_of_sessionResult? ended)
  obtain ⟨_, pump, receives⟩ := receives_of_history valid unplanned history
  cases receives.driving.symm.trans running
  have witnessed := witnessed_of_history history
  refine ⟨?_, ?_, ?_, ?_, ?_⟩
  · intro error
    rw [← sincere.failed]
    constructor
    · rintro rfl
      exact ⟨sincere.subscriber error rfl, rfl⟩
    · rintro ⟨_, failed⟩
      cases result with
      | ok report => cases failed
      | error error' =>
          cases failed
          rfl
  · rintro report exit rfl reached
    have final : report.Final w.shared.intake pump.exit? w.workers := receives.faithful
    obtain ⟨exited, ofStream, _⟩ := final.drained exit reached
    have pumpExit : w.pumpExit? = some exit := by
      rw [pumpExit?, receives.pumping, Option.bind_some, exited]
    refine ⟨?_, ?_, witnessed.ended exit pumpExit ofStream⟩ <;> rintro rfl <;> cases ofStream
  · rintro report rfl reached
    have candid : report.exit.Candid _ (Complete config) report.publish := sincere.candid
    rw [reached] at candid
    exact candid
  · rintro report rfl reached
    have candid : report.exit.Candid _ (Complete config) report.publish := sincere.candid
    rw [reached] at candid
    obtain ⟨publish, reported, complete⟩ := candid
    exact ⟨complete.publishes, publish, reported, complete.uncancelled, complete.total⟩
  · rintro report error rfl
    unfold Session.Report.error?
    cases report.exit with
    | interrupted | published => simp
    | streamEnded exit => cases exit <;> simp

private def twice : Config :=
  { topic := "news", mode := .publish, consumer := { workers := 1 }
    publishing := { message := "hello", count := 2 } }

/-- The stream ends and the client is cancelled, both after all was published. -/
private def overtaken : Surroundings :=
  .alone .accepting (.ofScript [(100, .ended)] false)

private def overtakenMotions : List Motion :=
  times
    [(1, .part .session), (16, .part .publisher), (9, .part (.task 0)), (9, .part (.task 1)),
      (1, .part .publisher), (1, .part .session), (1, .clock 100), (1, .part .pump),
      (1, .part .outside), (2, .part .session), (1, .part (.worker 0)), (1, .part .session)]

theorem session_reports_truthfully_where_overtaken :
    ∃ past w report, twice.error? = none ∧
      History advance
        (ofSession twice { overtaken with outside := [100].map (·, .cancel) } false []) past w ∧
      w.sessionResult? = some (.ok report) ∧ report.exit = .published ∧
        w.pumpExit? = some .endOfStream ∧ w.shared.now = 100 ∧
          ∃ publish, report.publish = some publish ∧ publish.cancelled = 0 ∧
            publish.sent + publish.dropped = 2 := by
  have valid : twice.error? = none := by decide
  have course :
      (replay advance
        (ofSession twice { overtaken with outside := [100].map (·, .cancel) } false [])
        overtakenMotions).map (fun (_, w) =>
          ((w.sessionResult?.bind Except.toOption).map (·.exit), w.pumpExit?, w.shared.now)) =
      some (some .published, some .endOfStream, 100) := by
    decide
  obtain ⟨⟨past, w⟩, replayed, course⟩ := Option.map_eq_some_iff.mp course
  simp only [Prod.mk.injEq, Option.map_eq_some_iff, Option.bind_eq_some_iff] at course
  obtain ⟨⟨report, ⟨result, ended, succeeded⟩, exit⟩, lost, now⟩ := course
  have history := History.ofReplay replayed
  cases result with
  | error error => cases succeeded
  | ok report' =>
      cases succeeded
      have truthful := session_reports_truthfully twice valid overtaken [100] false [] history ended
      exact ⟨past, w, report, valid, history, ended, exit, lost, now,
        (truthful.published report rfl exit).2⟩

end Courier.World
