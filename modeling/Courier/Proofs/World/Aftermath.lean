import Courier.Proofs.Publishing.Seats
import Courier.Proofs.World.Control
import Courier.Proofs.World.Publishing

/-! What is left of a session that has ended. Its parts have ended before it, it has taken the result
of its pump once, all slots are free, and what it reported stays as it is. -/

namespace Courier

namespace Session

def awaits : Session → Session → Bool
  | .watching, .closing _ | .publishing, .halting _ => true
  | .joining driven, .ended _ => !driven.pumpSeen
  | _, _ => false

def hasAwaited : Session → Bool
  | .halting _ | .ended _ => true
  | .closing driven | .draining driven | .joining driven => driven.pumpSeen
  | _ => false

variable {view : View} {s s' : Shared} {session session' : Session} {mode : Mode}
  {published : Option PublishReport} {exit? : Option Pump.Exit} {workers : List Worker}
  {told : Prop}

private theorem pumpSeen_pumpStopped (exit : Pump.Exit) (publish : Option PublishReport) :
    (Driven.pumpStopped exit publish).pumpSeen = true := by
  cases exit <;> rfl

theorem Move.hasAwaited (move : Move view s session s' session')
    (orderly : session.Orderly mode published exit? workers told) :
    session'.hasAwaited = (session.hasAwaited || session.awaits session') ∧
      (session.awaits session' = true → session.hasAwaited = false) := by
  cases move with
  | publish | forgo | subscribe | withdraw | accept | refuse | unsubscribe | watch | wait | rouse
  | part | tear | abandon | interrupt | linger | depart => exact ⟨rfl, nofun⟩
  | lose => exact ⟨pumpSeen_pumpStopped .., fun _ => rfl⟩
  | halt => exact ⟨rfl, fun _ => rfl⟩
  | settle => exact ⟨pumpSeen_pumpStopped .., nofun⟩
  | drain | stop => exact ⟨(Bool.or_false _).symm, nofun⟩
  | drained =>
      have seen := orderly.1.awaited orderly.2
      exact ⟨by simp [Session.hasAwaited, finish, seen], nofun⟩
  | joined =>
      rename_i driven _ _
      cases seen : driven.pumpSeen <;> simp [Session.hasAwaited, finish, awaits, seen]

theorem Orderly.exited (orderly : session.Orderly mode published exit? workers told)
    (awaited : session.hasAwaited = true) :
    exit?.isSome = true := by
  cases session with
  | halting => exact orderly.2
  | ended => exact orderly.2.2.1
  | closing => exact Driven.Orderly.seen orderly awaited
  | draining | joining => exact orderly.1.seen awaited
  | starting | subscribing | listening | watching | waiting | unsubscribing | publishing
  | lingering => cases awaited

private theorem stats_of_finish {driven : Driven} {report : Report}
    (ended : finish s driven = .ended (.ok report)) :
    report.stats = s.stats := by
  unfold finish at ended
  cases reached : driven.exit with
  | error error => simp [reached] at ended
  | ok exit =>
      simp only [reached] at ended
      cases ended
      rfl

theorem Move.snapshot (move : Move view s session s' session') {report : Report}
    (ended : session' = .ended (.ok report)) :
    report.stats = s'.stats := by
  cases move with
  | drained | joined => exact stats_of_finish ended
  | publish | forgo | subscribe | withdraw | accept | refuse | unsubscribe | watch | lose | wait
  | rouse | part | tear | abandon | interrupt | linger | halt | settle | depart | drain | stop =>
      cases ended

end Session

namespace World

variable {config : Config} {around : Surroundings} {records : Bool} {gates : List Gate}
  {past : List (Transition World Motion)} {w w' : World} {motion : Motion}

def awaits (made : Transition World Motion) : Bool :=
  match made.label, made.before.session, made.after.session with
  | .part .session, some session, some session' => session.awaits session'
  | _, _, _ => false

def awaited (past : List (Transition World Motion)) : List (Option Pump.Exit) :=
  (past.filter awaits).map (·.before.pumpExit?)

theorem awaited_append (made : Transition World Motion) :
    awaited (past ++ [made]) =
      awaited past ++ if awaits made then [made.before.pumpExit?] else [] := by
  cases waits : awaits made <;> simp [awaited, waits]

/-- The results of the pump that a session has taken by now. -/
def Awaited (awaited : List (Option Pump.Exit)) (w : World) : Prop :=
  ∀ session, w.session = some session →
    awaited = if session.hasAwaited then [w.pumpExit?] else []

theorem Move.awaited {awaited : List (Option Pump.Exit)} {mode : Mode} (move : Move w motion w')
    (governed : w.Governed mode) (known : w.Awaited awaited) :
    w'.Awaited (awaited ++ if awaits ⟨w, motion, w'⟩ then [w.pumpExit?] else []) := by
  intro session' driving
  cases move with
  | session running moved =>
      cases driving
      rename_i session shared
      obtain ⟨awaited', once⟩ := (Session.move_of_step moved).hasAwaited
        (governed.orderly _ running)
      rw [known session running, awaited']
      simp only [awaits, running]
      cases waits : session.awaits session' with
      | true => simp [once waits, pumpExit?]
      | false => simp [pumpExit?]
  | pump running moved =>
      have unended := (Pump.move_of_step moved).running
      have unawaited : session'.hasAwaited = false := by
        rw [← Bool.not_eq_true]
        intro awaited
        have exited := (governed.orderly session' driving).exited awaited
        rw [pumpExit?, running, Option.bind_some, unended] at exited
        cases exited
      rw [known session' driving, unawaited]
      rfl
  | publisher | task | worker | outside | signal | writer | clock =>
      rw [known session' driving]
      exact List.append_nil _

theorem awaited_of_history
    (history : History advance (ofSession config around records gates) past w) :
    w.Awaited (awaited past) := by
  induction history with
  | start =>
      rw [ofSession_eq]
      rintro session ⟨⟩
      rfl
  | next history moved induction =>
      rw [awaited_append]
      exact (move_of_advance moved).awaited (governed_of_history history) induction

def seat (w : World) : Seat := w.publisher.elim .none Publisher.seat

theorem Move.seated {limit : Nat} (move : Move w motion w')
    (seated : Seated limit w.shared.slots w.seat w.tasks) :
    Seated limit w'.shared.slots w'.seat w'.tasks := by
  cases move with
  | session running moved =>
      obtain ⟨_, _, _, _, _, _, rfl⟩ := (Session.move_of_step moved).reach
      exact seated
  | publisher running moved =>
      rw [seat, running] at seated
      exact seated.publisher (Publisher.move_of_step moved)
  | task running moved => exact seated.task running (SendTask.move_of_step moved)
  | worker running moved =>
      obtain ⟨_, _, _, _, _, _, _, rfl⟩ := (Worker.move_of_step moved).reach
      exact seated
  | pump running moved =>
      obtain ⟨_, _, _, _, rfl⟩ := (Pump.move_of_step moved).reach
      exact seated
  | outside planned due =>
      rename_i event _
      cases event <;> exact seated
  | signal | writer | clock => exact seated

theorem seated_of_history
    (history : History advance (ofSession config around records gates) past w) :
    Seated config.flowControl.maxConcurrentSends w.shared.slots w.seat w.tasks := by
  induction history with
  | start =>
      rw [ofSession_eq, seat]
      cases config.mode with
      | subscribe => exact .start _
      | publish =>
          rw [Option.elim_some, Seated.seat_start]
          exact .start _
  | next _ moved induction => exact (move_of_advance moved).seated induction

/-- A part holds on to the ledger until it ends. -/
def holdsRecorder (w : World) : Agent → Bool
  | .session => w.session.any (·.result?.isNone)
  | .publisher => w.publisher.any (·.report?.isNone)
  | .task index => w.tasks[index]?.any (!·.isEnded)
  | .worker index => w.workers[index]?.any Worker.isActive
  | .outside | .signal | .pump | .writer => false

structure AtRest (w : World) : Prop where
  released : ∀ agent, w.holdsRecorder agent = false
  ended : w.pumpExit?.isSome = true

/-- Nothing was counted, handed to the sink or recorded between the two. -/
structure Still (w w' : World) : Prop where
  stats : w'.shared.stats = w.shared.stats
  sink : w'.shared.sink = w.shared.sink
  ledger : w'.shared.ledger.map Ledger.drain = w.shared.ledger.map Ledger.drain

theorem Still.refl (w : World) : Still w w := ⟨rfl, rfl, rfl⟩

theorem Still.trans {w'' : World} (still : Still w w') (still' : Still w' w'') : Still w w'' where
  stats := still'.stats.trans still.stats
  sink := still'.sink.trans still.sink
  ledger := still'.ledger.trans still.ledger

private theorem drain_of_write? {ledger ledger' : Ledger} (written : ledger.write? = some ledger') :
    ledger'.drain = ledger.drain := by
  unfold Ledger.write? at written
  split at written
  · cases written
  · cases written
    simp_all [Ledger.drain]

theorem Move.still (move : Move w motion w') (rest : AtRest w) : AtRest w' ∧ Still w w' := by
  have released := rest.released
  cases move with
  | session running moved =>
      have ended := released .session
      simp only [holdsRecorder, running, Option.any_some] at ended
      cases (Session.move_of_step moved) <;> cases ended
  | publisher running moved =>
      have ended := released .publisher
      rw [holdsRecorder, running, Option.any_some,
        (Publisher.move_of_step moved).unreported] at ended
      cases ended
  | task running moved =>
      rename_i index _ _ _
      have ended := released (.task index)
      rw [holdsRecorder, running, Option.any_some, Bool.not_eq_false'] at ended
      rw [SendTask.step_of_ended ended] at moved
      cases moved
  | worker running moved =>
      rename_i index _ _ _
      have stopped := released (.worker index)
      rw [holdsRecorder, running, Option.any_some,
        (Worker.move_of_step moved).turn.active] at stopped
      cases stopped
  | pump running moved =>
      have ended := rest.ended
      rw [pumpExit?, running, Option.bind_some, (Pump.move_of_step moved).running] at ended
      cases ended
  | outside planned due =>
      rename_i event _
      cases event <;> exact ⟨⟨released, rest.ended⟩, rfl, rfl, rfl⟩
  | writer kept written =>
      refine ⟨⟨released, rest.ended⟩, rfl, rfl, ?_⟩
      rw [kept, Option.map_some, Option.map_some, drain_of_write? written]
  | signal | clock => exact ⟨⟨released, rest.ended⟩, rfl, rfl, rfl⟩

theorem AtRest.still {later : List (Transition World Motion)} (rest : AtRest w)
    (history : History advance w later w') :
    AtRest w' ∧ Still w w' := by
  induction history with
  | start => exact ⟨rest, .refl w⟩
  | next _ moved induction =>
      obtain ⟨rest', still'⟩ := (move_of_advance moved).still induction.1
      exact ⟨rest', induction.2.trans still'⟩

theorem published_of_ended {result : Except StreamError Session.Report}
    (history : History advance (ofSession config around records gates) past w)
    (ended : w.session = some (.ended result)) :
    (∀ publisher, w.publisher = some publisher → ∃ report, publisher.stage = .ended report) ∧
      ∀ task ∈ w.tasks, task.isEnded = true := by
  have governed := governed_of_history history
  obtain ⟨reported, _⟩ := governed.orderly _ ended
  cases mode : config.mode with
  | subscribe =>
      obtain ⟨silent, idle⟩ := governed.silent mode
      rw [silent, idle]
      exact ⟨nofun, List.forall_mem_nil _⟩
  | publish =>
      have accounted := accounted_of_history (.inSession mode records gates) history
      obtain ⟨report, reported⟩ := Option.isSome_iff_exists.mp (reported mode)
      obtain ⟨_, done⟩ := accounted.settled reported
      refine ⟨?_, fun task member => (done task member).2⟩
      intro publisher running
      rw [publishReport?, running, Option.bind_some] at reported
      exact ⟨report, Publisher.stage_of_report? reported⟩

theorem atRest_of_ended {result : Except StreamError Session.Report}
    (history : History advance (ofSession config around records gates) past w)
    (ended : w.session = some (.ended result)) :
    AtRest w := by
  obtain ⟨_, stopped, exited, _⟩ := (governed_of_history history).orderly _ ended
  obtain ⟨reported, done⟩ := published_of_ended history ended
  refine ⟨?_, exited⟩
  intro agent
  cases agent with
  | session => rw [holdsRecorder, ended]; rfl
  | publisher =>
      cases running : w.publisher with
      | none => rw [holdsRecorder, running]; rfl
      | some publisher =>
          obtain ⟨report, stage⟩ := reported publisher running
          simp [holdsRecorder, running, Publisher.report?, stage]
  | task index =>
      cases running : w.tasks[index]? with
      | none => rw [holdsRecorder, running]; rfl
      | some task =>
          simp [holdsRecorder, running, done task (List.mem_of_getElem? running)]
  | worker index =>
      cases running : w.workers[index]? with
      | none => rw [holdsRecorder, running]; rfl
      | some worker =>
          have stopped := List.all_eq_true.mp stopped worker (List.mem_of_getElem? running)
          simp [holdsRecorder, running, Worker.isActive, stopped]
  | outside | signal | pump | writer => rfl

theorem snapshot_of_history {report : Session.Report}
    (history : History advance (ofSession config around records gates) past w)
    (ended : w.session = some (.ended (.ok report))) :
    report.stats = w.shared.stats := by
  induction history with
  | start =>
      rw [ofSession_eq] at ended
      cases ended
  | next history advanced induction =>
      have move := move_of_advance advanced
      rcases move.session_cases with rfl | same
      · cases move with
        | session running moved =>
            exact (Session.move_of_step moved).snapshot (Option.some.inj ended)
      · have ended := same.symm.trans ended
        have still := (move.still (atRest_of_ended history ended)).2
        exact (induction ended).trans still.stats.symm

structure Aftermath (config : Config) (past : List (Transition World Motion)) (w : World)
    (result : Except StreamError Session.Report) : Prop where
  pump : ∃ exit, w.pump = some (.ended exit) ∧ awaited past = [some exit]
  workers : ∀ worker ∈ w.workers, worker.stage = .stopped
  publisher : ∀ publisher, w.publisher = some publisher → ∃ report, publisher.stage = .ended report
  tasks : ∀ task ∈ w.tasks, task.isEnded = true
  slots : w.shared.slots.free = config.flowControl.maxConcurrentSends ∧
    w.shared.slots.inFlight = 0 ∧ w.shared.slots.queue = []
  released : ∀ agent, w.holdsRecorder agent = false
  snapshot : ∀ report, result = .ok report → report.stats = w.shared.stats
  still : ∀ {later w'}, History advance w later w' → Still w w'

/-- However a session ends, nothing of it goes on after its end. -/
theorem nothing_outlives_session (config : Config) (around : Surroundings) (records : Bool)
    (gates : List Gate)
    (history : History advance (ofSession config around records gates) past w)
    {result : Except StreamError Session.Report} (ended : w.sessionResult? = some result) :
    Aftermath config past w result := by
  have ended := session_of_sessionResult? ended
  have rest := atRest_of_ended history ended
  have known := awaited_of_history history _ ended
  obtain ⟨reported, done⟩ := published_of_ended history ended
  obtain ⟨_, stopped, exited, _⟩ := (governed_of_history history).orderly _ ended
  refine ⟨?_, ?_, reported, done, ?_, rest.released, ?_, fun later => (rest.still later).2⟩
  · obtain ⟨exit, exited⟩ := Option.isSome_iff_exists.mp exited
    obtain ⟨pump, running, exited'⟩ := Option.bind_eq_some_iff.mp exited
    refine ⟨exit, ?_, known.trans (congrArg ([·]) exited)⟩
    cases pump with
    | ended => rw [running, Option.some.inj exited']
    | listening | holding | stored => cases exited'
  · intro worker member
    exact Worker.stage_of_isStopped (List.all_eq_true.mp stopped worker member)
  · have seated := seated_of_history history
    have unseated : w.seat = .none := by
      cases running : w.publisher with
      | none => rw [seat, running]; rfl
      | some publisher =>
          obtain ⟨report, stage⟩ := reported publisher running
          rw [seat, running, Option.elim_some, Publisher.seat, stage]
    rw [unseated] at seated
    exact seated.vacant done
  · rintro report rfl
    exact snapshot_of_history history ended

private def pair : Config :=
  { topic := "news", consumer := { workers := 1 }, mode := .publish
    flowControl := { enabled := true, maxConcurrentSends := 3 }
    publishing := { message := "hello", count := 2 } }

private def mute : Surroundings :=
  .alone (.start (fun _ _ => none) fun _ => ⟨0, none⟩) (.ofScript [(10, .ended)] false)

/-- The stream ends while one send is under way and another one has its slot. -/
private def muteMotions : List Motion :=
  times
    [(1, .part .session), (16, .part .publisher), (3, .part (.task 0)), (1, .clock 10),
      (1, .part .pump), (1, .part .session), (4, .part (.task 0)), (6, .part (.task 1)),
      (1, .part .publisher), (2, .part .session), (1, .part (.worker 0)), (1, .part .session)]

theorem nothing_outlives_session_where_mute :
    ∃ past w report,
      History advance (ofSession pair mute true []) past w ∧
      w.sessionResult? = some (.ok report) ∧ report.exit = .streamEnded .endOfStream ∧
        w.tasks.length = 2 ∧ awaited past = [some .endOfStream] ∧
          w.shared.slots.free = 3 ∧ report.stats = w.shared.stats := by
  have course :
      (replay advance (ofSession pair mute true []) muteMotions).map (fun (_, w) =>
        ((w.sessionResult?.bind Except.toOption).map (·.exit), w.pumpExit?, w.tasks.length)) =
      some (some (.streamEnded .endOfStream), some .endOfStream, 2) := by
    decide
  obtain ⟨⟨past, w⟩, replayed, course⟩ := Option.map_eq_some_iff.mp course
  simp only [Prod.mk.injEq, Option.map_eq_some_iff, Option.bind_eq_some_iff] at course
  obtain ⟨⟨report, ⟨result, ended, succeeded⟩, exit⟩, lost, started⟩ := course
  have history := History.ofReplay replayed
  cases result with
  | error error => cases succeeded
  | ok report' =>
      cases succeeded
      have aftermath := nothing_outlives_session pair mute true [] history ended
      obtain ⟨exit', pump, awaited⟩ := aftermath.pump
      rw [pumpExit?, pump] at lost
      cases lost
      exact ⟨past, w, report, history, ended, exit, started, awaited, aftermath.slots.1,
        aftermath.snapshot report rfl⟩

end World

end Courier
