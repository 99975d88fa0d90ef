import Courier.Proofs.Intake.Turns
import Courier.Proofs.World.Orders
import Courier.Proofs.World.Starting

/-! How far a session has come, and what its parts have come to by then. A subscriber publishes
nothing, a publisher has reported before its session leaves it, and a session ends only after its
pump and its workers. -/

namespace Courier

theorem Publisher.Move.unreported {p : Publication} {s s' : Shared} {tasks : List SendTask}
    {publisher publisher' : Publisher} {started : Option SendTask}
    (move : Publisher.Move p s tasks publisher s' publisher' started) :
    publisher.report? = none := by
  cases move with
  | throttled stage | unthrottled stage | join stage | finish stage => simp only [report?, stage]

namespace Session

structure Driven.Orderly (mode : Mode) (published : Option PublishReport)
    (exit? : Option Pump.Exit) (driven : Driven) : Prop where
  publish : driven.publish = published
  reported : mode = .publish → published.isSome = true
  awaited : driven.streamEnded = true → driven.pumpSeen = true
  seen : driven.pumpSeen = true → exit?.isSome = true

/-- The place of a session beside its other parts, where `told` says that they were told to stop. -/
def Orderly (mode : Mode) (published : Option PublishReport) (exit? : Option Pump.Exit)
    (workers : List Worker) (told : Prop) : Session → Prop
  | .starting => True
  | .subscribing _ | .listening | .watching | .waiting | .unsubscribing .. => mode = .subscribe
  | .publishing => mode = .publish
  | .halting _ => mode = .publish ∧ exit?.isSome = true
  | .lingering report _ => mode = .publish ∧ published = some report
  | .closing driven => driven.Orderly mode published exit?
  | .draining driven => driven.Orderly mode published exit? ∧ driven.streamEnded = true
  | .joining driven => driven.Orderly mode published exit? ∧ told
  | .ended _ => (mode = .publish → published.isSome = true) ∧
      workers.all Worker.isStopped = true ∧ exit?.isSome = true ∧ told

variable {mode : Mode} {published published' : Option PublishReport}
  {exit? exit?' : Option Pump.Exit} {workers : List Worker} {told told' : Prop} {view : View}
  {s s' : Shared} {session session' : Session}

private theorem orderly_of_silent {exit : Except StreamError Exit} (subscriber : mode = .subscribe)
    (silent : mode = .subscribe → published = none)
    (other : (⟨exit, none, false⟩ : Driven).streamEnded = false) :
    (⟨exit, none, false⟩ : Driven).Orderly mode published exit? where
  publish := (silent subscriber).symm
  reported := fun publisher => nomatch subscriber.symm.trans publisher
  awaited := fun ended => nomatch other.symm.trans ended
  seen := nofun

private theorem orderly_of_stopped (exit : Pump.Exit) (ended : exit?.isSome = true)
    (reported : mode = .publish → published.isSome = true) :
    (Driven.pumpStopped exit published).Orderly mode published exit? := by
  cases exit <;> exact ⟨rfl, reported, fun _ => rfl, fun _ => ended⟩

theorem Move.orderly (move : Move view s session s' session')
    (viewed : view.mode = mode ∧ view.published = published ∧ view.pumpExit = exit? ∧
      view.workersStopped = workers.all Worker.isStopped)
    (silent : mode = .subscribe → published = none)
    (orderly : session.Orderly mode published exit? workers
      (s.shutdown = true ∧ s.cancelled = true)) :
    session'.Orderly mode published exit? workers (s'.shutdown = true ∧ s'.cancelled = true) := by
  obtain ⟨rfl, rfl, rfl, workersStopped⟩ := viewed
  cases move with
  | publish mode | subscribe mode => exact mode
  | accept | unsubscribe | watch | wait | rouse => exact orderly
  | forgo mode => exact orderly_of_silent mode silent rfl
  | withdraw | refuse | part | tear | abandon => exact orderly_of_silent orderly silent rfl
  | lose lost =>
      rw [← silent orderly]
      refine orderly_of_stopped _ (lost ▸ rfl) ?_
      intro publisher
      cases orderly.symm.trans publisher
  | interrupt published =>
      exact ⟨published.symm, fun _ => published ▸ rfl, nofun, nofun⟩
  | linger published => exact ⟨orderly, published⟩
  | halt unpublished lost => exact ⟨orderly, lost ▸ rfl⟩
  | settle published =>
      rw [← published]
      exact orderly_of_stopped _ orderly.2 fun _ => published ▸ rfl
  | depart => exact ⟨orderly.2.symm, fun _ => orderly.2 ▸ rfl, nofun, nofun⟩
  | drain streamEnded => exact ⟨orderly, streamEnded⟩
  | stop => exact ⟨orderly, rfl, rfl⟩
  | drained stopped =>
      have seen := orderly.1.awaited orderly.2
      exact ⟨orderly.1.reported, workersStopped.symm.trans stopped, orderly.1.seen seen, rfl, rfl⟩
  | joined stopped pumped =>
      refine ⟨orderly.1.reported, workersStopped.symm.trans stopped, ?_, orderly.2⟩
      rcases pumped with seen | ended
      · exact orderly.1.seen seen
      · exact ended

theorem Orderly.report (orderly : session.Orderly .publish none exit? workers told)
    (published : Option PublishReport) :
    session.Orderly .publish published exit? workers told := by
  cases session with
  | starting => trivial
  | publishing => rfl
  | halting => exact ⟨rfl, orderly.2⟩
  | subscribing | listening | watching | waiting | unsubscribing => cases orderly
  | lingering => cases orderly.2
  | closing => cases orderly.reported rfl
  | draining | joining => cases orderly.1.reported rfl
  | ended => cases orderly.1 rfl

private theorem Driven.Orderly.exit {driven : Driven}
    (orderly : driven.Orderly mode published none) (exit? : Option Pump.Exit) :
    driven.Orderly mode published exit? :=
  { orderly with seen := fun seen => nomatch orderly.seen seen }

theorem Orderly.exit (orderly : session.Orderly mode published none workers told)
    (exit? : Option Pump.Exit) :
    session.Orderly mode published exit? workers told := by
  cases session with
  | ended => cases orderly.2.2.1
  | halting => cases orderly.2
  | closing => exact Driven.Orderly.exit orderly exit?
  | draining | joining => exact ⟨orderly.1.exit exit?, orderly.2⟩
  | starting | subscribing | listening | watching | waiting | unsubscribing | publishing
  | lingering => exact orderly

theorem Orderly.work {index : Nat} {worker : Worker} (running : workers[index]? = some worker)
    (active : worker.isActive = true)
    (orderly : session.Orderly mode published exit? workers told) (worker' : Worker) :
    session.Orderly mode published exit? (workers.set index worker') told := by
  cases session with
  | ended =>
      have stopped := List.all_eq_true.mp orderly.2.1 worker (List.mem_of_getElem? running)
      rw [Worker.isActive, stopped] at active
      cases active
  | starting | subscribing | listening | watching | waiting | unsubscribing | publishing | halting
  | lingering | closing | draining | joining => exact orderly

theorem Orderly.tell (orderly : session.Orderly mode published exit? workers told)
    (kept : told → told') :
    session.Orderly mode published exit? workers told' := by
  cases session with
  | joining => exact ⟨orderly.1, kept orderly.2⟩
  | ended => exact ⟨orderly.1, orderly.2.1, orderly.2.2.1, kept orderly.2.2.2⟩
  | starting | subscribing | listening | watching | waiting | unsubscribing | publishing | halting
  | lingering | closing | draining => exact orderly

end Session

namespace World

structure Governed (mode : Mode) (w : World) : Prop where
  driven : w.mode = mode
  silent : mode = .subscribe → w.publisher = none ∧ w.tasks = []
  orderly : ∀ session, w.session = some session →
    session.Orderly mode w.publishReport? w.pumpExit? w.workers
      (w.shared.shutdown = true ∧ w.shared.cancelled = true)

variable {config : Config} {around : Surroundings} {records : Bool} {gates : List Gate}
  {past : List (Transition World Motion)} {w w' : World} {motion : Motion} {mode : Mode}

theorem Move.session_cases (move : Move w motion w') :
    motion = .part .session ∨ w'.session = w.session := by
  cases move with
  | session => exact .inl rfl
  | publisher | task | worker | pump | outside | signal | writer | clock => exact .inr rfl

theorem Move.pump_cases (move : Move w motion w') :
    w'.pump = w.pump ∨
      ∃ pump pump' shared, w.pump = some pump ∧ w'.pump = some pump' ∧
        w'.shared.cancelled = w.shared.cancelled ∧ Pump.Move w.shared pump shared pump' := by
  cases move with
  | pump running moved =>
      have move := Pump.move_of_step moved
      exact .inr ⟨_, _, _, running, rfl, congrArg Orders.cancelled move.orders, move⟩
  | session | publisher | task | worker | outside | signal | writer | clock => exact .inl rfl

theorem unplanned_of_cancellations (times : List Nat) :
    ∀ planned ∈ times.map (·, Outside.cancel), planned.2 ≠ .shutdown := by
  intro planned member
  obtain ⟨time, _, rfl⟩ := List.mem_map.mp member
  exact nofun

theorem session_of_sessionResult? {result : Except StreamError Session.Report}
    (ended : w.sessionResult? = some result) :
    w.session = some (.ended result) := by
  obtain ⟨session, running, ended⟩ := Option.bind_eq_some_iff.mp ended
  unfold Session.result? at ended
  split at ended
  · cases ended
    exact running
  · cases ended

theorem governed_start (config : Config) (around : Surroundings) (records : Bool)
    (gates : List Gate) :
    Governed config.mode (ofSession config around records gates) := by
  rw [ofSession_eq]
  refine ⟨rfl, ?_, ?_⟩
  · intro subscriber
    simp only [subscriber, and_self]
  · rintro session ⟨⟩
    trivial

private theorem Governed.elsewhere (governed : w.Governed mode) (kept : w'.mode = w.mode)
    (publisher : w'.publisher = w.publisher) (tasks : w'.tasks = w.tasks)
    (driving : w'.session = w.session) (pumping : w'.pump = w.pump)
    (workers : w'.workers = w.workers)
    (told : w.shared.shutdown = true ∧ w.shared.cancelled = true →
      w'.shared.shutdown = true ∧ w'.shared.cancelled = true) :
    w'.Governed mode where
  driven := kept.trans governed.driven
  silent := by
    rw [publisher, tasks]
    exact governed.silent
  orderly := by
    intro session same
    rw [publishReport?, publisher, pumpExit?, pumping, workers]
    exact (governed.orderly session (driving ▸ same)).tell told

theorem Move.governed (move : Move w motion w') (governed : w.Governed mode) :
    w'.Governed mode := by
  have untaken (subscriber : mode = .subscribe) : w.publishReport? = none := by
    rw [publishReport?, (governed.silent subscriber).1]
    rfl
  cases move with
  | session running moved =>
      refine ⟨governed.driven, governed.silent, ?_⟩
      intro session' same
      cases same
      exact (Session.move_of_step moved).orderly ⟨governed.driven, rfl, rfl, rfl⟩ untaken
        (governed.orderly _ running)
  | publisher running moved =>
      rename_i publisher publisher' shared started
      have move := Publisher.move_of_step moved
      have publishes : mode = .publish := by
        cases mode with
        | publish => rfl
        | subscribe => cases (governed.silent rfl).1.symm.trans running
      subst publishes
      refine ⟨governed.driven, nofun, ?_⟩
      intro session same
      have orderly := governed.orderly session same
      have unreported : w.publishReport? = none := by
        rw [publishReport?, running, Option.bind_some]
        exact move.unreported
      rw [unreported] at orderly
      exact (orderly.report _).tell fun told =>
        ⟨(congrArg Orders.shutdown move.orders).trans told.1,
          (congrArg Orders.cancelled move.orders).trans told.2⟩
  | task running moved =>
      have orders := (SendTask.move_of_step moved).orders
      refine ⟨governed.driven, ?_, ?_⟩
      · intro subscriber
        rw [(governed.silent subscriber).2] at running
        cases running
      · intro session same
        exact (governed.orderly session same).tell fun told =>
          ⟨(congrArg Orders.shutdown orders).trans told.1,
            (congrArg Orders.cancelled orders).trans told.2⟩
  | worker running moved =>
      have move := Worker.move_of_step moved
      refine ⟨governed.driven, governed.silent, ?_⟩
      intro session same
      exact ((governed.orderly session same).work running move.turn.active _).tell fun told =>
        ⟨(congrArg Orders.shutdown move.orders).trans told.1,
          (congrArg Orders.cancelled move.orders).trans told.2⟩
  | pump running moved =>
      have move := Pump.move_of_step moved
      refine ⟨governed.driven, governed.silent, ?_⟩
      intro session same
      have orderly := governed.orderly session same
      rw [pumpExit?, running, Option.bind_some, move.running] at orderly
      exact (orderly.exit _).tell fun told =>
        ⟨(congrArg Orders.shutdown move.orders).trans told.1,
          (congrArg Orders.cancelled move.orders).trans told.2⟩
  | outside planned due =>
      rename_i event _
      cases event with
      | cancel => exact governed.elsewhere rfl rfl rfl rfl rfl rfl fun told => ⟨told.1, rfl⟩
      | shutdown => exact governed.elsewhere rfl rfl rfl rfl rfl rfl fun told => ⟨rfl, told.2⟩
      | addCredits => exact governed.elsewhere rfl rfl rfl rfl rfl rfl id
  | signal => exact governed.elsewhere rfl rfl rfl rfl rfl rfl fun told => ⟨told.1, rfl⟩
  | writer | clock => exact governed.elsewhere rfl rfl rfl rfl rfl rfl id

theorem governed_of_history
    (history : History advance (ofSession config around records gates) past w) :
    w.Governed config.mode := by
  induction history with
  | start => exact governed_start config around records gates
  | next _ moved induction => exact (move_of_advance moved).governed induction

end World

end Courier
