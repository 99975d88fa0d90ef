import Courier.Proofs.Publishing.Reports
import Courier.Proofs.World.Frames
import Courier.Proofs.World.Orders

/-! Clients that publish: whatever happens beside the publisher, its report accounts for every
message. -/

namespace Courier

def Session.Quiet : Session → Prop
  | .subscribing _ | .listening | .watching | .waiting | .unsubscribing .. => False
  | _ => True

theorem Session.Move.quiet {s s' : Shared} {view : View} {session session' : Session}
    (move : Session.Move view s session s' session') (mode : view.mode = .publish)
    (quiet : session.Quiet) :
    s'.outlay = s.outlay ∧ session'.Quiet := by
  cases move with
  | forgo mode' | subscribe mode' =>
      rw [mode] at mode'
      cases mode'
  | withdraw | accept | refuse | unsubscribe | watch | lose | wait | rouse | part | tear | abandon =>
      exact quiet.elim
  | publish | interrupt | linger | halt | settle | depart | drain | stop | drained | joined =>
      exact ⟨rfl, trivial⟩

namespace World

/-- Where publishing starts: by itself, or in a session. -/
inductive Publishes (config : Config) (around : Surroundings) : World → Prop where
  | alone (sender : String) (records : Bool) :
      Publishes config around (.ofPublication config around sender records)
  | inSession (mode : config.mode = .publish) (records : Bool) (gates : List Gate) :
      Publishes config around (.ofSession config around records gates)

structure Accounted (count base : Nat) (w : World) : Prop where
  count : w.publication.count = count
  publisher : ∃ publisher, w.publisher = some publisher ∧
    publisher.Accounted w.publication base w.shared.outlay w.tasks
  session : ∀ session, w.session = some session → w.mode = .publish ∧ session.Quiet

variable {config : Config} {around : Surroundings} {start w w' : World} {motion : Motion}
  {count base : Nat}

theorem accounted_start (publishes : start.Publishes config around) :
    start.Accounted config.publishing.count around.sink.published := by
  cases publishes with
  | alone sender records =>
      refine ⟨rfl, ⟨_, rfl, Publisher.accounted_start rfl⟩, ?_⟩
      intro session same
      cases same
  | inSession mode records gates =>
      simp only [ofSession, mode]
      refine ⟨rfl, ⟨_, rfl, Publisher.accounted_start rfl⟩, ?_⟩
      intro session same
      cases same
      exact ⟨mode, trivial⟩

theorem Publishes.parts (publishes : start.Publishes config around) :
    start.shared = .start config around ∧ start.tasks = [] ∧
      start.publisher = some (.start start.publication start.shared) := by
  cases publishes with
  | alone sender records => exact ⟨rfl, rfl, rfl⟩
  | inSession mode records gates =>
      simp only [ofSession, mode]
      exact ⟨rfl, rfl, rfl⟩

private theorem Accounted.elsewhere (accounted : w.Accounted count base)
    (publication : w'.publication = w.publication) (publisher : w'.publisher = w.publisher)
    (tasks : w'.tasks = w.tasks) (outlay : w'.shared.outlay = w.shared.outlay)
    (mode : w'.mode = w.mode) (session : w'.session = w.session) :
    w'.Accounted count base where
  count := publication ▸ accounted.count
  publisher := by
    rw [publication, publisher, tasks, outlay]
    exact accounted.publisher
  session := by
    rw [session, mode]
    exact accounted.session

theorem Move.accounted (move : Move w motion w') (accounted : w.Accounted count base) :
    w'.Accounted count base := by
  cases move with
  | session running moved =>
      obtain ⟨mode, quiet⟩ := accounted.session _ running
      obtain ⟨outlay, quiet'⟩ := (Session.move_of_step moved).quiet mode quiet
      refine ⟨accounted.count, ?_, ?_⟩
      · rw [outlay]
        exact accounted.publisher
      · intro session same
        cases same
        exact ⟨mode, quiet'⟩
  | publisher running moved =>
      obtain ⟨publisher, present, books⟩ := accounted.publisher
      cases present.symm.trans running
      exact ⟨accounted.count, ⟨_, rfl, (Publisher.move_of_step moved).accounted books⟩,
        accounted.session⟩
  | task running moved =>
      obtain ⟨publisher, present, books⟩ := accounted.publisher
      exact ⟨accounted.count, ⟨publisher, present, books.advance running moved⟩,
        accounted.session⟩
  | worker running moved =>
      exact accounted.elsewhere rfl rfl rfl (Worker.move_of_step moved).outlay rfl rfl
  | pump running moved =>
      exact accounted.elsewhere rfl rfl rfl (Pump.move_of_step moved).outlay rfl rfl
  | outside planned due =>
      rename_i event _
      have outlay : (act w.shared event).outlay = w.shared.outlay := by
        cases event <;> rfl
      exact accounted.elsewhere rfl rfl rfl outlay rfl rfl
  | signal | writer | clock => exact accounted.elsewhere rfl rfl rfl rfl rfl rfl

theorem accounted_of_history (publishes : start.Publishes config around)
    {past : List (Transition World Motion)} (history : History advance start past w) :
    w.Accounted config.publishing.count around.sink.published := by
  induction history with
  | start => exact accounted_start publishes
  | next _ moved induction => exact (move_of_advance moved).accounted induction

theorem Accounted.settled (accounted : w.Accounted count base) {report : PublishReport}
    (reported : w.publishReport? = some report) :
    report.Accounts count base w.shared.outlay (endedWith .broken w.tasks) ∧ AllEnded w.tasks := by
  obtain ⟨total, ⟨publisher, running, accounted⟩, _⟩ := accounted
  rw [publishReport?, running, Option.bind_some] at reported
  simp only [Publisher.Accounted, Publisher.stage_of_report? reported] at accounted
  exact total ▸ accounted

/-- No send can panic: there is none and there will be none, or the number of attempts fits into its
type. -/
def Sound (w : World) : Prop :=
  w.shared.overflows = false ∨
    w.tasks = [] ∧ ∀ publisher, w.publisher = some publisher → publisher.isThrottled = false

theorem sound_start (publishes : start.Publishes config around)
    (fits : config.flowControl.enabled = true → around.checked = true →
      config.flowControl.maxRetries ≠ 4294967295) :
    start.Sound := by
  obtain ⟨shared, tasks, publisher⟩ := publishes.parts
  cases enabled : config.flowControl.enabled with
  | false =>
      refine .inr ⟨tasks, ?_⟩
      intro running present
      cases publisher.symm.trans present
      simp [shared, Shared.start, Publisher.start, Publisher.isThrottled, enabled]
  | true =>
      rw [Sound, shared]
      exact .inl (Shared.overflows_eq_false (fits enabled))

theorem Move.sound (move : Move w motion w') (sound : w.Sound) : w'.Sound := by
  rcases sound with sound | ⟨empty, apart⟩
  · exact .inl (move.overflows.trans sound)
  · refine .inr ?_
    cases move with
    | publisher running moved =>
        obtain ⟨unthrottled, none⟩ := (Publisher.move_of_step moved).starts_none (apart _ running)
        refine ⟨by rw [empty, none]; rfl, ?_⟩
        rintro publisher ⟨⟩
        exact unthrottled
    | task running =>
        rw [empty] at running
        cases running
    | session | worker | pump | outside | signal | writer | clock => exact ⟨empty, apart⟩

theorem Move.unbroken (move : Move w motion w') (sound : w.Sound)
    (unbroken : ∀ task ∈ w.tasks, task.posting.outcome ≠ some .broken) :
    ∀ task ∈ w'.tasks, task.posting.outcome ≠ some .broken := by
  cases move with
  | publisher running moved =>
      intro task member
      rcases List.mem_append.mp member with before | fresh
      · exact unbroken task before
      · exact (Publisher.move_of_step moved).unbroken task (Option.mem_toList.mp fresh)
  | task running moved =>
      intro other member
      rcases List.mem_or_eq_of_mem_set member with before | rfl
      · exact unbroken other before
      · have task := List.mem_of_getElem? running
        have sound := sound.resolve_right fun none => List.ne_nil_of_mem task none.1
        exact (SendTask.move_of_step moved).unbroken sound (unbroken _ task)
  | session | worker | pump | outside | signal | writer | clock => exact unbroken

theorem unbroken_since (sound : w.Sound)
    (unbroken : ∀ task ∈ w.tasks, task.posting.outcome ≠ some .broken)
    {later : List (Transition World Motion)} (history : History advance w later w') :
    w'.Sound ∧ ∀ task ∈ w'.tasks, task.posting.outcome ≠ some .broken := by
  induction history with
  | start => exact ⟨sound, unbroken⟩
  | next _ moved induction =>
      have move := move_of_advance moved
      exact ⟨move.sound induction.1, move.unbroken induction.1 induction.2⟩

theorem unbroken_of_history (publishes : start.Publishes config around)
    (fits : config.flowControl.enabled = true → around.checked = true →
      config.flowControl.maxRetries ≠ 4294967295)
    {past : List (Transition World Motion)} (history : History advance start past w) :
    w.Sound ∧ ∀ task ∈ w.tasks, task.posting.outcome ≠ some .broken := by
  refine unbroken_since (sound_start publishes fits) ?_ history
  rw [publishes.parts.2.1]
  exact List.forall_mem_nil _

/-- Once publishing has ended, every message was sent, dropped or cancelled, and the counters and
the sink say the same as the report. Where an attempt was left without an end, its message is
cancelled. -/
theorem every_message_accounted_for (config : Config) (around : Surroundings)
    (publishes : start.Publishes config around)
    (fits : config.flowControl.enabled = true → around.checked = true →
      config.flowControl.maxRetries ≠ 4294967295)
    {past : List (Transition World Motion)} (history : History advance start past w)
    {report : PublishReport} (reported : w.publishReport? = some report) :
    report.sent + report.dropped + report.cancelled = config.publishing.count ∧
      w.shared.stats.sent = report.sent ∧
      w.shared.stats.acked = report.sent ∧
      w.shared.sink.published = around.sink.published + report.sent ∧
      w.shared.stats.dropped = report.dropped ∧
      w.shared.stats.sent + w.shared.stats.dropped + w.shared.stats.retried ≤
        w.shared.stats.sendAttempts ∧
      w.shared.stats.sendAttempts ≤
        w.shared.stats.sent + w.shared.stats.dropped + w.shared.stats.retried +
          report.cancelled := by
  obtain ⟨accounts, _⟩ := (accounted_of_history publishes history).settled reported
  obtain ⟨_, unbroken⟩ := unbroken_of_history publishes fits history
  obtain ⟨total, sent, acked, dropped, accepted, covered, covering⟩ := accounts
  have none : endedWith .broken w.tasks = 0 := endedWith_eq_zero unbroken
  rw [none, Nat.add_zero] at dropped
  exact ⟨total, sent, acked, accepted, dropped, covered, covering⟩

private def triple : Config :=
  { topic := "news"
    flowControl := { enabled := true, initialCredits := 3, maxRetries := 1, pacingDelay := .zero }
    publishing := { message := "hello", count := 3 } }

private def hesitant : Surroundings :=
  { Surroundings.alone
      (.start (fun _ _ => none) fun call =>
        match call.attempt with
        | 0 => ⟨0, some (.failed (.status ⟨.unavailable, ""⟩))⟩
        | 1 => .immediate
        | _ => ⟨0, none⟩)
      (.ofScript [] false) with
    outside := [(2000, .cancel)] }

/-- A message is sent at its second attempt, the next one is cancelled in the middle of its first,
and the last one while it waits for a slot. -/
private def hesitantMotions : List Motion :=
  times
    [(16, .part .publisher), (6, .part (.task 0)), (1, .clock 1000), (10, .part (.task 0)),
      (3, .part (.task 1)), (2, .part .publisher), (1, .clock 2000), (1, .part .outside),
      (4, .part (.task 1)), (3, .part .publisher)]

theorem every_message_accounted_for_where_hesitant :
    ∃ start past w report, start.Publishes triple hesitant ∧
      (triple.flowControl.enabled = true → hesitant.checked = true →
        triple.flowControl.maxRetries ≠ 4294967295) ∧
      History advance start past w ∧ w.publishReport? = some report ∧
        report.sent = 1 ∧ report.cancelled = 2 ∧ w.shared.stats.sendAttempts = 3 ∧
          1 + report.dropped + 2 = 3 ∧ w.shared.stats.acked = 1 := by
  have counts :
      (replay advance (ofPublication triple hesitant "" false) hesitantMotions).map
        (fun (_, w) =>
          (w.publishReport?.map fun report => (report.sent, report.cancelled),
            w.shared.stats.sendAttempts)) =
      some (some (1, 2), 3) := by
    decide
  obtain ⟨⟨past, w⟩, replayed, counts⟩ := Option.map_eq_some_iff.mp counts
  simp only [Prod.mk.injEq, Option.map_eq_some_iff] at counts
  obtain ⟨⟨report, reported, sent, cancelled⟩, attempts⟩ := counts
  have publishes : Publishes triple hesitant (ofPublication triple hesitant "" false) :=
    .alone "" false
  have history := History.ofReplay replayed
  have fits : triple.flowControl.enabled = true → hesitant.checked = true →
      triple.flowControl.maxRetries ≠ 4294967295 := by
    rintro _ ⟨⟩
  have accounts := every_message_accounted_for triple hesitant publishes fits history reported
  obtain ⟨total, _, acked, _⟩ := accounts
  rw [sent, cancelled] at total
  exact ⟨_, past, w, report, publishes, fits, history, reported, sent, cancelled, attempts, total,
    acked.trans sent⟩

end World

end Courier
