import Courier.Proofs.Ledger.Reading
import Courier.Proofs.World.Recording

/-! The ledger of a client, as it is when it is closed after a session. -/

namespace Courier

theorem Sink.length_payloads (sink : Sink) : sink.payloads.length = sink.published :=
  List.length_filterMap_eq_countP

section Due

variable {config : Config} {env : Client.Environment}

theorem linesOf_gatesOf (output : config.output.isSome = true)
    (foreign : Silent (env.gates.getD Client.defaultGates)) (delivery : Delivery) :
    linesOf (Client.gatesOf config env) delivery =
      match config.mode with
      | .publish => []
      | .subscribe => delivery.envelope?.toList.map fun envelope =>
          Ledger.receiveLine config.tag envelope.publisher envelope.message := by
  rw [Client.gatesOf, linesOf_append, foreign.linesOf, List.nil_append]
  cases mode : config.mode with
  | publish =>
      rw [if_neg fun subscribes => nomatch subscribes.2]
      rfl
  | subscribe =>
      rw [if_pos ⟨output, rfl⟩]
      exact linesOf_ledger ..

theorem lines_ofConfig (output : config.output.isSome = true) (random : Nat → Nat → UInt8)
    (payload : List UInt8) :
    (Publication.ofConfig config config.tag (config.mode = .publish && config.output.isSome)
      random).lines payload =
      match config.mode with
      | .publish => [Ledger.publishLine config.tag payload]
      | .subscribe => [] := by
  unfold Publication.lines
  dsimp only [Publication.ofConfig]
  cases mode : config.mode with
  | publish => simp [output]
  | subscribe => simp

end Due

namespace World

/-- The session of a client, with the ledger that the client has made for it. -/
def ofClient (config : Config) (env : Client.Environment) (around : Surroundings) : World :=
  ofSession config { around with ledger := Client.ledgerOf config }
    (config.mode = .publish && config.output.isSome) (Client.gatesOf config env)

variable {config : Config} {env : Client.Environment} {around : Surroundings} {records : Bool}
  {gates : List Gate} {past : List (Transition World Motion)} {w : World}

private theorem ofClient_parts (config : Config) (env : Client.Environment)
    (around : Surroundings) :
    (ofClient config env around).publication =
        .ofConfig config config.tag (config.mode = .publish && config.output.isSome)
          around.random ∧
      (ofClient config env around).gates = Client.gatesOf config env := by
  rw [ofClient, ofSession_eq]
  exact ⟨rfl, rfl⟩

private theorem header_eq_intercalate (mode : Mode) :
    Client.header mode = "\t".intercalate (match mode with
      | .publish => ["sender", "size", "sha256(msg)"]
      | .subscribe => ["receiver", "publisher", "size", "sha256(msg)"]) := by
  cases mode <;> decide

private theorem published_eq_sent {result : Except StreamError Session.Report}
    (mode : config.mode = .publish)
    (history : History advance (ofSession config around records gates) past w)
    (ended : w.session = some (.ended result)) :
    w.shared.sink.published = around.sink.published + w.shared.stats.sent := by
  obtain ⟨reported, _⟩ := (governed_of_history history).orderly _ ended
  obtain ⟨report, reported⟩ := Option.isSome_iff_exists.mp (reported mode)
  have accounted := accounted_of_history (.inSession mode records gates) history
  obtain ⟨accounts, _⟩ := accounted.settled reported
  exact accounts.accepted.trans (congrArg (_ + ·) accounts.sent.symm)

/-- A closed ledger beside what its client has published or received, line by line. The number of
its lines is what closing it returns. -/
structure Agrees (config : Config) (around : Surroundings) (past : List (Transition World Motion))
    (w : World) (report : Session.Report) (ledger : Ledger) : Prop where
  header : ledger.header = "\t".intercalate (match config.mode with
    | .publish => ["sender", "size", "sha256(msg)"]
    | .subscribe => ["receiver", "publisher", "size", "sha256(msg)"])
  flushed : ledger.queue = []
  published : config.mode = .publish →
    ledger.lines.length = report.stats.sent ∧
      ∃ payloads, w.shared.sink.payloads = around.sink.payloads ++ payloads ∧
        ledger.lines.Perm (payloads.map fun payload =>
          "\t".intercalate
            [config.tag, toString payload.length, String.ofList (Digest.sha256Hex payload)])
  received : config.mode = .subscribe →
    ledger.lines.length = report.stats.received ∧
      ledger.lines.Perm ((decoded past).map fun envelope =>
        "\t".intercalate [config.tag, envelope.publisher, toString envelope.message.length,
          String.ofList (Digest.sha256Hex envelope.message)])

/-- However a session ends with a report, the ledger then has one line for each message that was
sent or received. No gate but the client's own writes into its ledger. -/
theorem ledger_agrees_with_statistics (config : Config) (env : Client.Environment)
    (around : Surroundings) (output : config.output.isSome = true)
    (foreign : Silent (env.gates.getD Client.defaultGates))
    (history : History advance (ofClient config env around) past w)
    {report : Session.Report} (reported : w.sessionResult? = some (.ok report)) :
    ∃ ledger, w.closeLedger.shared.ledger = some ledger ∧
      Agrees config around past w report ledger := by
  have ended := session_of_sessionResult? reported
  have owes := owed_of_ended history ended
  have snapshot := snapshot_of_history history ended
  have created : Client.ledgerOf config = some (.create (Client.header config.mode)) := by
    obtain ⟨path, same⟩ := Option.isSome_iff_exists.mp output
    rw [Client.ledgerOf, same, Option.map_some]
  obtain ⟨_, kept, landed, balanced⟩ := recorded_of_history created history
  obtain ⟨publication, passed⟩ := fixed_of_history history
  obtain ⟨publication', passed'⟩ := ofClient_parts config env around
  -- Nothing is owed any more, so that the ledger has just what was due.
  rw [owes, publication.trans publication', passed.trans passed'] at balanced
  have perm := balanced.perm
  rw [funext (linesOf_gatesOf output foreign), funext (lines_ofConfig output _)] at perm
  obtain ⟨ledger, present, header⟩ := Option.map_eq_some_iff.mp kept
  have entries : w.shared.deposit.entries = ledger.drain.lines := by
    rw [Shared.deposit, present]
    rfl
  rw [entries] at perm
  have nothing {α : Type} (list : List α) : list.flatMap (fun _ => ([] : List String)) = [] :=
    List.flatMap_eq_nil_iff.mpr fun _ _ => rfl
  refine ⟨ledger.drain, ?_, header.trans (header_eq_intercalate config.mode), rfl, ?_, ?_⟩
  · simp only [closeLedger, present]
    rfl
  · intro mode
    simp only [mode, nothing, ← List.map_eq_flatMap, List.append_nil,
      Ledger.publishLine_eq_intercalate] at perm
    refine ⟨?_, landed, balanced.payloads, perm⟩
    -- The sink has accepted as many messages as were sent.
    have published := published_eq_sent mode history ended
    have payloads := congrArg List.length balanced.payloads
    simp only [List.length_append, Sink.length_payloads, Shared.deposit, published,
      Nat.add_left_cancel_iff] at payloads
    rw [perm.length_eq, List.length_map, snapshot, payloads]
  · intro mode
    simp only [mode, nothing, List.nil_append, Ledger.receiveLine_eq_intercalate] at perm
    rw [← List.map_flatMap, ← List.filterMap_eq_flatMap_toList, envelopes_found] at perm
    refine ⟨?_, perm⟩
    rw [perm.length_eq, List.length_map, snapshot, ← envelopes_found]
    exact balanced.received.symm

private def recorder : Config :=
  { topic := "news", mode := .publish, output := some "sent.tsv", consumer := { workers := 1 }
    publishing := { message := "hello", count := 2 } }

private def unattended : Client.Environment where
  fileError? := fun _ => none
  node? := fun _ => none
  gates := none
  signal := none
  wall := 0
  random := fun _ _ => 0

private def abrupt : Surroundings :=
  { Surroundings.alone .accepting (.ofScript [] false) with outside := [(0, .cancel)] }

/-- The client is cancelled when one message is counted as sent and not recorded yet, and the other
one is about to be sent. -/
private def abruptMotions : List Motion :=
  times
    [(1, .part .session), (16, .part .publisher), (6, .part (.task 0)), (1, .part .outside),
      (6, .part (.task 1)), (4, .part (.task 0)), (1, .part .publisher), (2, .part .session),
      (1, .part (.worker 0)), (1, .part .pump), (1, .part .session)]

theorem ledger_agrees_with_statistics_where_abrupt :
    ∃ past w report ledger, recorder.output.isSome = true ∧
      Silent (unattended.gates.getD Client.defaultGates) ∧
      History advance (ofClient recorder unattended abrupt) past w ∧
      w.sessionResult? = some (.ok report) ∧ report.exit = .interrupted ∧
        w.closeLedger.shared.ledger = some ledger ∧ report.stats.sent = 1 ∧
          ledger.lines.length = 1 ∧
            ∃ payload, w.shared.sink.payloads = [payload] ∧
              ledger.lines = ["\t".intercalate
                [recorder.tag, toString payload.length,
                  String.ofList (Digest.sha256Hex payload)]] := by
  have foreign : Silent (unattended.gates.getD Client.defaultGates) := by
    intro gate member delivery line
    simp only [unattended, Option.getD_none, Client.defaultGates, List.mem_cons,
      List.not_mem_nil, or_false] at member
    rcases member with rfl | rfl <;> cases delivery <;> simp [Gate.console, Gate.traceLog]
  have course :
      (replay advance (ofClient recorder unattended abrupt) abruptMotions).map (fun (_, w) =>
        (w.sessionResult?.bind Except.toOption).map fun report =>
          (report.exit, report.stats.sent)) =
      some (some (.interrupted, 1)) := by
    decide
  obtain ⟨⟨past, w⟩, replayed, course⟩ := Option.map_eq_some_iff.mp course
  simp only [Option.map_eq_some_iff, Option.bind_eq_some_iff, Prod.mk.injEq] at course
  obtain ⟨report, ⟨result, ended, succeeded⟩, exit, sent⟩ := course
  have history := History.ofReplay replayed
  cases result with
  | error error => cases succeeded
  | ok report' =>
      cases succeeded
      obtain ⟨ledger, closed, agrees⟩ :=
        ledger_agrees_with_statistics recorder unattended abrupt rfl foreign history ended
      obtain ⟨length, payloads, same, perm⟩ := agrees.published rfl
      rw [sent] at length
      have single : payloads.length = 1 := by
        rw [← length, perm.length_eq, List.length_map]
      obtain ⟨payload, rfl⟩ := List.length_eq_one_iff.mp single
      exact ⟨past, w, report, ledger, rfl, foreign, history, ended, exit, closed, sent, length,
        payload, same, List.perm_singleton.mp perm⟩

end World

end Courier
