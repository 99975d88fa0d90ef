import Mathlib.Data.List.Perm.Basic
import Courier.Proofs.Ledger.Reading
import Courier.Proofs.World.Recording

/-! What is read out of the ledger of a session: one receipt for each message that was received, as
long as no message is garbled. -/

namespace Courier

theorem linesOf_receipts {before after : List Gate} (others : Silent (before ++ after))
    (receiver : String) (delivery : Delivery) :
    linesOf (before ++ .ledger receiver :: after) delivery =
      delivery.envelope?.toList.map (Ledger.lineOf receiver ·.message) := by
  have silent := others.linesOf delivery
  rw [linesOf_append, List.append_eq_nil_iff] at silent
  rw [linesOf_append, ← List.singleton_append, linesOf_append, silent.1, silent.2,
    linesOf_ledger, List.nil_append, List.append_nil]
  rfl

namespace World

variable {config : Config} {around : Surroundings} {before after : List Gate} {receiver : String}
  {past : List (Transition World Motion)} {w : World}

private theorem written_of_history (created : around.ledger = some (.create Ledger.receiveHeader))
    (others : Silent (before ++ after))
    (history : History advance
      (ofSession config around false (before ++ .ledger receiver :: after)) past w) :
    ∃ (ledger : Ledger) (written queued owed : List (List UInt8)),
      w.shared.ledger = some ledger ∧ ledger.header = Ledger.receiveHeader ∧
      (written ++ (queued ++ owed)).Perm ((decoded past).map (·.message)) ∧
      ledger.lines = written.map (Ledger.lineOf receiver) ∧
      ledger.queue = queued.map (Ledger.lineOf receiver) ∧
      w.owed = owed.map (Ledger.lineOf receiver) := by
  obtain ⟨_, kept, landed, balanced⟩ := recorded_of_history created history
  obtain ⟨publication, passed⟩ := fixed_of_history history
  obtain ⟨ledger, present, header⟩ := Option.map_eq_some_iff.mp kept
  have entries : w.shared.deposit.entries = ledger.lines ++ ledger.queue := by
    rw [Shared.deposit, present]
    rfl
  have silent : landed.flatMap w.publication.lines = [] := by
    rw [publication, ofSession_eq]
    exact List.flatMap_eq_nil_iff.mpr fun _ _ => rfl
  have due : linesOf w.gates =
      fun delivery => delivery.envelope?.toList.map (Ledger.lineOf receiver ·.message) := by
    rw [passed, ofSession_eq]
    exact funext (linesOf_receipts others receiver)
  have perm : (ledger.lines ++ (ledger.queue ++ w.owed)).Perm
      (((decoded past).map (·.message)).map (Ledger.lineOf receiver)) := by
    rw [List.perm_iff_count]
    intro line
    have balance := balanced.balance line
    rw [entries, silent, due, List.nil_append, ← List.map_flatMap,
      ← List.filterMap_eq_flatMap_toList, envelopes_found] at balance
    rw [List.map_map, ← List.append_assoc]
    exact balance
  obtain ⟨messages, same, perm⟩ :=
    (congrFun (congrFun (List.eq_map_comp_perm (Ledger.lineOf receiver)) _) _).mpr perm
  obtain ⟨written, rest, rfl, lines, same⟩ := List.append_eq_map_iff.mp same
  obtain ⟨queued, owed, rfl, queue, owes⟩ := List.append_eq_map_iff.mp same.symm
  exact ⟨ledger, written, queued, owed, present, header, perm, lines.symm, queue.symm, owes.symm⟩

/-- At every moment of a session its ledger has a line for each message of some that were received,
and when it is closed after the session it has one for each that was received. Each line reads back
as the receipt of its message, but where that is garbled. -/
theorem ledger_reads_back (plain : Ledger.IsPlain receiver.toList)
    (created : around.ledger = some (.create Ledger.receiveHeader))
    (others : Silent (before ++ after))
    (history : History advance
      (ofSession config around false (before ++ .ledger receiver :: after)) past w) :
    ∃ (ledger : Ledger) (written pending : List (List UInt8)), w.shared.ledger = some ledger ∧
      (written ++ pending).Perm ((decoded past).map (·.message)) ∧
      ledger.ReadsBack receiver written ∧
      ∀ result, w.session = some (.ended result) →
        ∃ closed, w.closeLedger.shared.ledger = some closed ∧
          closed.ReadsBack receiver (written ++ pending) := by
  obtain ⟨ledger, written, queued, owed, present, header, perm, lines, queue, owes⟩ :=
    written_of_history created others history
  refine ⟨ledger, written, queued ++ owed, present, perm,
    Ledger.readsBack_of_lines plain header lines, ?_⟩
  intro result ended
  have none : owed = [] := by
    rw [owed_of_ended history ended] at owes
    exact List.map_eq_nil_iff.mp owes.symm
  refine ⟨ledger.drain, ?_, Ledger.readsBack_of_lines plain header ?_⟩
  · simp only [closeLedger, present]
    rfl
  · rw [Ledger.drain, lines, queue, none, List.append_nil, List.map_append]

private def reader : Config := { topic := "news", consumer := { workers := 1 } }

private def bringing (message : List UInt8) : Surroundings :=
  { Surroundings.alone .accepting
      (.ofScript [(0, .frame (Feed.echoOf "news" message)), (0, .ended)] false) with
    ledger := some (.create Ledger.receiveHeader) }

private def bringingMotions : List Motion :=
  times
    [(2, .part .session), (4, .part .pump), (9, .part (.worker 0)), (1, .part .writer),
      (4, .part .session)]

private def signed : List UInt8 := [120, 45, 102, 102]

theorem ledger_reads_back_where_signed :
    ∃ past w result closed, Ledger.IsPlain "node-b".toList ∧
      (bringing signed).ledger = some (.create Ledger.receiveHeader) ∧
      Silent ([] ++ []) ∧
      History advance (ofSession reader (bringing signed) false ([] ++ [.ledger "node-b"])) past w ∧
      w.session = some (.ended result) ∧ (decoded past).map (·.message) = [signed] ∧
      w.closeLedger.shared.ledger = some closed ∧
      Ledger.recordsOf closed.content =
        [Ledger.receiveFields, Ledger.receipt "node-b" signed] := by
  have plain : Ledger.IsPlain "node-b".toList := by decide
  have others : Silent ([] ++ []) := nofun
  have course :
      (replay advance (ofSession reader (bringing signed) false ([] ++ [.ledger "node-b"]))
        bringingMotions).map (fun (past, w) =>
          (w.sessionEnded, (decoded past).map (·.message))) =
      some (true, [signed]) := by
    decide +kernel
  obtain ⟨⟨past, w⟩, replayed, course⟩ := Option.map_eq_some_iff.mp course
  simp only [Prod.mk.injEq] at course
  obtain ⟨ended, messages⟩ := course
  have history := History.ofReplay replayed
  obtain ⟨result, ended⟩ := Option.isSome_iff_exists.mp ended
  have ended := session_of_sessionResult? ended
  obtain ⟨_, written, pending, _, perm, _, close⟩ := ledger_reads_back plain rfl others history
  obtain ⟨closed, present, back⟩ := close result ended
  rw [messages, List.perm_singleton] at perm
  rw [perm] at back
  refine ⟨past, w, result, closed, plain, rfl, others, history, ended, messages, present, ?_⟩
  apply back.file.mpr
  rw [List.forall_mem_singleton, ← Ledger.isPlain_publisherOf]
  decide +kernel

private def torn : List UInt8 := [120, 10, 121, 45, 102, 102]

/-- The receipt of one message makes two lines of the file, and neither has four fields. -/
theorem receipt_torn :
    ∃ past w closed, Ledger.IsPlain "node-b".toList ∧
      History advance (ofSession reader (bringing torn) false [.ledger "node-b"]) past w ∧
      w.sessionEnded = true ∧ (decoded past).map (·.message) = [torn] ∧
      w.closeLedger.shared.ledger = some closed ∧
      (Ledger.recordsOf closed.content).map List.length = [4, 2, 3] := by
  have course :
      (replay advance (ofSession reader (bringing torn) false [.ledger "node-b"])
        bringingMotions).map (fun (past, w) =>
          (w.sessionEnded, (decoded past).map (·.message),
            w.closeLedger.shared.ledger.map fun closed =>
              (Ledger.recordsOf closed.content).map List.length)) =
      some (true, [torn], some [4, 2, 3]) := by
    decide +kernel
  obtain ⟨⟨past, w⟩, replayed, course⟩ := Option.map_eq_some_iff.mp course
  simp only [Prod.mk.injEq, Option.map_eq_some_iff] at course
  obtain ⟨ended, messages, closed, present, fields⟩ := course
  exact ⟨past, w, closed, by decide, History.ofReplay replayed, ended, messages, present, fields⟩

end World

end Courier
