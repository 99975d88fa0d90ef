import Courier.Proofs.Publishing.Ceasing
import Courier.Proofs.Publishing.Fates
import Courier.Proofs.World.Concurrency
import Courier.Proofs.World.Endings

/-! What becomes of the messages of a client whose sink settles each of them at its first attempt.
It is the same with flow control and without it, however the parts of the client take turns. -/

namespace Courier

namespace World

variable {config : Config} {around : Surroundings} {past : List (Transition World Motion)}
  {start w w' : World} {motion : Motion} {fate : Nat → Reply} {count base : Nat}

structure Fated (fate : Nat → Reply) (past : List (Transition World Motion)) (w : World) :
    Prop where
  publisher : ∀ publisher, w.publisher = some publisher →
    publisher.Fated w.publication fate w.tasks (landings past)
  retried : w.shared.outlay.retried = 0

private theorem Fated.elsewhere (fated : Fated fate past w) (aside : Aside w w') :
    Fated fate (past ++ [⟨w, motion, w'⟩]) w' where
  publisher := by
    rw [landings_append, landed?_of_sink aside.sink, Option.toList_none, List.append_nil,
      aside.publication, aside.publisher, aside.tasks]
    exact fated.publisher
  retried := aside.outlay ▸ fated.retried

private theorem decided_of_unoffered {held next : Option Offer}
    (decided : ∀ offer, (if held.isSome then none else next) = some offer → offer.Decided fate) :
    ∀ offer, held = none → next = some offer → offer.Decided fate := by
  rintro offer rfl offered
  exact decided offer offered

theorem Move.fated (move : Move w motion w') (active : w.shared.cancelled = false)
    (accounted : w.Accounted count base)
    (unbroken : ∀ task ∈ w.tasks, task.posting.outcome ≠ some .broken)
    (untroubled : ∃ publisher, w.publisher = some publisher ∧
      publisher.Untroubled w.publication w.tasks)
    (numbered : w.Numbered) (final : ∀ index, (fate index).IsFinal w.shared.flow)
    (decided : ∀ offer, offered? ⟨w, motion, w'⟩ = some offer → offer.Decided fate)
    (fated : Fated fate past w) :
    Fated fate (past ++ [⟨w, motion, w'⟩]) w' := by
  obtain ⟨publisher, present, books⟩ := accounted.publisher
  have expected := fated.publisher publisher present
  rcases move.publishing_cases accounted with aside | rfl | ⟨place, rfl⟩
  · exact fated.elsewhere aside
  · cases move with
    | publisher running moved =>
        rename_i publisher' shared started
        obtain ⟨_, running', untroubled⟩ := untroubled
        cases present.symm.trans running
        cases present.symm.trans running'
        rw [offered?_publisher running moved] at decided
        obtain ⟨next, retried⟩ := (Publisher.move_of_step moved).fated active books untroubled
          unbroken numbered (decided_of_unoffered decided) expected
        refine ⟨?_, retried.trans fated.retried⟩
        rintro _ ⟨⟩
        rw [landings_append, landed?_publisher running moved]
        exact next
  · cases move with
    | task running moved =>
        rename_i task task' shared
        rw [offered?_task running moved] at decided
        obtain ⟨next, retried⟩ :=
          expected.advance books final running moved (decided_of_unoffered decided)
        refine ⟨?_, retried.trans fated.retried⟩
        intro publisher' running'
        cases present.symm.trans running'
        have landing : (if task.lands task' then some task.index else none).toList =
            if task.lands task' then [task.index] else [] := by
          split <;> rfl
        rw [landings_append, landed?_task running moved, landing]
        exact next

/-- Two clients have come to the same, each with one attempt at each message. -/
structure Alike (count : Nat) (past past' : List (Transition World Motion)) (w w' : World)
    (report report' : PublishReport) : Prop where
  sent : report.sent = report'.sent
  dropped : report.dropped = report'.dropped
  cancelled : report.cancelled = 0 ∧ report'.cancelled = 0
  attempts : w.shared.stats.sendAttempts = count ∧ w'.shared.stats.sendAttempts = count
  retried : w.shared.stats.retried = 0 ∧ w'.shared.stats.retried = 0
  landings : (landings past).Perm (landings past')

end World

end Courier
