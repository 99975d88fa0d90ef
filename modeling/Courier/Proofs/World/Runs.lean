import Courier.Client
import Courier.Proofs.World.Bookkeeping

/-! The runs that a program makes. Each turn of a part is some of its steps, and the clock goes on only
when no part can move, so that every run in virtual time is a history, up to its last moment. -/

namespace Courier

namespace World

structure Reached (start : World) (guard : Nat) (w : World) : Prop where
  history : ∃ past, History advance start past w
  inTime : w.shared.now ≤ guard

variable {start w w' : World} {guard : Nat}

theorem Reached.step {agent : Agent} (reached : Reached start guard w)
    (moved : w.step agent = some w') : Reached start guard w' := by
  obtain ⟨past, history⟩ := reached.history
  have moved : w.advance (.part agent) = some w' := moved
  refine ⟨⟨_, history.next moved⟩, ?_⟩
  rw [(move_of_advance moved).now_eq_of_part]
  exact reached.inTime

theorem Reached.setClock {now : Nat} (reached : Reached start guard w)
    (later : w.shared.now ≤ now) (early : now ≤ guard) :
    Reached start guard (w.setClock now) := by
  obtain ⟨past, history⟩ := reached.history
  have moved : w.advance (.clock now) = some (w.setClock now) := if_pos later
  exact ⟨⟨_, history.next moved⟩, early⟩

theorem Reached.exhaust (reached : Reached start guard w) (agent : Agent) (fuel : Nat) :
    Reached start guard (Run.exhaust agent fuel w) := by
  induction fuel generalizing w with
  | zero => exact reached
  | succ fuel induction =>
      rw [Run.exhaust]
      split
      case h_1 => exact reached
      case h_2 w' moved => exact induction (reached.step moved)

theorem Reached.exhaustAll (reached : Reached start guard w) (agents : List Agent) (fuel : Nat) :
    Reached start guard (agents.foldl (fun w agent => Run.exhaust agent fuel w) w) := by
  induction agents generalizing w with
  | nil => exact reached
  | cons agent agents induction => exact induction (reached.exhaust agent fuel)

variable {run run' : Run World Agent}

theorem Reached.turn (reached : Reached start guard run.state) (turned : run.turn? = some run') :
    Reached start guard run'.state := by
  obtain ⟨⟨before, agent, after⟩, picked, rfl⟩ := Option.map_eq_some_iff.mp turned
  exact reached.exhaust agent Run.stepLimit

private theorem clock_lt_of_nextTime? {time : Nat} (next : run.nextTime? = some time) :
    run.state.shared.now < time := by
  have member := List.min?_mem next
  exact of_decide_eq_true (List.mem_filter.mp member).2

theorem Reached.proceed (reached : Reached start guard run.state) (isDone : World → Bool)
    (fuel : Nat) : Reached start guard (run.proceed isDone guard fuel).state := by
  induction fuel generalizing run with
  | zero => exact reached
  | succ fuel induction =>
      rw [Run.proceed]
      split
      · exact reached
      · split
        case h_1 run' turned => exact induction (reached.turn turned)
        case h_2 =>
            split
            case h_1 time next =>
                have later := clock_lt_of_nextTime? next
                split
                case isTrue early =>
                    exact induction (reached.setClock (Nat.le_of_lt later) (Nat.le_of_lt early))
                case isFalse =>
                    exact (reached.setClock reached.inTime (Nat.le_refl _)).exhaustAll ..
            case h_2 => exact reached.setClock reached.inTime (Nat.le_refl _)

/-- Whatever it runs for, a client in virtual time goes through one of its histories. -/
theorem history_of_runUntil (isDone : World → Bool) (guard : Nat) (start : World) :
    ∃ past, History advance start past (runUntil (α := Agent) isDone guard start) := by
  have begun : Reached start (start.shared.now + guard) (Run.ofState (α := Agent) start).state :=
    ⟨⟨_, .start⟩, Nat.le_add_right ..⟩
  exact (begun.proceed isDone Run.turnLimit).history

theorem ledger_closeLedger (w : World) :
    w.closeLedger.shared.ledger = w.shared.ledger.map Ledger.drain := by
  unfold closeLedger
  split
  case h_1 absent => simp [absent]
  case h_2 present =>
      rw [present]
      rfl

end World

/-- What a client comes to at a node, and what is in its ledger then, is the end of a history of its
session. -/
theorem Client.history_of_runSession (config : Config) (env : Client.Environment) (node : Node) :
    ∃ past w,
      History World.advance (World.ofClient config env (surroundings config env node)) past w ∧
        (runSession config env node).result = resultOf w ∧
          (runSession config env node).ledger = w.closeLedger.shared.ledger := by
  obtain ⟨past, history⟩ := World.history_of_runUntil World.sessionEnded (Number.limit 64)
    (World.ofClient config env (surroundings config env node))
  refine ⟨past, _, history, rfl, ?_⟩
  simp only [runSession, World.ledger_closeLedger]
  rfl

end Courier
