import Courier.Proofs.Publishing.SendingMoves
import Courier.Publishing.Task

/-! The steps of a send that runs beside others, one by one. -/

namespace Courier

theorem SlotWait.slots_of_step {s s' : Shared} {wait wait' : SlotWait}
    (moved : wait.step s = some (s', wait')) :
    ∃ slots, s' = { s with slots } := by
  cases wait with
  | asking =>
      simp only [step] at moved
      split at moved
      case isTrue =>
          cases moved
          exact ⟨_, rfl⟩
      case isFalse =>
          cases moved
          exact ⟨_, rfl⟩
  | queued ticket =>
      simp only [step] at moved
      split at moved
      case isTrue =>
          cases moved
          exact ⟨_, rfl⟩
      case isFalse =>
          simp only [Option.map_eq_some_iff] at moved
          obtain ⟨slots, _, same⟩ := moved
          cases same
          exact ⟨slots, rfl⟩
  | taken | raised =>
      cases moved
      exact ⟨_, rfl⟩
  | ended held => cases moved

theorem Shared.ledger_of_recordLine {s s' : Shared} {line : String}
    (recorded : s.recordLine? line = some s') :
    ∃ ledger, s' = { s with ledger } := by
  unfold recordLine? at recorded
  split at recorded
  · cases recorded
    exact ⟨s.ledger, rfl⟩
  · simp only [Option.map_eq_some_iff] at recorded
    obtain ⟨ledger, _, same⟩ := recorded
    exact ⟨some ledger, same.symm⟩

namespace SendTask

theorem log_of_finish {s s' : Shared} {task task' : SendTask} {outcome : SendOutcome}
    (finished : task.finish s outcome = (s', task')) :
    ∃ log, s' = { s with log } := by
  unfold finish at finished
  split at finished <;> cases finished <;> exact ⟨_, rfl⟩

inductive Move (s : Shared) (task : SendTask) : Shared → SendTask → Prop where
  | begin {deadline : Nat}
      (stage : task.stage = .delayed deadline) (due : deadline ≤ s.now) :
      Move s task s (task.goto (.acquiring .asking))
  | enter (stage : task.stage = .acquiring (.ended true)) :
      Move s task s (task.goto (.sending (.start task.topic task.payload task.index s.now)))
  | leave (stage : task.stage = .acquiring (.ended false)) :
      Move s task s (task.goto (.ended none s.now))
  | wait {wait wait' : SlotWait} {s' : Shared}
      (stage : task.stage = .acquiring wait) (moved : wait.step s = some (s', wait')) :
      Move s task s' (task.goto (.acquiring wait'))
  | send {m m' : Sending} {s' : Shared}
      (stage : task.stage = .sending m) (moved : m.step s = some (s', m')) :
      Move s task s' (task.goto (.sending m'))
  | conclude {m : Sending} {outcome : SendOutcome}
      (stage : task.stage = .sending m) (ended : m.stage = .ended outcome) :
      Move s task s (task.goto (.lowering outcome))
  | lower {outcome : SendOutcome} (stage : task.stage = .lowering outcome) :
      Move s task { s with slots := s.slots.lower } (task.goto (.returning outcome))
  | finish {outcome : SendOutcome} {s' : Shared} {task' : SendTask}
      (stage : task.stage = .returning outcome)
      (finished : task.finish { s with slots := s.slots.giveBack } outcome = (s', task')) :
      Move s task s' task'
  | record {line : String} {s' : Shared}
      (stage : task.stage = .recording line) (recorded : s.recordLine? line = some s') :
      Move s task s' (task.goto (.ended (some .sent) s'.now))

variable {s s' : Shared} {task task' : SendTask}

private theorem move_of_wait {wait : SlotWait} (stage : task.stage = .acquiring wait)
    (moved : (wait.step s).map (fun (s, wait) => (s, task.goto (.acquiring wait))) =
      some (s', task')) :
    Move s task s' task' := by
  simp only [Option.map_eq_some_iff, Prod.exists] at moved
  obtain ⟨shared, wait', moved, same⟩ := moved
  cases same
  exact .wait stage moved

theorem move_of_step (moved : task.step s = some (s', task')) : Move s task s' task' := by
  cases stage : task.stage with
  | delayed deadline =>
      simp only [step, stage] at moved
      split at moved
      case isTrue due =>
          cases moved
          exact .begin stage due
      case isFalse => cases moved
  | acquiring wait =>
      cases wait with
      | ended held =>
          cases held with
          | true =>
              simp only [step, stage] at moved
              cases moved
              exact .enter stage
          | false =>
              simp only [step, stage] at moved
              cases moved
              exact .leave stage
      | asking | queued | taken | raised =>
          simp only [step, stage] at moved
          exact move_of_wait stage moved
  | sending m =>
      simp only [step, stage] at moved
      split at moved
      case h_1 outcome ended =>
          cases moved
          exact .conclude stage ended
      case h_2 =>
          simp only [Option.map_eq_some_iff, Prod.exists] at moved
          obtain ⟨shared, m', moved, same⟩ := moved
          cases same
          exact .send stage moved
  | lowering outcome =>
      simp only [step, stage] at moved
      cases moved
      exact .lower stage
  | returning outcome =>
      simp only [step, stage] at moved
      exact .finish stage (Option.some.inj moved)
  | recording line =>
      simp only [step, stage, Option.map_eq_some_iff] at moved
      obtain ⟨shared, recorded, same⟩ := moved
      cases same
      exact .record stage recorded
  | ended outcome time => simp [step, stage] at moved

end SendTask

end Courier
