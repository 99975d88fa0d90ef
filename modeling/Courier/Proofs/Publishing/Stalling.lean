import Courier.Proofs.Publishing.Accounts

/-! Publishing that was cancelled. It waits neither for the sink nor for a time any more: as long as
there is room for a line in the ledger, a send goes on until it has ended, and the publisher until
it has reported. -/

namespace Courier

variable {s : Shared}

theorem CreditWait.ended_of_stalled {wait : CreditWait} (cancelled : s.cancelled = true)
    (stalled : wait.step s = none) : ∃ found, wait = .ended found := by
  cases wait with
  | ended found => exact ⟨found, rfl⟩
  | looking => cases stalled
  | resting deadline =>
      simp only [step, cancelled, if_true] at stalled
      cases stalled

theorem SlotWait.ended_of_stalled {wait : SlotWait} (cancelled : s.cancelled = true)
    (stalled : wait.step s = none) : ∃ held, wait = .ended held := by
  cases wait with
  | ended held => exact ⟨held, rfl⟩
  | asking | queued =>
      simp only [step, cancelled, if_true] at stalled
      cases stalled
  | taken | raised => cases stalled

theorem Sending.ended_of_stalled {m : Sending} (cancelled : s.cancelled = true)
    (stalled : m.step s = none) : ∃ outcome, m.stage = .ended outcome := by
  cases stage : m.stage with
  | ended outcome => exact ⟨outcome, rfl⟩
  | wanting =>
      simp only [step, stage] at stalled
      split at stalled
      case isTrue => cases stalled
      case isFalse => split at stalled <;> cases stalled
  | refunded =>
      simp only [step, stage] at stalled
      split at stalled <;> cases stalled
  | starved | counted | transit | resting =>
      simp only [step, stage, cancelled, if_true] at stalled
      cases stalled
  | looking | charged | accepted | rewarded | refused =>
      simp only [step, stage] at stalled
      cases stalled

theorem SendTask.ended_of_stalled {task : SendTask} (cancelled : s.cancelled = true)
    (roomy : ∀ line, s.recordLine? line ≠ none) (admitted : task.Admitted)
    (stalled : task.step s = none) : task.isEnded = true := by
  cases stage : task.stage with
  | ended => simp only [isEnded, stage]
  | delayed | acquiring => simp [Admitted, stage] at admitted
  | sending m =>
      simp only [step, stage] at stalled
      split at stalled
      case h_1 => cases stalled
      case h_2 unended =>
          obtain ⟨outcome, ended⟩ :=
            Sending.ended_of_stalled cancelled (Option.map_eq_none_iff.mp stalled)
          exact (unended outcome ended).elim
  | lowering | returning =>
      simp only [step, stage] at stalled
      cases stalled
  | recording line =>
      simp only [step, stage] at stalled
      exact (roomy line (Option.map_eq_none_iff.mp stalled)).elim

variable {p : Publication} {tasks : List SendTask}

theorem Throttled.joining_of_stalled {t : Throttled} (cancelled : s.cancelled = true)
    (stalled : t.step p s = none) : t.stage = .joining := by
  cases stage : t.stage with
  | joining => rfl
  | admitting =>
      simp only [step, stage] at stalled
      cases stalled
  | pausing =>
      simp only [step, stage, cancelled, if_true] at stalled
      cases stalled
  | waiting wait =>
      cases wait with
      | ended found => cases found <;> simp [step, stage] at stalled
      | looking | resting =>
          simp only [step, stage] at stalled
          obtain ⟨_, same⟩ :=
            CreditWait.ended_of_stalled cancelled (Option.map_eq_none_iff.mp stalled)
          cases same
  | acquiring wait =>
      cases wait with
      | ended held => cases held <;> simp [step, stage] at stalled
      | asking | queued | taken | raised =>
          simp only [step, stage] at stalled
          obtain ⟨_, same⟩ :=
            SlotWait.ended_of_stalled cancelled (Option.map_eq_none_iff.mp stalled)
          cases same

theorem Unthrottled.ended_of_stalled {u : Unthrottled} (cancelled : s.cancelled = true)
    (roomy : ∀ line, s.recordLine? line ≠ none) (stalled : u.step p s = none) :
    u.stage = .ended := by
  cases stage : u.stage with
  | ended => rfl
  | checking =>
      simp only [step, stage, cancelled, if_true] at stalled
      split at stalled <;> cases stalled
  | counted | transit | pausing =>
      simp only [step, stage, cancelled, if_true] at stalled
      cases stalled
  | accepted | refused =>
      simp only [step, stage] at stalled
      cases stalled
  | recording line =>
      simp only [step, stage] at stalled
      exact (roomy line (Option.map_eq_none_iff.mp stalled)).elim

theorem Publisher.reported_of_stalled {publisher : Publisher} (cancelled : s.cancelled = true)
    (roomy : ∀ line, s.recordLine? line ≠ none) (done : ∀ task ∈ tasks, task.isEnded = true)
    (stalled : publisher.step p s tasks = none) : publisher.report?.isSome = true := by
  cases stage : publisher.stage with
  | ended => simp only [report?, stage, Option.isSome_some]
  | throttled t =>
      simp only [step, stage] at stalled
      split at stalled
      case h_1 => cases stalled
      case h_2 unreported =>
          have joining := Throttled.joining_of_stalled cancelled (Option.map_eq_none_iff.mp stalled)
          rw [Throttled.report?, if_pos ⟨joining, List.all_eq_true.mpr done⟩] at unreported
          cases unreported
  | unthrottled u =>
      simp only [step, stage] at stalled
      split at stalled
      case h_1 => cases stalled
      case h_2 unreported =>
          have ended :=
            Unthrottled.ended_of_stalled cancelled roomy (Option.map_eq_none_iff.mp stalled)
          rw [Unthrottled.report?, if_pos ended] at unreported
          cases unreported

end Courier
