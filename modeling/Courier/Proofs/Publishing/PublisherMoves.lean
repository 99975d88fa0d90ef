import Courier.Proofs.Publishing.TaskMoves
import Courier.Publishing.Publisher

/-! The steps of a publisher, with flow control and without it, one by one. -/

namespace Courier

namespace Throttled

def admitted (p : Publication) (s : Shared) (t : Throttled) : SendTask :=
  .admitted p.topic (p.payload s.nanos t.index) t.index
    (if p.records then .recorded p.sender else .logged) s.now

inductive Move (p : Publication) (s : Shared) (t : Throttled) :
    Shared → Throttled → Option SendTask → Prop where
  | find (stage : t.stage = .waiting (.ended true)) :
      Move p s t s (t.goto (.acquiring .asking)) none
  | giveUp (stage : t.stage = .waiting (.ended false)) :
      Move p s t s (t.goto .joining) none
  | wait {wait wait' : CreditWait}
      (stage : t.stage = .waiting wait) (moved : wait.step s = some wait') :
      Move p s t s (t.goto (.waiting wait')) none
  | hold (stage : t.stage = .acquiring (.ended true)) : Move p s t s (t.goto .admitting) none
  | leave (stage : t.stage = .acquiring (.ended false)) : Move p s t s (t.goto .joining) none
  | acquire {wait wait' : SlotWait} {s' : Shared}
      (stage : t.stage = .acquiring wait) (moved : wait.step s = some (s', wait')) :
      Move p s t s' (t.goto (.acquiring wait')) none
  | launch (stage : t.stage = .admitting) : Move p s t s (t.pause p s) (some (t.admitted p s))
  | quit {deadline : Nat}
      (stage : t.stage = .pausing deadline) (cancelled : s.cancelled = true) :
      Move p s t s (t.goto .joining) none
  | resume {deadline : Nat} (stage : t.stage = .pausing deadline)
      (active : s.cancelled = false) (due : deadline ≤ s.now) :
      Move p s t s ({ t with debt := .zero }.visit p (t.index + 1)) none

variable {p : Publication} {s s' : Shared} {t t' : Throttled} {started : Option SendTask}

private theorem move_of_wait {wait : CreditWait} (stage : t.stage = .waiting wait)
    (moved : (wait.step s).map
      (fun wait => ((s, t.goto (.waiting wait), none) : Shared × Throttled × Option SendTask)) =
        some (s', t', started)) :
    Move p s t s' t' started := by
  simp only [Option.map_eq_some_iff] at moved
  obtain ⟨wait', moved, same⟩ := moved
  cases same
  exact .wait stage moved

private theorem move_of_acquire {wait : SlotWait} (stage : t.stage = .acquiring wait)
    (moved : (wait.step s).map
      (fun (s, wait) =>
        ((s, t.goto (.acquiring wait), none) : Shared × Throttled × Option SendTask)) =
          some (s', t', started)) :
    Move p s t s' t' started := by
  simp only [Option.map_eq_some_iff, Prod.exists] at moved
  obtain ⟨shared, wait', moved, same⟩ := moved
  cases same
  exact .acquire stage moved

theorem move_of_step (moved : t.step p s = some (s', t', started)) :
    Move p s t s' t' started := by
  cases stage : t.stage with
  | waiting wait =>
      cases wait with
      | ended found =>
          cases found with
          | true =>
              simp only [step, stage] at moved
              cases moved
              exact .find stage
          | false =>
              simp only [step, stage] at moved
              cases moved
              exact .giveUp stage
      | looking | resting =>
          simp only [step, stage] at moved
          exact move_of_wait stage moved
  | acquiring wait =>
      cases wait with
      | ended held =>
          cases held with
          | true =>
              simp only [step, stage] at moved
              cases moved
              exact .hold stage
          | false =>
              simp only [step, stage] at moved
              cases moved
              exact .leave stage
      | asking | queued | taken | raised =>
          simp only [step, stage] at moved
          exact move_of_acquire stage moved
  | admitting =>
      simp only [step, stage] at moved
      cases moved
      exact .launch stage
  | pausing deadline =>
      simp only [step, stage] at moved
      cases cancelled : s.cancelled with
      | true =>
          rw [cancelled, if_pos rfl] at moved
          cases moved
          exact .quit stage cancelled
      | false =>
          rw [cancelled, if_neg Bool.false_ne_true] at moved
          split at moved
          case isTrue due =>
              cases moved
              exact .resume stage cancelled due
          case isFalse => cases moved
  | joining => simp [step, stage] at moved

end Throttled

namespace Unthrottled

inductive Move (p : Publication) (s : Shared) (u : Unthrottled) :
    Shared → Unthrottled → Prop where
  | finish (stage : u.stage = .checking) (done : p.count ≤ u.index) :
      Move p s u s (u.goto .ended)
  | quit (stage : u.stage = .checking) (more : u.index < p.count)
      (cancelled : s.cancelled = true) :
      Move p s u s (u.stop (p.count - u.index))
  | count (stage : u.stage = .checking) (more : u.index < p.count)
      (active : s.cancelled = false) :
      Move p s u (s.record .attempt) (u.goto (.counted (p.payload s.nanos u.index)))
  | forgo {payload : List UInt8}
      (stage : u.stage = .counted payload) (cancelled : s.cancelled = true) :
      Move p s u s (u.stop (p.count - u.index))
  | offer {payload : List UInt8}
      (stage : u.stage = .counted payload) (active : s.cancelled = false) :
      Move p s u (s.offer (.publish p.topic payload)).1
        (u.goto (.transit s.now payload (s.offer (.publish p.topic payload)).2))
  | withdraw {started : Nat} {payload : List UInt8} {transit : Transit}
      (stage : u.stage = .transit started payload transit) (cancelled : s.cancelled = true) :
      Move p s u s.withdraw (u.stop (p.count - u.index))
  | accept {started : Nat} {payload : List UInt8} {transit : Transit}
      (stage : u.stage = .transit started payload transit) (active : s.cancelled = false)
      (replied : transit.reply? s.now = some .accepted) :
      Move p s u (s.settle transit.command .accepted) (u.goto (.accepted started payload))
  | refuse {started : Nat} {payload : List UInt8} {transit : Transit} {error : StreamError}
      (stage : u.stage = .transit started payload transit) (active : s.cancelled = false)
      (replied : transit.reply? s.now = some (.failed error)) :
      Move p s u (s.settle transit.command (.failed error)) (u.goto (.refused error))
  | confirm {started : Nat} {payload : List UInt8} {s' : Shared}
      (stage : u.stage = .accepted started payload)
      (noted : s' = (s.record (.sent (s.elapsedSince started))).note
        (.published p.topic payload.length (Digest.sha256Hex payload))) :
      Move p s u s'
        (if p.records then
          { u with sent := u.sent + 1 }.goto (.recording (Ledger.publishLine p.sender payload))
        else { u with sent := u.sent + 1 }.advance p s')
  | record {line : String} {s' : Shared}
      (stage : u.stage = .recording line) (recorded : s.recordLine? line = some s') :
      Move p s u s' (u.advance p s')
  | drop {error : StreamError} (stage : u.stage = .refused error) :
      Move p s u ((s.record .dropped).note (.publishFailed u.index error))
        ({ u with dropped := u.dropped + 1 }.advance p (s.record .dropped))
  | halt {deadline : Nat}
      (stage : u.stage = .pausing deadline) (cancelled : s.cancelled = true) :
      Move p s u s (u.stop (p.count - u.index - 1))
  | resume {deadline : Nat} (stage : u.stage = .pausing deadline)
      (active : s.cancelled = false) (due : deadline ≤ s.now) :
      Move p s u s { u with index := u.index + 1, stage := .checking }

variable {p : Publication} {s s' : Shared} {u u' : Unthrottled}

theorem move_of_step (moved : u.step p s = some (s', u')) : Move p s u s' u' := by
  cases stage : u.stage with
  | checking =>
      simp only [step, stage] at moved
      by_cases done : p.count ≤ u.index
      · rw [if_pos done] at moved
        cases moved
        exact .finish stage done
      · rw [if_neg done] at moved
        have more := Nat.lt_of_not_le done
        cases cancelled : s.cancelled with
        | true =>
            rw [cancelled, if_pos rfl] at moved
            cases moved
            exact .quit stage more cancelled
        | false =>
            rw [cancelled, if_neg Bool.false_ne_true] at moved
            cases moved
            exact .count stage more cancelled
  | counted payload =>
      simp only [step, stage] at moved
      cases cancelled : s.cancelled with
      | true =>
          rw [cancelled, if_pos rfl] at moved
          cases moved
          exact .forgo stage cancelled
      | false =>
          rw [cancelled, if_neg Bool.false_ne_true] at moved
          cases moved
          exact .offer stage cancelled
  | transit started payload transit =>
      simp only [step, stage] at moved
      cases cancelled : s.cancelled with
      | true =>
          rw [cancelled, if_pos rfl] at moved
          cases moved
          exact .withdraw stage cancelled
      | false =>
          rw [cancelled, if_neg Bool.false_ne_true] at moved
          cases replied : transit.reply? s.now with
          | none => simp [replied] at moved
          | some reply =>
              cases reply with
              | accepted =>
                  simp only [replied] at moved
                  cases moved
                  exact .accept stage cancelled replied
              | failed error =>
                  simp only [replied] at moved
                  cases moved
                  exact .refuse stage cancelled replied
  | accepted started payload =>
      simp only [step, stage] at moved
      cases moved
      exact .confirm stage rfl
  | recording line =>
      simp only [step, stage, Option.map_eq_some_iff] at moved
      obtain ⟨shared, recorded, same⟩ := moved
      cases same
      exact .record stage recorded
  | refused error =>
      simp only [step, stage] at moved
      cases moved
      exact .drop stage
  | pausing deadline =>
      simp only [step, stage] at moved
      cases cancelled : s.cancelled with
      | true =>
          rw [cancelled, if_pos rfl] at moved
          cases moved
          exact .halt stage cancelled
      | false =>
          rw [cancelled, if_neg Bool.false_ne_true] at moved
          split at moved
          case isTrue due =>
              cases moved
              exact .resume stage cancelled due
          case isFalse => cases moved
  | ended => simp [step, stage] at moved

end Unthrottled

namespace Publisher

inductive Move (p : Publication) (s : Shared) (tasks : List SendTask) (publisher : Publisher) :
    Shared → Publisher → Option SendTask → Prop where
  | throttled {t t' : Throttled} {s' : Shared} {started : Option SendTask}
      (stage : publisher.stage = .throttled t)
      (moved : t.step p s = some (s', t', started)) :
      Move p s tasks publisher s' { publisher with stage := .throttled t' } started
  | unthrottled {u u' : Unthrottled} {s' : Shared}
      (stage : publisher.stage = .unthrottled u)
      (moved : u.step p s = some (s', u')) :
      Move p s tasks publisher s' { publisher with stage := .unthrottled u' } none
  | join {t : Throttled} {report : PublishReport} {broken : Nat}
      (stage : publisher.stage = .throttled t)
      (reported : t.report? p tasks (s.elapsedSince publisher.started) = some report)
      (counted : tasks.countP (·.outcome? = some .broken) = broken) :
      Move p s tasks publisher
        (publisher.finish p s broken report).1 (publisher.finish p s broken report).2 none
  | finish {u : Unthrottled} {report : PublishReport}
      (stage : publisher.stage = .unthrottled u)
      (reported : u.report? (s.elapsedSince publisher.started) = some report) :
      Move p s tasks publisher
        (publisher.finish p s 0 report).1 (publisher.finish p s 0 report).2 none

variable {p : Publication} {s s' : Shared} {tasks : List SendTask}
  {publisher publisher' : Publisher} {started : Option SendTask}

theorem move_of_step (moved : publisher.step p s tasks = some (s', publisher', started)) :
    Move p s tasks publisher s' publisher' started := by
  cases stage : publisher.stage with
  | throttled t =>
      simp only [step, stage] at moved
      cases reported : t.report? p tasks (s.elapsedSince publisher.started) with
      | some report =>
          simp only [reported] at moved
          cases moved
          exact .join stage reported rfl
      | none =>
          simp only [reported, Option.map_eq_some_iff, Prod.exists] at moved
          obtain ⟨shared, t', task, moved, same⟩ := moved
          cases same
          exact .throttled stage moved
  | unthrottled u =>
      simp only [step, stage] at moved
      cases reported : u.report? (s.elapsedSince publisher.started) with
      | some report =>
          simp only [reported] at moved
          cases moved
          exact .finish stage reported
      | none =>
          simp only [reported, Option.map_eq_some_iff, Prod.exists] at moved
          obtain ⟨shared, u', moved, same⟩ := moved
          cases same
          exact .unthrottled stage moved
  | ended report => simp [step, stage] at moved

theorem Move.started_cases (move : Move p s tasks publisher s' publisher' started) :
    started = none ∨
      ∃ t, publisher.stage = .throttled t ∧ t.stage = .admitting ∧ s' = s ∧
        publisher' = { publisher with stage := .throttled (t.pause p s) } ∧
          started = some (t.admitted p s) := by
  cases move with
  | throttled stage moved =>
      cases Throttled.move_of_step moved with
      | launch admitting => exact .inr ⟨_, stage, admitting, rfl, rfl, rfl⟩
      | find | giveUp | wait | hold | leave | acquire | quit | resume => exact .inl rfl
  | unthrottled | join | finish => exact .inl rfl

theorem stage_of_report? {report : PublishReport} (reported : publisher.report? = some report) :
    publisher.stage = .ended report := by
  unfold report? at reported
  split at reported
  case h_1 stage =>
      cases reported
      exact stage
  case h_2 => cases reported

end Publisher

end Courier
