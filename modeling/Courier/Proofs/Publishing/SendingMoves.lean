import Courier.Publishing.Sending

/-! The steps of a send, one by one. What is proved of a send goes through these, so that the step
function is taken apart only here. -/

namespace Courier

theorem Shared.overflows_iff {s : Shared} :
    s.overflows = true ↔ s.checked = true ∧ s.flow.maxRetries = 4294967295 := by
  have bound := s.flow.maxRetries.toNat_lt
  rw [overflows, Bool.and_eq_true, decide_eq_true_eq]
  refine and_congr_right fun _ => ?_
  rw [Config.FlowControl.attempts, ← UInt32.toNat_inj, ← UInt32.toNat_inj, UInt32.toNat_add]
  simp only [UInt32.reduceToNat]
  omega

theorem Shared.overflows_eq_false {s : Shared}
    (fits : s.checked = true → s.flow.maxRetries ≠ 4294967295) : s.overflows = false := by
  rw [← Bool.not_eq_true, overflows_iff]
  exact fun overflowed => fits overflowed.1 overflowed.2

namespace Sending

/-- `Move s m s' m'`: with the others in the state `s`, the send `m` can go on to `m'`, and leaves
the others in the state `s'`. -/
inductive Move (s : Shared) (m : Sending) : Shared → Sending → Prop where
  | crash (stage : m.stage = .wanting) (overflows : s.overflows = true)
      (first : m.attempt = 1) :
      Move s m s (m.goto (.ended .broken))
  | charge {credits : CreditPool}
      (stage : m.stage = .wanting) (taken : s.credits.take? = some credits) :
      Move s m { s with credits } (m.goto .charged)
  | miss (stage : m.stage = .wanting) (empty : s.credits.take? = none) :
      Move s m s (m.goto .looking)
  | find (stage : m.stage = .looking) (found : 0 < s.credits.available) :
      Move s m s (m.goto .wanting)
  | abandon (stage : m.stage = .looking) (cancelled : s.cancelled = true) :
      Move s m s (m.goto (.ended .cancelled))
  | starve (stage : m.stage = .looking) (active : s.cancelled = false) :
      Move s m s (m.goto (.starved (s.after s.flow.pollInterval)))
  | despair {deadline : Nat}
      (stage : m.stage = .starved deadline) (cancelled : s.cancelled = true) :
      Move s m s (m.goto (.ended .cancelled))
  | wake {deadline : Nat} (stage : m.stage = .starved deadline) (due : deadline ≤ s.now) :
      Move s m s (m.goto .looking)
  | count (stage : m.stage = .charged) : Move s m (s.record .attempt) (m.goto .counted)
  | forgo (stage : m.stage = .counted) (cancelled : s.cancelled = true) :
      Move s m (s.addCredits 1) (m.goto (.ended .cancelled))
  | offer (stage : m.stage = .counted) (active : s.cancelled = false) :
      Move s m (s.offer m.command).1 (m.goto (.transit (s.offer m.command).2))
  | withdraw {transit : Transit}
      (stage : m.stage = .transit transit) (cancelled : s.cancelled = true) :
      Move s m (s.withdraw.addCredits 1) (m.goto (.ended .cancelled))
  | accept {transit : Transit}
      (stage : m.stage = .transit transit) (active : s.cancelled = false)
      (replied : transit.reply? s.now = some .accepted) :
      Move s m (s.settle transit.command .accepted) (m.goto .accepted)
  | refuse {transit : Transit} {error : StreamError}
      (stage : m.stage = .transit transit) (active : s.cancelled = false)
      (replied : transit.reply? s.now = some (.failed error)) :
      Move s m (s.settle transit.command (.failed error)) (m.goto (.refused error))
  | reward (stage : m.stage = .accepted) :
      Move s m (s.addCredits s.flow.creditIncrement) (m.goto .rewarded)
  | confirm (stage : m.stage = .rewarded) :
      Move s m (s.record (.sent (s.elapsedSince m.started))) (m.goto (.ended .sent))
  | refund {error : StreamError} (stage : m.stage = .refused error) :
      Move s m (s.addCredits 1) (m.goto (.refunded error))
  | drop {error : StreamError} (stage : m.stage = .refunded error)
      (final : (m.isLast s.flow || !error.isRetriable) = true) :
      Move s m ((s.note (.messageDropped m.index m.counter.toNat error)).record .dropped)
        (m.goto (.ended .dropped))
  | retry {error : StreamError} (stage : m.stage = .refunded error)
      (more : (m.isLast s.flow || !error.isRetriable) = false) :
      Move s m
        ((s.note (.sendFailed m.index m.counter.toNat s.flow.attempts.toNat error
          s.flow.retryDelay)).record .retry)
        { m with attempt := m.attempt + 1, stage := .resting (s.after s.flow.retryDelay) }
  | yield {deadline : Nat}
      (stage : m.stage = .resting deadline) (cancelled : s.cancelled = true) :
      Move s m s (m.goto (.ended .cancelled))
  | again {deadline : Nat} (stage : m.stage = .resting deadline)
      (active : s.cancelled = false) (due : deadline ≤ s.now) :
      Move s m s (m.goto .wanting)

variable {s s' : Shared} {m m' : Sending}

theorem move_of_step (moved : m.step s = some (s', m')) : Move s m s' m' := by
  cases stage : m.stage with
  | wanting =>
      simp only [step, stage] at moved
      split at moved
      case isTrue broken =>
          cases moved
          exact .crash stage broken.2 broken.1
      case isFalse =>
          cases taken : s.credits.take? with
          | none =>
              simp only [taken] at moved
              cases moved
              exact .miss stage taken
          | some credits =>
              simp only [taken] at moved
              cases moved
              exact .charge stage taken
  | looking =>
      simp only [step, stage] at moved
      by_cases found : 0 < s.credits.available
      · rw [if_pos found] at moved
        cases moved
        exact .find stage found
      · rw [if_neg found] at moved
        cases cancelled : s.cancelled with
        | true =>
            rw [cancelled, if_pos rfl] at moved
            cases moved
            exact .abandon stage cancelled
        | false =>
            rw [cancelled, if_neg Bool.false_ne_true] at moved
            cases moved
            exact .starve stage cancelled
  | starved deadline =>
      simp only [step, stage] at moved
      split at moved
      case isTrue cancelled =>
          cases moved
          exact .despair stage cancelled
      case isFalse =>
          split at moved
          case isTrue due =>
              cases moved
              exact .wake stage due
          case isFalse => cases moved
  | charged =>
      simp only [step, stage] at moved
      cases moved
      exact .count stage
  | counted =>
      simp only [step, stage] at moved
      cases cancelled : s.cancelled with
      | true =>
          rw [cancelled, if_pos rfl] at moved
          cases moved
          exact .forgo stage cancelled
      | false =>
          rw [cancelled, if_neg Bool.false_ne_true] at moved
          cases moved
          exact .offer stage cancelled
  | transit transit =>
      simp only [step, stage] at moved
      cases cancelled : s.cancelled with
      | true =>
          rw [cancelled, if_pos rfl] at moved
          cases moved
          exact .withdraw stage cancelled
      | false =>
          rw [cancelled, if_neg Bool.false_ne_true] at moved
          cases replied : transit.reply? s.now with
          | none => simp [replied] at moved
          | some reply =>
              cases reply with
              | accepted =>
                  simp only [replied] at moved
                  cases moved
                  exact .accept stage cancelled replied
              | failed error =>
                  simp only [replied] at moved
                  cases moved
                  exact .refuse stage cancelled replied
  | accepted =>
      simp only [step, stage] at moved
      cases moved
      exact .reward stage
  | rewarded =>
      simp only [step, stage] at moved
      cases moved
      exact .confirm stage
  | refused error =>
      simp only [step, stage] at moved
      cases moved
      exact .refund stage
  | refunded error =>
      simp only [step, stage] at moved
      cases final : m.isLast s.flow || !error.isRetriable with
      | true =>
          rw [final, if_pos rfl] at moved
          cases moved
          exact .drop stage final
      | false =>
          rw [final, if_neg Bool.false_ne_true] at moved
          cases moved
          exact .retry stage final
  | resting deadline =>
      simp only [step, stage] at moved
      cases cancelled : s.cancelled with
      | true =>
          rw [cancelled, if_pos rfl] at moved
          cases moved
          exact .yield stage cancelled
      | false =>
          rw [cancelled, if_neg Bool.false_ne_true] at moved
          split at moved
          case isTrue due =>
              cases moved
              exact .again stage cancelled due
          case isFalse => cases moved
  | ended outcome => simp [step, stage] at moved

end Sending

end Courier
