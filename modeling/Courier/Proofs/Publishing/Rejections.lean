import Courier.Proofs.Publishing.Retries

/-! What a send does once an attempt of it has failed, by the error. It gives up on an error that no
other attempt can mend, and with its last attempt; otherwise it rests and tries again. -/

namespace Courier

namespace Sending

variable {s s' : Shared} {m m' : Sending} {error : StreamError}

theorem step_refused (stage : m.stage = .refused error) :
    m.step s = some (s.addCredits 1, m.goto (.refunded error)) := by
  simp only [step, stage]

theorem step_refunded_final (stage : m.stage = .refunded error)
    (final : (m.isLast s.flow || !error.isRetriable) = true) :
    m.step s = some ((s.note (.messageDropped m.index m.counter.toNat error)).record
      .dropped,
      m.goto (.ended .dropped)) := by
  simp only [step, stage, final, if_true]

theorem step_refunded_more (stage : m.stage = .refunded error)
    (more : (m.isLast s.flow || !error.isRetriable) = false) :
    m.step s = some
      ((s.note (.sendFailed m.index m.counter.toNat s.flow.attempts.toNat error
        s.flow.retryDelay)).record .retry,
      { m with attempt := m.attempt + 1, stage := .resting (s.after s.flow.retryDelay) }) := by
  simp only [step, stage, more, Bool.false_eq_true, if_false]

theorem Move.onward (move : Move s m s' m') :
    m.attempt ≤ m'.attempt ∧ s.stats.retried ≤ s'.stats.retried := by
  cases move with
  | retry => exact ⟨Nat.le_succ _, Nat.le_succ _⟩
  | crash | charge | miss | find | abandon | starve | despair | wake | count | forgo | offer
  | withdraw | accept | refuse | reward | confirm | refund | drop | yield | again =>
      exact ⟨Nat.le_refl _, Nat.le_refl _⟩

end Sending

namespace Errand

def failure? (made : Transition Errand Act) : Option StreamError :=
  match made.label, made.after.sending.stage with
  | .advance, .refused error => some error
  | _, _ => none

def own (past : List (Transition Errand Act)) : Nat :=
  past.countP fun made =>
    match made.label with
    | .advance => true
    | .elsewhere _ => false

/-- `Phase flow error failed own retried m`: what became of the send `failed`, whose attempt has
failed, after so many steps of its own, and how many retries were counted with them. -/
inductive Phase (flow : Config.FlowControl) (error : StreamError) (failed : Sending) :
    Nat → Int → Sending → Prop where
  | refused : Phase flow error failed 0 0 failed
  | refunded : Phase flow error failed 1 0 (failed.goto (.refunded error))
  | dropped (final : (failed.isLast flow || !error.isRetriable) = true) :
      Phase flow error failed 2 0 (failed.goto (.ended .dropped))
  | resting (more : (failed.isLast flow || !error.isRetriable) = false) (deadline : Nat) :
      Phase flow error failed 2 1
        { failed with attempt := failed.attempt + 1, stage := .resting deadline }
  | further {own : Nat} {retried : Int} {m : Sending}
      (more : (failed.isLast flow || !error.isRetriable) = false) (late : 2 < own)
      (counted : 1 ≤ retried) (attempt : failed.attempt < m.attempt) :
      Phase flow error failed own retried m

section

variable {flow : Config.FlowControl} {error : StreamError} {failed m m' : Sending} {s s' : Shared}
  {steps : Nat} {retried : Int} {past : List (Transition Errand Act)} {e e' : Errand} {act : Act}

private theorem cast_add_one_sub (n : Nat) : (n : Int) + 1 - n = 1 := by omega

theorem Phase.advance (phase : Phase s.flow error failed steps retried m)
    (stage : failed.stage = .refused error) (moved : m.step s = some (s', m')) :
    Phase s.flow error failed (steps + 1)
      (retried + ((s'.stats.retried : Int) - s.stats.retried)) m' := by
  cases phase with
  | refused =>
      have moved := (Sending.step_refused stage).symm.trans moved
      simp only [Option.some.injEq, Prod.mk.injEq] at moved
      obtain ⟨rfl, rfl⟩ := moved
      have phase : Phase s.flow error failed 1 0 (failed.goto (.refunded error)) := .refunded
      simpa [Shared.addCredits] using phase
  | refunded =>
      cases final : failed.isLast s.flow || !error.isRetriable with
      | true =>
          have moved := (Sending.step_refunded_final (m := failed.goto (.refunded error)) rfl
            final).symm.trans moved
          simp only [Option.some.injEq, Prod.mk.injEq] at moved
          obtain ⟨rfl, rfl⟩ := moved
          simpa [Shared.note, Shared.record, Statistics.record, Sending.goto] using
            Phase.dropped final
      | false =>
          have moved := (Sending.step_refunded_more (m := failed.goto (.refunded error)) rfl
            final).symm.trans moved
          simp only [Option.some.injEq, Prod.mk.injEq] at moved
          obtain ⟨rfl, rfl⟩ := moved
          simpa [Shared.note, Shared.record, Statistics.record, Sending.goto,
            cast_add_one_sub] using Phase.resting final (s.after s.flow.retryDelay)
  | dropped => simp [Sending.step, Sending.goto] at moved
  | resting more deadline =>
      have onward := (Sending.move_of_step moved).onward
      refine .further more (Nat.lt_succ_self 2) ?_ (Nat.lt_of_succ_le onward.1)
      omega
  | further more late counted attempt =>
      have onward := (Sending.move_of_step moved).onward
      refine .further more (Nat.lt_succ_of_lt late) ?_ (Nat.lt_of_lt_of_le attempt onward.1)
      omega

theorem Phase.early (phase : Phase flow error failed steps retried m) (early : steps < 2) :
    m = failed ∨ m = failed.goto (.refunded error) := by
  cases phase with
  | refused => exact .inl rfl
  | refunded => exact .inr rfl
  | dropped | resting => exact absurd early (Nat.lt_irrefl 2)
  | further _ late => exact absurd early (Nat.lt_asymm late)

theorem Phase.given_up (phase : Phase flow error failed steps retried m) (late : 2 ≤ steps)
    (final : (failed.isLast flow || !error.isRetriable) = true) :
    m = failed.goto (.ended .dropped) := by
  cases phase with
  | refused | refunded => omega
  | dropped => rfl
  | resting more | further more => cases final.symm.trans more

theorem Phase.tried_again (phase : Phase flow error failed steps retried m) (late : 2 ≤ steps)
    (more : (failed.isLast flow || !error.isRetriable) = false) :
    1 ≤ retried ∧ failed.attempt < m.attempt ∧
      (steps = 2 → ∃ deadline,
        m = { failed with attempt := failed.attempt + 1, stage := .resting deadline }) := by
  cases phase with
  | refused | refunded => omega
  | dropped final => cases final.symm.trans more
  | resting _ deadline => exact ⟨Int.le_refl 1, Nat.lt_succ_self _, fun _ => ⟨deadline, rfl⟩⟩
  | further _ late counted attempt => exact ⟨counted, attempt, fun two => by omega⟩

@[simp] theorem own_append (past : List (Transition Errand Act)) (made : Transition Errand Act) :
    own (past ++ [made]) = own past + own [made] :=
  List.countP_append

theorem phase_of_history {start : Errand}
    (history : History step start past e)
    (stage : start.sending.stage = .refused error) :
    e.shared.flow = start.shared.flow ∧
      Phase start.shared.flow error start.sending (own past) (growth (·.stats.retried) past)
        e.sending := by
  induction history with
  | start => exact ⟨rfl, .refused⟩
  | @next past e e' act _ moved induction =>
      obtain ⟨settings, phase⟩ := induction
      rw [own_append, growth_append]
      cases act with
      | advance =>
          simp only [step, Option.map_eq_some_iff, Prod.exists] at moved
          obtain ⟨s', m', moved, rfl⟩ := moved
          rw [← settings] at phase ⊢
          exact ⟨(Sending.move_of_step moved).credits.2, phase.advance stage moved⟩
      | elsewhere shared =>
          obtain ⟨⟨kept, _⟩, same⟩ := Option.ite_none_right_eq_some.mp moved
          cases same
          refine ⟨kept.trans settings, ?_⟩
          simpa [own, gain] using phase

end

section

variable {s : Shared} {error : StreamError} {earlier later : List (Transition Errand Act)}
  {made : Transition Errand Act} {e : Errand}

def heard (past : List (Transition Errand Act)) (number : Nat) : Reply :=
  ((attempts past)[number - 1]?.bind (·.outcome.reply)).getD .accepted

theorem answered_heard (past : List (Transition Errand Act)) : Answered (heard past) past := by
  rintro ⟨attempt, number⟩ member reply replied
  obtain ⟨_, place⟩ := List.mk_mem_zipIdx_iff_le_and_getElem?_sub.mp member
  rw [heard, place, Option.bind_some, Option.mem_def.mp replied, Option.getD_some]

/-- In a step of a send its attempt fails with an error, after `earlier` and before `later`. -/
structure Failure (error : StreamError) (s : Shared) (earlier : List (Transition Errand Act))
    (made : Transition Errand Act) (later : List (Transition Errand Act)) (e : Errand) : Prop where
  history : ∃ topic payload index,
    History step (start s topic payload index) (earlier ++ made :: later) e
  heard : failure? made = some error

structure Failed (flow : Config.FlowControl) (error : StreamError) (number : Nat)
    (later : List (Transition Errand Act)) (after e : Errand) : Prop where
  stage : after.sending.stage = .refused error
  attempt : after.sending.attempt = number
  first : 1 ≤ number
  within : number ≤ flow.maxRetries.toNat + 1
  settings : after.shared.flow = flow
  history : History step after later e

theorem Failure.failed (failure : Failure error s earlier made later e) :
    Failed s.flow error (attempts (earlier ++ [made])).length later made.after e := by
  obtain ⟨⟨topic, payload, index, history⟩, heard⟩ := failure
  have stage : made.after.sending.stage = .refused error := by
    unfold failure? at heard
    split at heard
    case h_1 error' _ stage =>
        cases heard
        exact stage
    case h_2 => cases heard
  have retrying := retrying_of_history history.through_of_append (answered_heard _)
  have attempt : made.after.sending.attempt = (attempts (earlier ++ [made])).length := by
    have tallied := retrying.tallied
    simp only [Sending.Tallied, stage] at tallied
    omega
  obtain ⟨first, within, _⟩ := retrying.knows
  exact ⟨stage, attempt, attempt ▸ first, attempt ▸ Nat.le_trans within decisive_le,
    retrying.settings, history.after_of_append⟩

theorem Failed.isLast_iff {flow : Config.FlowControl} {number : Nat} {after : Errand}
    (failed : Failed flow error number later after e) :
    after.sending.isLast flow = true ↔ number = flow.maxRetries.toNat + 1 := by
  obtain ⟨_, rfl, first, within, _, _⟩ := failed
  exact Sending.isLast_iff first within

theorem Failed.goesOn {flow : Config.FlowControl} {number : Nat} {after : Errand}
    (failed : Failed flow error number later after e) (early : own later < 2) :
    ∃ e', e.step .advance = some e' := by
  obtain ⟨-, phase⟩ := phase_of_history failed.history failed.stage
  rcases phase.early early with same | same
  · have stage : e.sending.stage = .refused error := same ▸ failed.stage
    exact ⟨_, by rw [step, Sending.step_refused stage, Option.map_some]⟩
  · have stage : e.sending.stage = .refunded error := congrArg Sending.stage same
    cases final : e.sending.isLast e.shared.flow || !error.isRetriable with
    | true => exact ⟨_, by rw [step, Sending.step_refunded_final stage final, Option.map_some]⟩
    | false => exact ⟨_, by rw [step, Sending.step_refunded_more stage final, Option.map_some]⟩

/-- A send gives up after the attempt with a number: nothing keeps it from its next two steps, and
with them the message is dropped, with no further call and no retry. -/
structure GivesUp (number : Nat) (past later : List (Transition Errand Act)) (e : Errand) :
    Prop where
  goesOn : own later < 2 → ∃ e', e.step .advance = some e'
  dropped : 2 ≤ own later → e.sending.stage = .ended .dropped ∧ (attempts past).length = number ∧
    growth (·.stats.retried) past = number - 1 ∧ growth (·.stats.sent) past = 0 ∧
    growth (·.stats.dropped) past = 1

/-- A send tries again after the attempt with a number: nothing keeps it from its next two steps,
which count a retry, and then it rests before the next attempt. It ends no more without calling the
sink again, unless it is cancelled. -/
structure TriesAgain (number : Nat) (past later : List (Transition Errand Act)) (e : Errand) :
    Prop where
  goesOn : own later < 2 → ∃ e', e.step .advance = some e'
  rests : own later = 2 → e.sending.attempt = number + 1 ∧
    ∃ deadline, e.sending.stage = .resting deadline ∧
      (e.shared.cancelled = false → deadline ≤ e.shared.now →
        e.step .advance = some { e with sending := e.sending.goto .wanting })
  retried : 2 ≤ own later → 1 ≤ growth (·.stats.retried) later
  calls : 2 ≤ own later → ∀ outcome, e.sending.stage = .ended outcome →
    outcome = .cancelled ∨ number < (attempts past).length

theorem Failure.givesUp (failure : Failure error s earlier made later e)
    (final : (attempts (earlier ++ [made])).length = s.flow.maxRetries.toNat + 1 ∨
      error.isRetriable = false) :
    GivesUp (attempts (earlier ++ [made])).length (earlier ++ made :: later) later e := by
  have failed := failure.failed
  refine ⟨failed.goesOn, fun late => ?_⟩
  have final' : (made.after.sending.isLast made.after.shared.flow || !error.isRetriable) = true := by
    rw [failed.settings, Bool.or_eq_true, failed.isLast_iff, Bool.not_eq_true']
    exact final
  obtain ⟨-, phase⟩ := phase_of_history failed.history failed.stage
  have ended := phase.given_up late final'
  have stage : e.sending.stage = .ended .dropped := congrArg Sending.stage ended
  have attempt : e.sending.attempt = (attempts (earlier ++ [made])).length :=
    (congrArg Sending.attempt ended).trans failed.attempt
  obtain ⟨topic, payload, index, history⟩ := failure.history
  have tallied := (retrying_of_history history (answered_heard _)).tallied
  simp only [Sending.Tallied, stage, attempt] at tallied
  obtain ⟨calls, -, retried, sent, dropped⟩ := tallied
  exact ⟨stage, Int.ofNat_inj.mp calls, by omega, sent, dropped⟩

theorem Failure.triesAgain (failure : Failure error s earlier made later e)
    (retriable : error.isRetriable = true)
    (left : (attempts (earlier ++ [made])).length ≤ s.flow.maxRetries.toNat) :
    TriesAgain (attempts (earlier ++ [made])).length (earlier ++ made :: later) later e := by
  have failed := failure.failed
  have more :
      (made.after.sending.isLast made.after.shared.flow || !error.isRetriable) = false := by
    rw [failed.settings, Bool.or_eq_false_iff, ← Bool.not_eq_true, failed.isLast_iff, retriable]
    exact ⟨Nat.ne_of_lt (Nat.lt_succ_of_le left), rfl⟩
  obtain ⟨-, phase⟩ := phase_of_history failed.history failed.stage
  obtain ⟨topic, payload, index, history⟩ := failure.history
  have tallied := (retrying_of_history history (answered_heard _)).tallied
  refine ⟨failed.goesOn, ?_, fun late => (phase.tried_again late more).1, ?_⟩
  · intro two
    obtain ⟨-, -, resting⟩ := phase.tried_again (Nat.le_of_eq two.symm) more
    obtain ⟨deadline, same⟩ := resting two
    have stage : e.sending.stage = .resting deadline := congrArg Sending.stage same
    refine ⟨?_, deadline, stage, ?_⟩
    · rw [same, ← failed.attempt]
    · intro active due
      simp only [step, Sending.step, stage, active, due, Bool.false_eq_true, if_false, if_true,
        Option.map_some]
  · intro late outcome ended
    obtain ⟨-, further, -⟩ := phase.tried_again late more
    rw [failed.attempt] at further
    cases outcome with
    | cancelled => exact .inl rfl
    | sent | dropped =>
        simp only [Sending.Tallied, ended] at tallied
        exact .inr (by omega)
    | broken =>
        -- Only a send at its first attempt panics.
        simp only [Sending.Tallied, ended] at tallied
        have first := failed.first
        omega

end

end Errand

namespace StreamError

open Errand

variable {error : StreamError}

/-- A send that fails with the error gives up, whichever attempt it was. -/
def EndsSend (error : StreamError) : Prop :=
  ∀ s earlier made later e, Failure error s earlier made later e →
    GivesUp (attempts (earlier ++ [made])).length (earlier ++ made :: later) later e

/-- A send that fails with the error tries again, unless this was its last attempt. -/
def LetsRetry (error : StreamError) : Prop :=
  ∀ s earlier made later e, Failure error s earlier made later e →
    let number := (attempts (earlier ++ [made])).length
    number ≤ s.flow.maxRetries.toNat ∧ TriesAgain number (earlier ++ made :: later) later e ∨
      number = s.flow.maxRetries.toNat + 1 ∧ GivesUp number (earlier ++ made :: later) later e

theorem endsSend_of_final (final : error.isRetriable = false) : error.EndsSend := by
  intro s earlier made later e failure
  exact failure.givesUp (.inr final)

theorem letsRetry_of_retriable (retriable : error.isRetriable = true) : error.LetsRetry := by
  intro s earlier made later e failure
  rcases Nat.lt_or_eq_of_le failure.failed.within with left | last
  · have left := Nat.le_of_lt_succ left
    exact .inl ⟨left, failure.triesAgain retriable left⟩
  · exact .inr ⟨last, failure.givesUp (.inl last)⟩

end StreamError

end Courier
