import Courier.Proofs.Publishing.Offers
import Courier.Proofs.Publishing.Seats
import Courier.Proofs.Publishing.Stalling

/-! Publishing after it was cancelled. A part that has neither a slot nor a reply in hand, as at all
points where it may be suspended, gives up what it is about; what was with the sink is withdrawn.
-/

namespace Courier

/-- What publishing has brought about so far. An attempt that was not handed over is no part of it.
-/
structure Results where
  calls : List Call
  accepted : List Command
  sent : Nat
  acked : Nat
  dropped : Nat
  retried : Nat

def Shared.results (s : Shared) : Results where
  calls := s.sink.calls
  accepted := s.sink.accepted
  sent := s.stats.sent
  acked := s.stats.acked
  dropped := s.stats.dropped
  retried := s.stats.retried

/-- What a send can come to after it was cancelled. It panics at its start, if it does. -/
def SendOutcome.IsGivenUp (overflows : Bool) : SendOutcome → Prop
  | .cancelled => True
  | .broken => overflows = true
  | .sent | .dropped => False

namespace Sending

def hasReply (m : Sending) : Bool :=
  match m.stage with
  | .accepted | .rewarded | .refused _ | .refunded _ => true
  | .wanting | .looking | .starved _ | .charged | .counted | .transit _ | .resting _
  | .ended _ => false

def Ceasing (overflows : Bool) (m : Sending) : Prop :=
  m.hasReply = false ∧ ∀ outcome, m.stage = .ended outcome → outcome.IsGivenUp overflows

variable {s s' : Shared} {m m' : Sending}

theorem Move.ceasing (move : Move s m s' m') (cancelled : s.cancelled = true)
    (ceasing : m.Ceasing s.overflows) :
    m'.Ceasing s.overflows ∧ s'.results = s.results ∧ s'.ledger = s.ledger := by
  obtain ⟨open', _⟩ := ceasing
  cases move with
  | starve stage active | offer stage active | accept stage active | refuse stage active
  | again stage active => cases active.symm.trans cancelled
  | reward stage | confirm stage | refund stage | drop stage | retry stage =>
      simp [hasReply, stage] at open'
  | abandon | despair | forgo | withdraw | yield =>
      refine ⟨⟨rfl, ?_⟩, rfl, rfl⟩
      rintro outcome ⟨⟩
      trivial
  | crash stage overflows =>
      refine ⟨⟨rfl, ?_⟩, rfl, rfl⟩
      rintro outcome ⟨⟩
      exact overflows
  | charge | miss | find | wake | count =>
      -- These steps do not ask whether the send was cancelled, and the next one does.
      refine ⟨⟨rfl, ?_⟩, rfl, rfl⟩
      rintro outcome ⟨⟩

theorem ended_of_outcome {outcome : SendOutcome} (settled : m.posting.outcome = some outcome) :
    m.stage = .ended outcome := by
  unfold posting at settled
  split at settled
  case h_7 other stage => exact Option.some.inj settled ▸ stage
  all_goals cases settled

theorem exists_transit (held : m.transit?.isSome = true) :
    ∃ transit, m.stage = .transit transit := by
  unfold transit? at held
  split at held
  case h_1 transit stage => exact ⟨transit, stage⟩
  case h_2 => cases held

theorem Move.withdrawn {transit : Transit} (move : Move s m s' m') (cancelled : s.cancelled = true)
    (stage : m.stage = .transit transit) :
    m'.stage = .ended .cancelled ∧ s'.credits = s.credits.add 1 := by
  cases move with
  | withdraw => exact ⟨rfl, rfl⟩
  | accept _ active | refuse _ active => cases active.symm.trans cancelled
  | crash other | charge other | miss other | find other | abandon other | starve other
  | despair other | wake other | count other | forgo other | offer other | reward other
  | confirm other | refund other | drop other | retry other | yield other | again other =>
      cases stage.symm.trans other

end Sending

namespace SendTask

def isBusy (task : SendTask) : Bool :=
  match task.stage with
  | .sending m => m.hasReply
  | .delayed _ | .acquiring _ | .lowering _ | .returning _ | .recording _ | .ended .. => false

def Ceasing (overflows : Bool) (task : SendTask) : Prop :=
  match task.stage with
  | .sending m => m.Ceasing overflows
  | .lowering outcome | .returning outcome => outcome.IsGivenUp overflows
  | .ended outcome _ => ∃ given, outcome = some given ∧ given.IsGivenUp overflows
  | .delayed _ | .acquiring _ | .recording _ => False

def remaining (task : SendTask) : Nat :=
  match task.stage with
  | .sending m => if m.transit?.isSome then 4 else 3
  | .lowering _ => 2
  | .returning _ => 1
  | .delayed _ | .acquiring _ | .recording _ | .ended .. => 0

def Withdrawing (overflows : Bool) (task : SendTask) : Prop :=
  task.Ceasing overflows ∧ ∀ m, task.stage = .sending m → m.transit?.isSome ∨ m.stage = .ended .cancelled

variable {s s' : Shared} {task task' : SendTask} {overflows : Bool}

private theorem finish_givenUp {outcome : SendOutcome} (givenUp : outcome.IsGivenUp overflows)
    (finished : task.finish s outcome = (s', task')) :
    s' = s ∧ task' = task.goto (.ended (some outcome) s.now) := by
  cases outcome with
  | sent | dropped => exact givenUp.elim
  | cancelled | broken =>
      cases finished
      exact ⟨rfl, rfl⟩

theorem Move.ceasing (move : Move s task s' task') (cancelled : s.cancelled = true)
    (ceasing : task.Ceasing s.overflows) :
    task'.Ceasing s.overflows ∧ s'.results = s.results ∧ s'.ledger = s.ledger := by
  cases move with
  | begin stage | enter stage | leave stage | wait stage | record stage =>
      simp [Ceasing, stage] at ceasing
  | send stage moved =>
      simp only [Ceasing, stage] at ceasing
      exact (Sending.move_of_step moved).ceasing cancelled ceasing
  | conclude stage ended =>
      simp only [Ceasing, stage] at ceasing
      exact ⟨ceasing.2 _ ended, rfl, rfl⟩
  | lower stage =>
      simp only [Ceasing, stage] at ceasing
      exact ⟨ceasing, rfl, rfl⟩
  | finish stage finished =>
      simp only [Ceasing, stage] at ceasing
      obtain ⟨rfl, rfl⟩ := finish_givenUp ceasing finished
      exact ⟨⟨_, rfl, ceasing⟩, rfl, rfl⟩

theorem Move.settled {outcome : SendOutcome} (move : Move s task s' task')
    (settled : task.posting.outcome = some outcome) :
    task'.posting.outcome = some outcome ∧ s'.results = s.results := by
  cases move with
  | begin stage | enter stage | leave stage | wait stage => simp [posting, stage] at settled
  | send stage moved =>
      simp only [posting, stage] at settled
      simp [Sending.step, Sending.ended_of_outcome settled] at moved
  | conclude stage ended =>
      simp only [posting, Sending.posting, stage, ended] at settled
      exact ⟨settled, rfl⟩
  | lower stage =>
      simp only [posting, stage] at settled
      exact ⟨settled, rfl⟩
  | finish stage finished =>
      simp only [posting, stage] at settled
      rw [(posting_of_finish finished).1]
      obtain ⟨log, rfl⟩ := log_of_finish finished
      exact ⟨settled, rfl⟩
  | record stage recorded =>
      simp only [posting, stage] at settled
      obtain ⟨ledger, rfl⟩ := Shared.ledger_of_recordLine recorded
      exact ⟨settled, rfl⟩

theorem ceasing_of_idle (admitted : task.Admitted) (idle : task.isBusy = false)
    (unsettled : task.posting.outcome = none) : task.Ceasing overflows := by
  cases stage : task.stage with
  | delayed | acquiring => simp [Admitted, stage] at admitted
  | sending m =>
      simp only [isBusy, stage] at idle
      simp only [posting, stage] at unsettled
      simp only [Ceasing, stage]
      refine ⟨idle, ?_⟩
      intro outcome ended
      simp [Sending.posting, ended] at unsettled
  | lowering | returning | recording => simp [posting, stage] at unsettled
  | ended outcome =>
      simp only [posting, stage] at unsettled
      simp [Admitted, stage, unsettled] at admitted

theorem exists_transit (held : task.offer?.isSome = true) :
    ∃ m, task.stage = .sending m ∧ ∃ transit, m.stage = .transit transit := by
  unfold offer? at held
  split at held
  case h_1 m stage =>
      rw [Option.isSome_map] at held
      exact ⟨m, stage, Sending.exists_transit held⟩
  case h_2 => cases held

theorem withdrawing_of_offer? (held : task.offer?.isSome = true) :
    task.Withdrawing overflows := by
  obtain ⟨m, stage, transit, sendStage⟩ := exists_transit held
  refine ⟨?_, ?_⟩
  · simp [Ceasing, stage, Sending.Ceasing, Sending.hasReply, sendStage]
  · intro m' stage'
    cases stage.symm.trans stage'
    rw [Sending.transit?, sendStage]
    exact .inl rfl

theorem Move.withdrawn (move : Move s task s' task') (cancelled : s.cancelled = true)
    (held : task.offer?.isSome = true) :
    task'.posting.outcome = some .cancelled ∧ s'.credits = s.credits.add 1 := by
  obtain ⟨m, stage, transit, sendStage⟩ := exists_transit held
  cases move with
  | send stage' moved =>
      cases stage.symm.trans stage'
      obtain ⟨ended, credits⟩ := (Sending.move_of_step moved).withdrawn cancelled sendStage
      exact ⟨by simp only [posting, goto, Sending.posting, ended], credits⟩
  | conclude stage' ended =>
      cases stage.symm.trans stage'
      cases sendStage.symm.trans ended
  | begin other | enter other | leave other | wait other | lower other | finish other
  | record other => cases stage.symm.trans other

theorem Ceasing.outcome {outcome : SendOutcome} (ceasing : task.Ceasing overflows)
    (settled : task.posting.outcome = some outcome) : outcome.IsGivenUp overflows := by
  unfold Ceasing at ceasing
  split at ceasing
  case h_1 m stage =>
      simp only [posting, stage] at settled
      exact ceasing.2 outcome (Sending.ended_of_outcome settled)
  case h_2 stage | h_3 stage =>
      simp only [posting, stage, Option.some.injEq] at settled
      exact settled ▸ ceasing
  case h_4 stage =>
      obtain ⟨given, same, givenUp⟩ := ceasing
      simp only [posting, stage, same, Option.some.injEq] at settled
      exact settled ▸ givenUp
  case h_5 | h_6 | h_7 => exact ceasing.elim

theorem Ceasing.ended_of_stalled (ceasing : task.Ceasing overflows) (cancelled : s.cancelled = true)
    (stalled : task.step s = none) :
    ∃ outcome, task.outcome? = some outcome ∧ outcome.IsGivenUp overflows := by
  unfold Ceasing at ceasing
  split at ceasing
  case h_1 m stage =>
      simp only [step, stage] at stalled
      split at stalled
      case h_1 => cases stalled
      case h_2 running =>
          obtain ⟨outcome, ended⟩ :=
            Sending.ended_of_stalled cancelled (Option.map_eq_none_iff.mp stalled)
          exact (running outcome ended).elim
  case h_2 stage | h_3 stage =>
      simp only [step, stage] at stalled
      cases stalled
  case h_4 stage =>
      obtain ⟨given, same, givenUp⟩ := ceasing
      exact ⟨given, by simp only [outcome?, stage, same], givenUp⟩
  case h_5 | h_6 | h_7 => exact ceasing.elim

theorem Move.withdrawing (move : Move s task s' task') (cancelled : s.cancelled = true)
    (withdrawing : task.Withdrawing s.overflows) :
    task'.Withdrawing s.overflows ∧ task'.remaining + 1 = task.remaining := by
  have ceasing := (move.ceasing cancelled withdrawing.1).1
  cases move with
  | begin stage | enter stage | leave stage | wait stage | record stage =>
      simp [Withdrawing, Ceasing, stage] at withdrawing
  | send stage moved =>
      rcases withdrawing.2 _ stage with held | ended
      · obtain ⟨transit, sendStage⟩ := Sending.exists_transit held
        have withdrawn := ((Sending.move_of_step moved).withdrawn cancelled sendStage).1
        refine ⟨⟨ceasing, ?_⟩, ?_⟩
        · rintro m ⟨⟩
          exact .inr withdrawn
        · simp [remaining, goto, stage, Sending.transit?, sendStage, withdrawn]
      · simp [Sending.step, ended] at moved
  | conclude stage ended =>
      refine ⟨⟨ceasing, ?_⟩, ?_⟩
      · rintro m ⟨⟩
      · simp [remaining, goto, stage, Sending.transit?, ended]
  | lower stage =>
      refine ⟨⟨ceasing, ?_⟩, ?_⟩
      · rintro m ⟨⟩
      · simp [remaining, goto, stage]
  | finish stage finished =>
      have gone := withdrawing.1
      simp only [Ceasing, stage] at gone
      obtain ⟨rfl, rfl⟩ := finish_givenUp gone finished
      refine ⟨⟨ceasing, ?_⟩, ?_⟩
      · rintro m ⟨⟩
      · simp [remaining, goto, stage]

end SendTask

namespace Throttled

variable {p : Publication} {s s' : Shared} {t t' : Throttled} {started : Option SendTask}

theorem Move.ceasing (move : Move p s t s' t' started) (cancelled : s.cancelled = true)
    (idle : t.seat.holds = false) :
    t'.seat.holds = false ∧ started = none ∧ s'.results = s.results := by
  cases move with
  | find | giveUp | wait | leave | quit => exact ⟨rfl, rfl, rfl⟩
  | hold stage | launch stage => simp [seat, SlotWait.seat, stage] at idle
  | resume stage active => cases active.symm.trans cancelled
  | acquire stage moved =>
      rename_i wait wait'
      simp only [seat, stage] at idle
      cases wait with
      | asking | queued =>
          simp only [SlotWait.step, cancelled, if_true, Option.some.injEq] at moved
          cases moved
          exact ⟨rfl, rfl, rfl⟩
      | taken | raised => cases idle
      | ended => cases moved

end Throttled

namespace Unthrottled

def hasReply (u : Unthrottled) : Bool :=
  match u.stage with
  | .accepted .. | .refused _ => true
  | .checking | .counted _ | .transit .. | .recording _ | .pausing _ | .ended => false

def Withdrawing (u : Unthrottled) : Prop := u.offer?.isSome ∨ u.stage = .ended

variable {p : Publication} {s s' : Shared} {u u' : Unthrottled}

theorem offer?_of_ended (ended : u.stage = .ended) : u.offer? = none := by
  rw [offer?, ended]

private theorem hasReply_advance (u : Unthrottled) : (u.advance p s).hasReply = false := by
  unfold advance
  split <;> rfl

theorem Move.ceasing (move : Move p s u s' u') (cancelled : s.cancelled = true)
    (idle : u.hasReply = false) :
    u'.hasReply = false ∧ s'.results = s.results := by
  cases move with
  | finish | quit | forgo | withdraw | halt => exact ⟨rfl, rfl⟩
  | count _ _ active | offer _ active | accept _ active | refuse _ active | resume _ active =>
      cases active.symm.trans cancelled
  | confirm stage | drop stage => simp [hasReply, stage] at idle
  | record stage recorded =>
      obtain ⟨ledger, rfl⟩ := Shared.ledger_of_recordLine recorded
      exact ⟨hasReply_advance u, rfl⟩

theorem Move.withdrawing (move : Move p s u s' u') (cancelled : s.cancelled = true)
    (withdrawing : u.Withdrawing) :
    u.offer?.isSome ∧ u'.stage = .ended ∧ s'.ledger = s.ledger := by
  cases move with
  | withdraw stage => exact ⟨by rw [offer?, stage]; rfl, rfl, rfl⟩
  | count _ _ active | offer _ active | accept _ active | refuse _ active | resume _ active =>
      cases active.symm.trans cancelled
  | finish stage | quit stage | forgo stage | confirm stage | record stage | drop stage
  | halt stage =>
      simp [Withdrawing, offer?, stage] at withdrawing

end Unthrottled

namespace Publisher

def isBusy (publisher : Publisher) : Bool :=
  match publisher.stage with
  | .throttled t => t.seat.holds
  | .unthrottled u => u.hasReply
  | .ended _ => false

def remaining (publisher : Publisher) : Nat :=
  match publisher.stage with
  | .unthrottled u => if u.offer?.isSome then 2 else 1
  | .throttled _ | .ended _ => 0

def Withdrawing (publisher : Publisher) : Prop :=
  match publisher.stage with
  | .unthrottled u => u.Withdrawing
  | .ended _ => True
  | .throttled _ => False

variable {p : Publication} {s s' : Shared} {tasks : List SendTask}
  {publisher publisher' : Publisher} {started : Option SendTask}

theorem Move.ceasing (move : Move p s tasks publisher s' publisher' started)
    (cancelled : s.cancelled = true) (idle : publisher.isBusy = false) :
    publisher'.isBusy = false ∧ started = none ∧ s'.results = s.results := by
  cases move with
  | throttled stage moved =>
      simp only [isBusy, stage] at idle
      exact (Throttled.move_of_step moved).ceasing cancelled idle
  | unthrottled stage moved =>
      simp only [isBusy, stage] at idle
      obtain ⟨idle', same⟩ := (Unthrottled.move_of_step moved).ceasing cancelled idle
      exact ⟨idle', rfl, same⟩
  | join | finish => exact ⟨rfl, rfl, rfl⟩

theorem withdrawing_of_offer? (held : publisher.offer?.isSome = true) : publisher.Withdrawing := by
  unfold offer? at held
  split at held
  case h_1 u stage =>
      simp only [Withdrawing, stage]
      exact .inl held
  case h_2 | h_3 => cases held

theorem Move.withdrawing (move : Move p s tasks publisher s' publisher' started)
    (cancelled : s.cancelled = true) (withdrawing : publisher.Withdrawing) :
    publisher'.Withdrawing ∧ publisher'.remaining + 1 = publisher.remaining ∧
      s'.ledger = s.ledger := by
  cases move with
  | throttled stage | join stage => simp [Withdrawing, stage] at withdrawing
  | unthrottled stage moved =>
      simp only [Withdrawing, stage] at withdrawing
      obtain ⟨held, ended, kept⟩ :=
        (Unthrottled.move_of_step moved).withdrawing cancelled withdrawing
      have none : Unthrottled.offer? _ = none := Unthrottled.offer?_of_ended ended
      refine ⟨.inr ended, ?_, kept⟩
      simp only [remaining, stage, held, none, if_true, Option.isSome_none, Bool.false_eq_true,
        if_false]
  | finish stage reported =>
      unfold Unthrottled.report? at reported
      split at reported
      case isFalse => cases reported
      case isTrue ended =>
          refine ⟨trivial, ?_, rfl⟩
          simp only [remaining, Publisher.finish, stage, Unthrottled.offer?_of_ended ended,
            Option.isSome_none, Bool.false_eq_true, if_false]

theorem Withdrawing.reported_of_stalled (withdrawing : publisher.Withdrawing)
    (cancelled : s.cancelled = true) (stalled : publisher.step p s tasks = none) :
    publisher.report?.isSome = true := by
  unfold Withdrawing at withdrawing
  split at withdrawing
  case h_1 u stage =>
      simp only [step, stage] at stalled
      rcases withdrawing with held | ended
      · unfold Unthrottled.offer? at held
        split at held
        case h_1 transitStage =>
            simp [Unthrottled.report?, Unthrottled.step, transitStage, cancelled] at stalled
        case h_2 => cases held
      · simp [Unthrottled.report?, ended] at stalled
  case h_2 report stage => simp only [report?, stage, Option.isSome_some]
  case h_3 => exact withdrawing.elim

end Publisher

end Courier
