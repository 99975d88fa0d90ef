import Courier.Proofs.Publishing.Reports
import Courier.Proofs.World.Reach

/-! What a publisher and its sends have with the sink. A step hands at most one attempt over to it,
or takes one back, with its reply or without one. -/

namespace Courier

/-- An attempt at a message, while it is with the sink. -/
structure Offer where
  index : Nat
  attempt : Nat
  transit : Transit
  deriving DecidableEq

/-- What a part did at the sink, where it had an attempt before and has one after, or not. -/
structure Sink.Exchange (before after : Sink) (had has landed : Bool) : Prop where
  calls : after.calls.length = before.calls.length + (!had && has).toNat
  accepted : after.accepted.length = before.accepted.length + landed.toNat
  inside : had.toNat ≤ before.inside → after.inside + had.toNat = before.inside + has.toNat
  present : landed = true → had = true

theorem Sink.Exchange.same (sink : Sink) (held : Bool) : Exchange sink sink held held false where
  calls := by cases held <;> rfl
  accepted := rfl
  inside _ := rfl
  present := nofun

theorem Sink.Exchange.offer (sink : Sink) (now : Nat) (command : Command) :
    Exchange sink (sink.offer now command).1 false true false where
  calls := List.length_append
  accepted := rfl
  inside _ := rfl
  present := nofun

theorem Sink.Exchange.leave (sink : Sink) : Exchange sink sink.leave true false false where
  calls := rfl
  accepted := rfl
  inside := by
    intro filled
    simp only [Sink.leave, Bool.toNat_true, Bool.toNat_false] at filled ⊢
    omega
  present := nofun

theorem Sink.Exchange.accept (sink : Sink) (command : Command) :
    Exchange sink (sink.settle command .accepted) true false true where
  calls := rfl
  accepted := List.length_append
  inside := (leave sink).inside
  present _ := rfl

namespace Sending

def transit? (m : Sending) : Option Transit :=
  match m.stage with
  | .transit transit => some transit
  | _ => none

variable {s s' : Shared} {m m' : Sending}

def lands (m m' : Sending) : Bool := !m.posting.hasLanded && m'.posting.hasLanded

theorem Move.exchange (move : Move s m s' m') :
    Sink.Exchange s.sink s'.sink m.transit?.isSome m'.transit?.isSome (m.lands m') := by
  cases move with
  | crash stage | charge stage | miss stage | find stage | abandon stage | starve stage
  | despair stage | wake stage | count stage | forgo stage | reward stage | confirm stage | refund stage
  | drop stage | retry stage | yield stage | again stage =>
      simp only [transit?, lands, posting, goto, stage]
      exact .same _ false
  | offer stage =>
      simp only [transit?, lands, posting, goto, stage]
      exact .offer _ s.now _
  | withdraw stage | refuse stage =>
      simp only [transit?, lands, posting, goto, stage]
      exact .leave _
  | accept stage =>
      simp only [transit?, lands, posting, goto, stage]
      exact .accept ..

end Sending

namespace SendTask

def offer? (task : SendTask) : Option Offer :=
  match task.stage with
  | .sending m => m.transit?.map (⟨task.index, m.attempt, ·⟩)
  | _ => none

variable {s s' : Shared} {task task' : SendTask}

def lands (task task' : SendTask) : Bool := !task.posting.hasLanded && task'.posting.hasLanded

private theorem offer?_of_finish {outcome : SendOutcome}
    (finished : task.finish s outcome = (s', task')) :
    task'.index = task.index ∧ task'.offer? = none := by
  unfold finish at finished
  split at finished <;> cases finished <;> exact ⟨rfl, rfl⟩

theorem index_of_offer? {offer : Offer} (held : task.offer? = some offer) :
    offer.index = task.index := by
  unfold offer? at held
  split at held
  case h_1 =>
      obtain ⟨transit, _, rfl⟩ := Option.map_eq_some_iff.mp held
      rfl
  case h_2 => cases held

theorem Move.index (move : Move s task s' task') : task'.index = task.index := by
  cases move with
  | finish stage finished => exact (offer?_of_finish finished).1
  | begin | enter | leave | wait | send | conclude | lower | record => rfl

theorem Move.exchange (move : Move s task s' task') :
    Sink.Exchange s.sink s'.sink task.offer?.isSome task'.offer?.isSome (task.lands task') := by
  cases move with
  | begin stage | enter stage | leave stage =>
      simp only [offer?, lands, posting, Sending.posting, Sending.start, Sending.transit?, goto,
        stage]
      exact .same _ false
  | wait stage moved =>
      obtain ⟨slots, rfl⟩ := SlotWait.slots_of_step moved
      simp only [offer?, lands, posting, goto, stage]
      exact .same _ false
  | send stage moved =>
      have exchange := (Sending.move_of_step moved).exchange
      simp only [offer?, lands, posting, goto, stage, Option.isSome_map]
      exact exchange
  | conclude stage ended =>
      simp only [offer?, Sending.transit?, lands, posting, Sending.posting, goto, stage, ended,
        Bool.not_and_self]
      exact .same _ false
  | lower stage =>
      simp only [offer?, lands, posting, goto, stage, Bool.not_and_self]
      exact .same _ false
  | finish stage finished =>
      have posted := (posting_of_finish finished).1
      have none := (offer?_of_finish finished).2
      obtain ⟨log, rfl⟩ := log_of_finish finished
      rw [none, lands, posted]
      simp only [offer?, posting, stage, Bool.not_and_self]
      exact .same _ false
  | record stage recorded =>
      obtain ⟨ledger, rfl⟩ := Shared.ledger_of_recordLine recorded
      simp only [offer?, lands, posting, goto, stage]
      exact .same _ false

end SendTask

namespace Unthrottled

def offer? (u : Unthrottled) : Option Offer :=
  match u.stage with
  | .transit _ _ transit => some ⟨u.index, 1, transit⟩
  | _ => none

variable {p : Publication} {s s' : Shared} {u u' : Unthrottled}

def lands (u u' : Unthrottled) : Bool := !u.posting.hasLanded && u'.posting.hasLanded

theorem index_of_offer? {offer : Offer} (held : u.offer? = some offer) :
    offer.index = u.index := by
  unfold offer? at held
  split at held <;> cases held
  rfl

theorem offer?_advance (u : Unthrottled) : (u.advance p s).offer? = none := by
  unfold advance
  split <;> rfl

theorem Move.exchange (move : Move p s u s' u') :
    Sink.Exchange s.sink s'.sink u.offer?.isSome u'.offer?.isSome (u.lands u') := by
  cases move with
  | finish stage | quit stage | count stage | forgo stage | halt stage | resume stage =>
      simp only [offer?, lands, posting, goto, stop, stage]
      exact .same _ false
  | offer stage =>
      simp only [offer?, lands, posting, goto, stage]
      exact .offer _ s.now _
  | withdraw stage | refuse stage =>
      simp only [offer?, lands, posting, goto, stop, stage]
      exact .leave _
  | accept stage =>
      simp only [offer?, lands, posting, goto, stage]
      exact .accept ..
  | confirm stage noted =>
      rw [noted]
      split
      · simp only [offer?, lands, posting, goto, stage]
        exact .same _ false
      · rw [offer?_advance, lands, posting_advance]
        simp only [offer?, posting, stage]
        exact .same _ false
  | record stage recorded =>
      obtain ⟨ledger, rfl⟩ := Shared.ledger_of_recordLine recorded
      rw [offer?_advance, lands, posting_advance]
      simp only [offer?, posting, stage]
      exact .same _ false
  | drop stage =>
      rw [offer?_advance, lands, posting_advance]
      simp only [offer?, posting, stage]
      exact .same _ false

end Unthrottled

namespace Publisher

def offer? (publisher : Publisher) : Option Offer :=
  match publisher.stage with
  | .unthrottled u => u.offer?
  | .throttled _ | .ended _ => none

variable {p : Publication} {s s' : Shared} {tasks : List SendTask}
  {publisher publisher' : Publisher} {started : Option SendTask}

def lands (publisher publisher' : Publisher) : Bool :=
  match publisher.stage, publisher'.stage with
  | .unthrottled u, .unthrottled u' => u.lands u'
  | _, _ => false

theorem Move.exchange (move : Move p s tasks publisher s' publisher' started) :
    Sink.Exchange s.sink s'.sink publisher.offer?.isSome publisher'.offer?.isSome
      (publisher.lands publisher') := by
  cases move with
  | throttled stage moved =>
      obtain ⟨slots, rfl⟩ := (Throttled.move_of_step moved).reach
      simp only [offer?, lands, stage]
      exact .same _ false
  | unthrottled stage moved =>
      have exchange := (Unthrottled.move_of_step moved).exchange
      simp only [offer?, lands, stage]
      exact exchange
  | join stage reported =>
      simp only [offer?, lands, stage, Publisher.finish]
      exact .same _ false
  | finish stage reported =>
      unfold Unthrottled.report? at reported
      split at reported
      case isFalse => cases reported
      case isTrue ended =>
          simp only [offer?, lands, Unthrottled.offer?, stage, ended, Publisher.finish]
          exact .same _ false

end Publisher

end Courier
