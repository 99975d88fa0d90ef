import Courier.Proofs.Publishing.Offers
import Courier.Proofs.Publishing.Untroubled

/-! Publishing to a sink that settles each message at its first attempt. What becomes of a message
is then its fate, and it is the same in whatever order the messages are sent.
-/

namespace Courier

def Transit.Brings (reply : Reply) (transit : Transit) : Prop :=
  ∃ time, transit.arrival = some (time, reply)

theorem Transit.Brings.eq_of_reply? {transit : Transit} {reply reply' : Reply} {now : Nat}
    (brings : transit.Brings reply) (replied : transit.reply? now = some reply') :
    reply = reply' := by
  obtain ⟨time, arrival⟩ := brings
  simp only [Transit.reply?, arrival] at replied
  split at replied
  case isTrue => exact Option.some.inj replied
  case isFalse => cases replied

/-- The first attempt at a message brings its fate. -/
def Offer.Decided (fate : Nat → Reply) (offer : Offer) : Prop :=
  offer.attempt = 1 → offer.transit.Brings (fate offer.index)

def Reply.IsFinal (flow : Config.FlowControl) (reply : Reply) : Prop :=
  ∀ error, reply = .failed error → flow.maxRetries = 0 ∨ error.isRetriable = false

def SendOutcome.Fits (reply : Reply) : SendOutcome → Prop
  | .sent => reply = .accepted
  | .dropped => reply ≠ .accepted
  | .cancelled | .broken => True

variable {s s' : Shared} {fate : Nat → Reply}

namespace Sending

variable {m m' : Sending} {reply : Reply}

def Fated (reply : Reply) (m : Sending) : Prop :=
  m.attempt = 1 ∧
    match m.stage with
    | .wanting | .looking | .starved _ | .charged | .counted => True
    | .transit transit => transit.Brings reply
    | .accepted | .rewarded => reply = .accepted
    | .refused error | .refunded error => reply = .failed error
    | .resting _ => False
    | .ended outcome => outcome.Fits reply

theorem Move.fated (move : Move s m s' m') (final : reply.IsFinal s.flow)
    (brings : ∀ transit, m.transit? = none → m'.transit? = some transit → m'.attempt = 1 →
      transit.Brings reply)
    (fated : m.Fated reply) :
    m'.Fated reply ∧ s'.outlay.retried = s.outlay.retried := by
  obtain ⟨first, fated⟩ := fated
  cases move with
  | crash | charge | miss | find | starve | wake | count | abandon | despair | forgo | withdraw
  | yield => exact ⟨⟨first, trivial⟩, rfl⟩
  | offer stage =>
      have unoffered : m.transit? = none := by rw [transit?, stage]
      exact ⟨⟨first, brings _ unoffered rfl first⟩, rfl⟩
  | accept stage _ replied | refuse stage _ replied =>
      simp only [stage] at fated
      exact ⟨⟨first, fated.eq_of_reply? replied⟩, rfl⟩
  | reward stage | confirm stage | refund stage =>
      simp only [stage] at fated
      exact ⟨⟨first, fated⟩, rfl⟩
  | drop stage =>
      simp only [stage] at fated
      subst fated
      exact ⟨⟨first, Reply.noConfusion⟩, rfl⟩
  | retry stage more =>
      -- There is no second attempt, for want of retries or of an error that permits one.
      simp only [stage] at fated
      rcases final _ fated with none | permanent
      · simp [isLast, counter, Config.FlowControl.attempts, first, none] at more
      · simp [permanent] at more
  | again stage => simp only [stage] at fated

theorem Move.keepsLanded (move : Move s m s' m') (landed : m.posting.hasLanded = true) :
    m'.posting.hasLanded = true := by
  cases move with
  | reward | confirm => rfl
  | crash stage | charge stage | miss stage | find stage | abandon stage | starve stage
  | despair stage | wake stage | count stage | forgo stage | offer stage | withdraw stage | accept stage
  | refuse stage | refund stage | drop stage | retry stage | yield stage | again stage =>
      simp [posting, stage] at landed

end Sending

namespace SendTask

variable {task task' : SendTask} {tasks : List SendTask}

def Fated (fate : Nat → Reply) (task : SendTask) : Prop :=
  match task.stage with
  | .delayed _ | .acquiring _ => True
  | .sending m => m.Fated (fate task.index)
  | .lowering outcome | .returning outcome => outcome.Fits (fate task.index)
  | .recording _ => fate task.index = .accepted
  | .ended outcome _ => ∀ known, outcome = some known → known.Fits (fate task.index)

private theorem fated_of_finish {outcome : SendOutcome} (fits : outcome.Fits (fate task.index))
    (finished : task.finish s outcome = (s', task')) : task'.Fated fate := by
  unfold finish at finished
  split at finished
  case h_1 =>
      cases finished
      exact fits
  case h_2 | h_3 =>
      cases finished
      rintro known ⟨⟩
      exact fits

theorem Move.fated (move : Move s task s' task') (final : ∀ index, (fate index).IsFinal s.flow)
    (decided : ∀ offer, task.offer? = none → task'.offer? = some offer → offer.Decided fate)
    (fated : task.Fated fate) :
    task'.Fated fate ∧ s'.outlay.retried = s.outlay.retried := by
  cases move with
  | begin => exact ⟨trivial, rfl⟩
  | enter => exact ⟨⟨rfl, trivial⟩, rfl⟩
  | leave =>
      refine ⟨?_, rfl⟩
      rintro known ⟨⟩
  | wait stage moved =>
      obtain ⟨slots, rfl⟩ := SlotWait.slots_of_step moved
      exact ⟨trivial, rfl⟩
  | send stage moved =>
      simp only [Fated, stage] at fated
      refine (Sending.move_of_step moved).fated (final _) ?_ fated
      intro transit unoffered offered first
      refine decided ⟨task.index, _, transit⟩ ?_ ?_ first
      · simp only [offer?, stage, unoffered, Option.map_none]
      · simp only [offer?, goto, offered, Option.map_some]
  | conclude stage ended =>
      simp only [Fated, Sending.Fated, stage, ended] at fated
      exact ⟨fated.2, rfl⟩
  | lower stage =>
      simp only [Fated, stage] at fated
      exact ⟨fated, rfl⟩
  | finish stage finished =>
      simp only [Fated, stage] at fated
      have kept := fated_of_finish fated finished
      obtain ⟨log, rfl⟩ := log_of_finish finished
      exact ⟨kept, rfl⟩
  | record stage recorded =>
      simp only [Fated, stage] at fated
      rw [Shared.outlay_recordLine recorded]
      refine ⟨?_, rfl⟩
      rintro known ⟨⟩
      exact fated

def landing (task : SendTask) : List Nat := if task.posting.hasLanded then [task.index] else []

theorem Move.keepsLanded (move : Move s task s' task') (landed : task.posting.hasLanded = true) :
    task'.posting.hasLanded = true := by
  cases move with
  | begin stage | enter stage | leave stage | wait stage => simp [posting, stage] at landed
  | send stage moved =>
      simp only [posting, stage] at landed
      exact (Sending.move_of_step moved).keepsLanded landed
  | conclude stage ended =>
      simp only [posting, Sending.posting, stage, ended] at landed
      exact landed
  | lower stage =>
      simp only [posting, stage] at landed
      exact landed
  | finish stage finished =>
      simp only [posting, stage] at landed
      rw [(posting_of_finish finished).1]
      exact landed
  | record => rfl

theorem Move.landing (move : Move s task s' task') :
    task'.landing = task.landing ++ if task.lands task' then [task.index] else [] := by
  have kept := move.keepsLanded
  simp only [SendTask.landing, lands, move.index]
  by_cases landed : task.posting.hasLanded = true
  · simp [landed, kept landed]
  · simp [landed]

theorem Fated.hasLanded (fated : task.Fated fate) (admitted : task.Admitted)
    (ended : task.isEnded = true) (uncancelled : task.posting.outcome ≠ some .cancelled)
    (unbroken : task.posting.outcome ≠ some .broken) :
    task.posting.hasLanded = decide (fate task.index = .accepted) := by
  cases stage : task.stage with
  | ended outcome time =>
      simp only [Fated, stage] at fated
      simp only [posting, stage] at uncancelled unbroken ⊢
      cases outcome with
      | none => simp [Admitted, stage] at admitted
      | some outcome =>
          have fits := fated outcome rfl
          cases outcome with
          | sent => simpa [SendOutcome.Fits] using fits
          | dropped => simpa [SendOutcome.Fits] using fits
          | cancelled => exact (uncancelled rfl).elim
          | broken => exact (unbroken rfl).elim
  | delayed | acquiring | sending | lowering | returning | recording =>
      simp [isEnded, stage] at ended

theorem length_landings (tasks : List SendTask) :
    (tasks.flatMap landing).length = tasks.countP (·.posting.hasLanded) := by
  induction tasks with
  | nil => rfl
  | cons task tasks induction =>
      rw [List.flatMap_cons, List.length_append, induction, List.countP_cons, landing]
      cases task.posting.hasLanded <;> simp [Nat.add_comm]

end SendTask

theorem AllEnded.landings {tasks : List SendTask} (done : AllEnded tasks)
    (uncancelled : endedWith .cancelled tasks = 0)
    (unbroken : ∀ task ∈ tasks, task.posting.outcome ≠ some .broken)
    (fated : ∀ task ∈ tasks, task.Fated fate) :
    tasks.flatMap SendTask.landing = (tasks.map (·.index)).filter (fate · = .accepted) := by
  induction tasks with
  | nil => rfl
  | cons task tasks induction =>
      obtain ⟨⟨admitted, ended⟩, rest⟩ := List.forall_mem_cons.mp done
      obtain ⟨first, others⟩ := List.forall_mem_cons.mp fated
      obtain ⟨whole, wholes⟩ := List.forall_mem_cons.mp unbroken
      rw [endedWith, List.countP_cons, Nat.add_eq_zero_iff] at uncancelled
      have landed := first.hasLanded admitted ended (by simpa using uncancelled.2) whole
      rw [List.flatMap_cons, induction rest uncancelled.1 wholes others, SendTask.landing, landed,
        List.map_cons, List.filter_cons]
      split <;> rfl

namespace Unthrottled

variable {p : Publication} {u u' : Unthrottled} {landed : List Nat}

/-- The number of messages of which the publisher knows what the sink did with them. A message that
the sink refused is counted when it is dropped. -/
def known (u : Unthrottled) : Nat :=
  match u.stage with
  | .checking | .counted _ | .transit .. | .refused _ | .ended => u.index
  | .accepted .. | .recording _ | .pausing _ => u.index + 1

def Learned (p : Publication) (fate : Nat → Reply) (u : Unthrottled) : Prop :=
  match u.stage with
  | .transit _ _ transit => transit.Brings (fate u.index)
  | .refused error => fate u.index = .failed error
  | .ended => u.index = p.count
  | .checking | .counted _ | .accepted .. | .recording _ | .pausing _ => True

structure Fated (p : Publication) (fate : Nat → Reply) (landed : List Nat) (u : Unthrottled) :
    Prop where
  accepted : landed = (List.range u.known).filter (fate · = .accepted)
  sent : landed.length = u.sent + u.posting.hasLanded.toNat
  learned : u.Learned p fate

private theorem fated_advance
    (accepted : landed = (List.range (u.index + 1)).filter (fate · = .accepted))
    (sent : landed.length = u.sent) : (u.advance p s).Fated p fate landed := by
  unfold advance
  split <;> exact ⟨accepted, sent, trivial⟩

private theorem filter_range_succ (fate : Nat → Reply) (index : Nat) :
    (List.range (index + 1)).filter (fate · = .accepted) =
      (List.range index).filter (fate · = .accepted) ++
        if fate index = .accepted then [index] else [] := by
  rw [List.range_succ, List.filter_append, List.filter_cons]
  simp

private theorem Fated.unlanded (lands : u.lands u' = false) (fated : u'.Fated p fate landed) :
    u'.Fated p fate (landed ++ if u.lands u' then [u.index] else []) := by
  simpa [lands] using fated

theorem Move.fated (move : Move p s u s' u') (active : s.cancelled = false) (placed : u.Placed p)
    (decided : ∀ offer, u.offer? = none → u'.offer? = some offer → offer.Decided fate)
    (fated : u.Fated p fate landed) :
    u'.Fated p fate (landed ++ if u.lands u' then [u.index] else []) ∧
      s'.outlay.retried = s.outlay.retried := by
  obtain ⟨accepted, sent, learned⟩ := fated
  cases move with
  | quit _ _ cancelled | forgo _ cancelled | withdraw _ cancelled | halt _ cancelled =>
      cases active.symm.trans cancelled
  | finish stage done =>
      simp only [known, posting, stage] at accepted sent
      simp only [Placed, stage] at placed
      have last : u.index = p.count := Nat.le_antisymm placed.2.1 done
      exact ⟨.unlanded (by simp [lands, posting, goto]) ⟨accepted, sent, last⟩, rfl⟩
  | count stage | resume stage =>
      simp only [known, posting, stage] at accepted sent
      exact ⟨.unlanded (by simp [lands, posting, goto]) ⟨accepted, sent, trivial⟩, rfl⟩
  | offer stage =>
      simp only [known, posting, stage] at accepted sent
      have unoffered : u.offer? = none := by rw [offer?, stage]
      exact ⟨.unlanded (by simp [lands, posting, goto])
        ⟨accepted, sent, decided _ unoffered rfl rfl⟩, rfl⟩
  | @accept started payload _ stage _ replied =>
      simp only [known, posting, Learned, stage] at accepted sent learned
      have fits := learned.eq_of_reply? replied
      have lands : u.lands (u.goto (.accepted started payload)) = true := by
        simp [lands, posting, goto, stage]
      have grown := filter_range_succ fate u.index
      rw [if_pos fits, ← accepted] at grown
      rw [lands, if_pos rfl]
      refine ⟨⟨grown.symm, ?_, trivial⟩, rfl⟩
      rw [List.length_append, sent]
      rfl
  | refuse stage _ replied =>
      simp only [known, posting, Learned, stage] at accepted sent learned
      have fits := learned.eq_of_reply? replied
      exact ⟨.unlanded (by simp [lands, posting, goto]) ⟨accepted, sent, fits⟩, rfl⟩
  | confirm stage noted =>
      simp only [known, posting, stage] at accepted sent
      rw [noted]
      refine ⟨.unlanded ?_ ?_, rfl⟩
      · split <;> simp [lands, posting, goto, stage]
      · split
        · exact ⟨accepted, sent, trivial⟩
        · exact fated_advance accepted sent
  | record stage recorded =>
      simp only [known, posting, stage] at accepted sent
      rw [Shared.outlay_recordLine recorded]
      exact ⟨.unlanded (by simp [lands]) (fated_advance accepted sent), rfl⟩
  | drop stage =>
      simp only [known, posting, Learned, stage] at accepted sent learned
      have skipped : landed = (List.range (u.index + 1)).filter (fate · = .accepted) := by
        rw [filter_range_succ, learned, if_neg Reply.noConfusion, List.append_nil]
        exact accepted
      exact ⟨.unlanded (by simp [lands]) (fated_advance skipped sent), rfl⟩

end Unthrottled

namespace Publisher

variable {p : Publication} {tasks : List SendTask} {publisher publisher' : Publisher}
  {started : Option SendTask} {landed : List Nat} {base : Nat}

def Fated (p : Publication) (fate : Nat → Reply) (tasks : List SendTask) (landed : List Nat)
    (publisher : Publisher) : Prop :=
  match publisher.stage with
  | .throttled _ =>
      landed.Perm (tasks.flatMap SendTask.landing) ∧ ∀ task ∈ tasks, task.Fated fate
  | .unthrottled u => u.Fated p fate landed
  | .ended report =>
      landed.Perm ((List.range p.count).filter (fate · = .accepted)) ∧
        landed.length = report.sent

private theorem fated_started {t t' : Throttled} (move : Throttled.Move p s t s' t' started)
    (fated : landed.Perm (tasks.flatMap SendTask.landing) ∧ ∀ task ∈ tasks, task.Fated fate) :
    landed.Perm ((tasks ++ started.toList).flatMap SendTask.landing) ∧
      ∀ task ∈ tasks ++ started.toList, task.Fated fate := by
  have fresh : started.toList.flatMap SendTask.landing = [] ∧
      ∀ task ∈ started.toList, task.Fated fate := by
    cases move with
    | launch =>
        refine ⟨rfl, ?_⟩
        rintro task member
        cases List.mem_singleton.mp member
        exact ⟨rfl, trivial⟩
    | find | giveUp | wait | hold | leave | acquire | quit | resume =>
        exact ⟨rfl, List.forall_mem_nil _⟩
  rw [List.flatMap_append, fresh.1, List.append_nil]
  exact ⟨fated.1, List.forall_mem_append.mpr ⟨fated.2, fresh.2⟩⟩

private theorem fated_of_report? {t : Throttled} {elapsed : Span} {report : PublishReport}
    (covers : s.outlay.Covers base tasks) (placed : t.Placed p tasks.length)
    (untroubled : t.Untroubled p tasks.length) (uncancelled : endedWith .cancelled tasks = 0)
    (unbroken : ∀ task ∈ tasks, task.posting.outcome ≠ some .broken)
    (numbered : tasks.map (·.index) = List.range tasks.length)
    (fated : landed.Perm (tasks.flatMap SendTask.landing) ∧ ∀ task ∈ tasks, task.Fated fate)
    (reported : t.report? p tasks elapsed = some report) :
    landed.Perm ((List.range p.count).filter (fate · = .accepted)) ∧
      landed.length = report.sent := by
  obtain ⟨accounts, ended⟩ := Throttled.report?_accounts covers placed reported
  have joining : t.stage = .joining := by
    unfold Throttled.report? at reported
    split at reported
    case isTrue done => exact done.1
    case isFalse => cases reported
  simp only [Throttled.Placed, Throttled.Untroubled, joining] at placed untroubled
  have total : tasks.length = p.count := Nat.le_antisymm placed untroubled
  have landings := ended.landings uncancelled unbroken fated.2
  refine ⟨?_, ?_⟩
  · rw [← total, ← numbered, ← landings]
    exact fated.1
  · rw [fated.1.length_eq, SendTask.length_landings, ended.countP_hasLanded, ← covers.sent]
    exact accounts.sent

theorem Move.fated (move : Move p s tasks publisher s' publisher' started)
    (active : s.cancelled = false) (accounted : publisher.Accounted p base s.outlay tasks)
    (untroubled : publisher.Untroubled p tasks)
    (unbroken : ∀ task ∈ tasks, task.posting.outcome ≠ some .broken)
    (numbered : tasks.map (·.index) = List.range tasks.length)
    (decided : ∀ offer, publisher.offer? = none → publisher'.offer? = some offer →
      offer.Decided fate)
    (fated : publisher.Fated p fate tasks landed) :
    publisher'.Fated p fate (tasks ++ started.toList)
        (landed ++
          (if publisher.lands publisher' then publisher.offer?.map (·.index) else none).toList) ∧
      s'.outlay.retried = s.outlay.retried := by
  cases move with
  | throttled stage moved =>
      have move := Throttled.move_of_step moved
      simp only [Fated, stage] at fated
      simp only [Fated, lands, stage, Bool.false_eq_true, if_false, Option.toList_none,
        List.append_nil]
      exact ⟨fated_started move fated, congrArg Outlay.retried move.outlay⟩
  | unthrottled stage moved =>
      rename_i u u'
      have move := Unthrottled.move_of_step moved
      simp only [Accounted, stage] at accounted
      simp only [Fated, stage] at fated
      simp only [offer?, stage] at decided
      have landing : (if u.lands u' then u.offer?.map (·.index) else none).toList =
          if u.lands u' then [u.index] else [] := by
        split
        case isTrue lands =>
            obtain ⟨offer, held⟩ := Option.isSome_iff_exists.mp (move.exchange.present lands)
            rw [held, Option.map_some, Unthrottled.index_of_offer? held]
            rfl
        case isFalse => rfl
      simp only [Fated, lands, offer?, stage, landing]
      exact move.fated active accounted.2.placed decided fated
  | join stage reported counted =>
      simp only [Accounted, stage] at accounted
      simp only [Untroubled, stage] at untroubled
      simp only [Fated, stage] at fated
      simp only [Fated, Publisher.finish, lands, stage, Bool.false_eq_true, if_false, Option.toList_none,
        List.append_nil]
      exact ⟨fated_of_report? accounted.1 accounted.2 untroubled.1 untroubled.2 unbroken numbered
        fated reported, rfl⟩
  | finish stage reported =>
      simp only [Fated, stage] at fated
      simp only [Fated, Publisher.finish, lands, stage, Bool.false_eq_true, if_false, Option.toList_none,
        List.append_nil]
      unfold Unthrottled.report? at reported
      split at reported
      case isFalse => cases reported
      case isTrue ended =>
          cases reported
          obtain ⟨accepted, sent, learned⟩ := fated
          simp only [Unthrottled.known, Unthrottled.posting, Unthrottled.Learned, ended]
            at accepted sent learned
          refine ⟨⟨?_, sent⟩, rfl⟩
          rw [accepted, learned]

theorem Fated.advance {place : Nat} {task task' : SendTask}
    (fated : publisher.Fated p fate tasks landed)
    (accounted : publisher.Accounted p base s.outlay tasks)
    (final : ∀ index, (fate index).IsFinal s.flow)
    (running : tasks[place]? = some task) (moved : task.step s = some (s', task'))
    (decided : ∀ offer, task.offer? = none → task'.offer? = some offer → offer.Decided fate) :
    publisher.Fated p fate (tasks.set place task')
        (landed ++ if task.lands task' then [task.index] else []) ∧
      s'.outlay.retried = s.outlay.retried := by
  have move := SendTask.move_of_step moved
  have member := List.mem_of_getElem? running
  unfold Fated at fated ⊢
  unfold Accounted at accounted
  split at fated
  case h_1 t stage =>
      obtain ⟨landings, each⟩ := fated
      obtain ⟨next, retried⟩ := move.fated final decided (each task member)
      refine ⟨⟨?_, ?_⟩, retried⟩
      -- The sends land in any order, so that the messages are counted one by one.
      · rw [List.perm_iff_count] at landings ⊢
        intro index
        have counted := count_flatMap_set_add SendTask.landing running task' index
        have landings := landings index
        rw [move.landing, List.count_append] at counted
        rw [List.count_append]
        omega
      · intro other present
        rcases List.mem_or_eq_of_mem_set present with before | rfl
        · exact each other before
        · exact next
  case h_2 u stage =>
      simp only [stage] at accounted
      rw [accounted.1] at running
      cases running
  case h_3 report stage =>
      simp only [stage] at accounted
      have ended := (accounted.2 task member).2
      rw [SendTask.step_of_ended ended] at moved
      cases moved

end Publisher

end Courier
