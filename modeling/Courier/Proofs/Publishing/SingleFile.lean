import Courier.Proofs.Publishing.Limits

/-! The order of the attempts. Without flow control a publisher goes through its messages one by
one, and so it does where there is only one slot. -/

namespace Courier

def Publisher.Follows (enabled : Bool) (publisher : Publisher) : Prop :=
  match publisher.stage with
  | .throttled _ => enabled = true
  | .unthrottled _ => enabled = false
  | .ended _ => True

/-- All attempts so far are at messages that were admitted, and only the last one has a slot. -/
structure SingleFile (attempts : List Nat) (tasks : List SendTask) : Prop where
  behind : ∀ index ∈ attempts, index < tasks.length
  last : ∀ place task, tasks[place]? = some task → task.holdsSlot = true → place + 1 = tasks.length

theorem SingleFile.nil : SingleFile [] [] where
  behind := List.forall_mem_nil _
  last _ _ present _ := by
    rw [List.getElem?_nil] at present
    cases present

def Publisher.Heads (attempts : List Nat) (tasks : List SendTask) (publisher : Publisher) : Prop :=
  match publisher.stage with
  | .throttled _ => SingleFile attempts tasks
  | .unthrottled u => ∀ index ∈ attempts, index ≤ u.index
  | .ended _ => True

namespace Publisher

variable {p : Publication} {s s' : Shared} {tasks : List SendTask} {attempts : List Nat}
  {publisher publisher' : Publisher} {started : Option SendTask} {enabled : Bool}

theorem follows_start (p : Publication) (s : Shared) : (start p s).Follows s.flow.enabled := by
  unfold start Follows
  cases s.flow.enabled <;> rfl

theorem Move.follows (move : Move p s tasks publisher s' publisher' started)
    (follows : publisher.Follows enabled) : publisher'.Follows enabled := by
  cases move with
  | throttled stage | unthrottled stage =>
      simp only [Follows, stage] at follows
      exact follows
  | join | finish => trivial

theorem heads_start (p : Publication) (s : Shared) : (start p s).Heads [] [] := by
  unfold start Heads
  cases s.flow.enabled with
  | true => exact SingleFile.nil
  | false => exact List.forall_mem_nil _

end Publisher

theorem Unthrottled.Move.index_le {p : Publication} {s s' : Shared} {u u' : Unthrottled}
    (move : Unthrottled.Move p s u s' u') : u.index ≤ u'.index := by
  have advance (u : Unthrottled) (s : Shared) : u.index ≤ (u.advance p s).index := by
    unfold advance
    split
    · exact Nat.le_refl _
    · exact Nat.le_succ _
  cases move with
  | confirm =>
      split
      · exact Nat.le_refl _
      · exact advance { u with sent := u.sent + 1 } _
  | record => exact advance ..
  | drop => exact advance { u with dropped := u.dropped + 1 } _
  | resume => exact Nat.le_succ _
  | finish | quit | count | forgo | offer | withdraw | accept | refuse | halt => exact Nat.le_refl _

namespace SingleFile

variable {s s' : Shared} {slots : Slots} {tasks : List SendTask} {attempts : List Nat}

theorem launch {task : SendTask} (file : SingleFile attempts tasks)
    (seated : Seated 1 slots ⟨true, true, []⟩ tasks) : SingleFile attempts (tasks ++ [task]) where
  behind := by
    intro index member
    rw [List.length_append]
    exact Nat.lt_succ_of_lt (file.behind index member)
  last := by
    -- The publisher has the slot, so that no send has it.
    have free := seated.free
    have unheld : tasks.countP SendTask.holdsSlot = 0 := by
      simp only [Bool.toNat_true] at free
      omega
    rw [List.countP_eq_zero] at unheld
    intro place other present holds
    rw [List.getElem?_append] at present
    split at present
    case isTrue => exact (unheld other (List.mem_of_getElem? present) holds).elim
    case isFalse later =>
        obtain ⟨bound, _⟩ := List.getElem?_eq_some_iff.mp present
        simp only [List.length_singleton] at bound
        rw [List.length_append, List.length_singleton]
        omega

theorem send {place : Nat} {task task' : SendTask} {offer : Option Offer}
    (file : SingleFile attempts tasks) (running : tasks[place]? = some task)
    (numbered : task.index = place) (admitted : task.Admitted)
    (move : SendTask.Move s task s' task') (offers : offer = none ∨ offer = task'.offer?) :
    SingleFile (attempts ++ offer.toList.map (·.index)) (tasks.set place task') ∧
      ∀ earlier ∈ attempts, ∀ later ∈ offer.toList.map (·.index), earlier ≤ later := by
  obtain ⟨bound, _⟩ := List.getElem?_eq_some_iff.mp running
  -- Whatever is offered is the message of the last send.
  have head : ∀ index ∈ offer.toList.map (·.index), index + 1 = tasks.length := by
    rcases offers with rfl | rfl
    · exact List.forall_mem_nil _
    · intro index member
      obtain ⟨offer, held, rfl⟩ := List.mem_map.mp member
      have held := Option.mem_toList.mp held
      have holds := SendTask.holdsSlot_of_offer? (Option.isSome_of_mem held)
      rw [SendTask.index_of_offer? held, move.index, numbered]
      exact file.last place task running (move.holdsSlot admitted holds)
  refine ⟨⟨?_, ?_⟩, ?_⟩
  · intro index member
    rw [List.length_set]
    rcases List.mem_append.mp member with earlier | last
    · exact file.behind index earlier
    · have head := head index last
      omega
  · intro place' other present holds
    rw [List.length_set]
    by_cases same : place = place'
    · subst same
      cases (getElem?_set_of_getElem? running).symm.trans present
      exact file.last place task running (move.holdsSlot admitted holds)
    · rw [List.getElem?_set_ne same] at present
      exact file.last place' other present holds
  · intro earlier member later last
    have behind := file.behind earlier member
    have head := head later last
    omega

end SingleFile

namespace Publisher

variable {p : Publication} {s s' : Shared} {tasks : List SendTask} {attempts : List Nat}
  {publisher publisher' : Publisher} {started : Option SendTask} {enabled : Bool}
  {limit base : Nat} {offer : Option Offer}

theorem Move.heads (move : Move p s tasks publisher s' publisher' started)
    (follows : publisher.Follows enabled) (single : enabled = true → limit = 1)
    (seated : Seated limit s.slots publisher.seat tasks) (heads : publisher.Heads attempts tasks)
    (offers : offer = none ∨ offer = publisher'.offer?) :
    publisher'.Heads (attempts ++ offer.toList.map (·.index)) (tasks ++ started.toList) ∧
      ∀ earlier ∈ attempts, ∀ later ∈ offer.toList.map (·.index), earlier ≤ later := by
  cases move with
  | throttled stage moved =>
      have nothing : offer = none := offers.elim id id
      simp only [Heads, stage, nothing, Option.toList_none, List.map_nil, List.append_nil] at heads ⊢
      refine ⟨?_, fun _ _ => List.forall_mem_nil _⟩
      cases Throttled.move_of_step moved with
      | launch admitting =>
          simp only [Follows, stage] at follows
          simp only [Publisher.seat, stage, Throttled.seat, admitting, single follows] at seated
          exact heads.launch seated
      | find | giveUp | wait | hold | leave | acquire | quit | resume =>
          rw [Option.toList_none, List.append_nil]
          exact heads
  | unthrottled stage moved =>
      rename_i u u'
      have forward := (Unthrottled.move_of_step moved).index_le
      have head : ∀ index ∈ offer.toList.map (·.index), index = u'.index := by
        rcases offers with rfl | rfl
        · exact List.forall_mem_nil _
        · intro index member
          obtain ⟨offer, held, rfl⟩ := List.mem_map.mp member
          exact Unthrottled.index_of_offer? (u := u') (Option.mem_toList.mp held)
      simp only [Heads, stage] at heads ⊢
      refine ⟨?_, ?_⟩
      · intro index member
        rcases List.mem_append.mp member with earlier | last
        · exact Nat.le_trans (heads index earlier) forward
        · exact Nat.le_of_eq (head index last)
      · intro earlier member later last
        rw [head later last]
        exact Nat.le_trans (heads earlier member) forward
  | join | finish =>
      have nothing : offer = none := offers.elim id id
      rw [nothing]
      exact ⟨trivial, fun _ _ => List.forall_mem_nil _⟩

theorem Heads.send {place : Nat} {task task' : SendTask} (heads : publisher.Heads attempts tasks)
    (accounted : publisher.Accounted p base s.outlay tasks) (running : tasks[place]? = some task)
    (numbered : task.index = place) (admitted : task.Admitted)
    (moved : task.step s = some (s', task')) (offers : offer = none ∨ offer = task'.offer?) :
    publisher.Heads (attempts ++ offer.toList.map (·.index)) (tasks.set place task') ∧
      ∀ earlier ∈ attempts, ∀ later ∈ offer.toList.map (·.index), earlier ≤ later := by
  unfold Heads at heads ⊢
  unfold Accounted at accounted
  split at heads
  case h_1 => exact heads.send running numbered admitted (SendTask.move_of_step moved) offers
  case h_2 u stage =>
      simp only [stage] at accounted
      rw [accounted.1] at running
      cases running
  case h_3 report stage =>
      simp only [stage] at accounted
      have ended := (accounted.2 task (List.mem_of_getElem? running)).2
      rw [SendTask.step_of_ended ended] at moved
      cases moved

end Publisher

end Courier
