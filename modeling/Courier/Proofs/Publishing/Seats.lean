import Courier.Proofs.Publishing.Accounts
import Courier.Proofs.World.Reach

/-! Who holds the slots. Every slot is free, or the publisher holds it for its next message, or a
send holds it; the gauge counts the holders, and only the publisher waits for a slot. -/

namespace Courier

/-- What a part has of the slots. -/
structure Seat where
  holds : Bool
  counted : Bool
  tickets : List Nat

def Seat.none : Seat := ⟨false, false, []⟩

def SlotWait.seat : SlotWait → Seat
  | .asking | .ended false => .none
  | .queued ticket => ⟨false, false, [ticket]⟩
  | .taken => ⟨true, false, []⟩
  | .raised _ | .ended true => ⟨true, true, []⟩

def Throttled.seat (t : Throttled) : Seat :=
  match t.stage with
  | .acquiring wait => wait.seat
  | .admitting => ⟨true, true, []⟩
  | .waiting _ | .pausing _ | .joining => .none

def Publisher.seat (publisher : Publisher) : Seat :=
  match publisher.stage with
  | .throttled t => t.seat
  | .unthrottled _ | .ended _ => .none

namespace SendTask

def holdsSlot (task : SendTask) : Bool :=
  match task.stage with
  | .sending _ | .lowering _ | .returning _ => true
  | .delayed _ | .acquiring _ | .recording _ | .ended .. => false

def isCounted (task : SendTask) : Bool :=
  match task.stage with
  | .sending _ | .lowering _ => true
  | .delayed _ | .acquiring _ | .returning _ | .recording _ | .ended .. => false

theorem seat_of_finish {s s' : Shared} {task task' : SendTask} {outcome : SendOutcome}
    (finished : task.finish s outcome = (s', task')) :
    task'.holdsSlot = false ∧ task'.isCounted = false := by
  unfold finish at finished
  split at finished <;> cases finished <;> exact ⟨rfl, rfl⟩

end SendTask

/-- The slots agree with the publisher's seat and with the sends, where there are `limit` in all. -/
structure Seated (limit : Nat) (slots : Slots) (seat : Seat) (tasks : List SendTask) : Prop where
  free : slots.free + seat.holds.toNat + tasks.countP SendTask.holdsSlot = limit
  inFlight : slots.inFlight = seat.counted.toNat + tasks.countP SendTask.isCounted
  queue : slots.queue = seat.tickets
  admitted : ∀ task ∈ tasks, task.Admitted

namespace Seated

variable {limit : Nat} {p : Publication} {s s' : Shared} {slots slots' : Slots} {seat seat' : Seat}
  {tasks : List SendTask} {started : Option SendTask}

theorem start (limit : Nat) : Seated limit (.ofCount limit) .none [] :=
  ⟨rfl, rfl, rfl, List.forall_mem_nil _⟩

theorem wait {wait wait' : SlotWait} (seated : Seated limit s.slots wait.seat tasks)
    (moved : wait.step s = some (s', wait')) :
    Seated limit s'.slots wait'.seat tasks := by
  obtain ⟨free, inFlight, queue, admitted⟩ := seated
  cases wait with
  | asking =>
      simp only [SlotWait.step] at moved
      split at moved
      case isTrue =>
          cases moved
          exact ⟨free, inFlight, queue, admitted⟩
      case isFalse =>
          cases moved
          refine ⟨free, inFlight, ?_, admitted⟩
          change s.slots.queue ++ [s.slots.nextTicket] = [s.slots.nextTicket]
          rw [queue]
          rfl
  | queued ticket =>
      simp only [SlotWait.step] at moved
      split at moved
      case isTrue =>
          cases moved
          refine ⟨free, inFlight, ?_, admitted⟩
          change s.slots.queue.erase ticket = []
          rw [queue]
          simp [SlotWait.seat]
      case isFalse =>
          simp only [Option.map_eq_some_iff, Slots.take?] at moved
          obtain ⟨slots, taken, same⟩ := moved
          cases same
          split at taken
          case h_2 => cases taken
          case h_1 first rest free' queue' free'' =>
              split at taken
              case isFalse => cases taken
              case isTrue =>
                  cases taken
                  rw [queue'] at queue
                  cases queue
                  refine ⟨?_, inFlight, rfl, admitted⟩
                  simp only [SlotWait.seat, free'', Bool.toNat_false, Bool.toNat_true] at free ⊢
                  omega
  | taken =>
      cases moved
      refine ⟨free, ?_, queue, admitted⟩
      simp only [SlotWait.seat, Slots.raise, Bool.toNat_false, Bool.toNat_true] at inFlight ⊢
      omega
  | raised =>
      cases moved
      exact ⟨free, inFlight, queue, admitted⟩
  | ended => cases moved

theorem launch {task : SendTask} (seated : Seated limit slots ⟨true, true, []⟩ tasks)
    (holds : task.holdsSlot = true) (counted : task.isCounted = true) (admitted : task.Admitted) :
    Seated limit slots .none (tasks ++ [task]) where
  free := by
    have free := seated.free
    simp only [List.countP_append, List.countP_singleton, holds, Seat.none, Bool.toNat_true,
      Bool.toNat_false, if_true] at free ⊢
    omega
  inFlight := by
    have inFlight := seated.inFlight
    simp only [List.countP_append, List.countP_singleton, counted, Seat.none, Bool.toNat_true,
      Bool.toNat_false, if_true] at inFlight ⊢
    omega
  queue := seated.queue
  admitted := by
    intro other member
    rcases List.mem_append.mp member with before | last
    · exact seated.admitted other before
    · exact List.mem_singleton.mp last ▸ admitted

private theorem seat_visit (t : Throttled) (index : Nat) : (t.visit p index).seat = .none := by
  by_cases more : index < p.count <;> simp [Throttled.visit, Throttled.seat, more]

theorem seat_start (p : Publication) (s : Shared) : (Publisher.start p s).seat = .none := by
  unfold Publisher.start
  cases s.flow.enabled with
  | true => exact seat_visit ..
  | false => rfl

private theorem seat_pause (t : Throttled) : (t.pause p s).seat = .none := by
  unfold Throttled.pause
  dsimp only
  split
  · rfl
  · exact seat_visit ..

theorem throttled {t t' : Throttled} (seated : Seated limit s.slots t.seat tasks)
    (move : Throttled.Move p s t s' t' started) :
    Seated limit s'.slots t'.seat (tasks ++ started.toList) := by
  cases move with
  | find stage | giveUp stage | wait stage | hold stage | leave stage | quit stage =>
      simp only [Throttled.seat, stage] at seated
      rw [Option.toList_none, List.append_nil]
      exact seated
  | acquire stage moved =>
      simp only [Throttled.seat, stage] at seated
      rw [Option.toList_none, List.append_nil]
      exact seated.wait moved
  | launch stage =>
      simp only [Throttled.seat, stage] at seated
      rw [seat_pause]
      exact seated.launch rfl rfl (SendTask.admitted_Admitted _ _ _ _ _)
  | resume stage =>
      simp only [Throttled.seat, stage] at seated
      rw [seat_visit, Option.toList_none, List.append_nil]
      exact seated

theorem publisher {publisher publisher' : Publisher}
    (seated : Seated limit s.slots publisher.seat tasks)
    (move : Publisher.Move p s tasks publisher s' publisher' started) :
    Seated limit s'.slots publisher'.seat (tasks ++ started.toList) := by
  cases move with
  | throttled stage moved =>
      simp only [Publisher.seat, stage] at seated
      exact seated.throttled (Throttled.move_of_step moved)
  | unthrottled stage moved =>
      simp only [Publisher.seat, stage] at seated
      obtain ⟨_, _, _, _, _, rfl⟩ := (Unthrottled.move_of_step moved).reach
      rw [Option.toList_none, List.append_nil]
      exact seated
  | join stage reported =>
      unfold Throttled.report? at reported
      split at reported
      case isFalse => cases reported
      case isTrue done =>
          simp only [Publisher.seat, stage, Throttled.seat, done.1] at seated
          rw [Option.toList_none, List.append_nil]
          exact seated
  | finish stage =>
      simp only [Publisher.seat, stage] at seated
      rw [Option.toList_none, List.append_nil]
      exact seated

private theorem replace {index : Nat} {task task' : SendTask}
    (seated : Seated limit slots seat tasks) (running : tasks[index]? = some task)
    (admitted : task'.Admitted)
    (free : slots'.free + task'.holdsSlot.toNat = slots.free + task.holdsSlot.toNat)
    (inFlight : slots'.inFlight + task.isCounted.toNat = slots.inFlight + task'.isCounted.toNat)
    (queue : slots'.queue = slots.queue) :
    Seated limit slots' seat (tasks.set index task') where
  free := by
    have held := countP_set_add SendTask.holdsSlot running task'
    have before := seated.free
    omega
  inFlight := by
    have counted := countP_set_add SendTask.isCounted running task'
    have before := seated.inFlight
    omega
  queue := queue.trans seated.queue
  admitted := by
    intro other member
    rcases List.mem_or_eq_of_mem_set member with before | rfl
    · exact seated.admitted other before
    · exact admitted

theorem task {index : Nat} {task task' : SendTask} (seated : Seated limit s.slots seat tasks)
    (running : tasks[index]? = some task) (move : SendTask.Move s task s' task') :
    Seated limit s'.slots seat (tasks.set index task') := by
  have admitted := seated.admitted task (List.mem_of_getElem? running)
  have admitted' := (move.booked admitted).2
  cases move with
  | begin stage | enter stage | leave stage | wait stage =>
      simp [SendTask.Admitted, stage] at admitted
  | send stage moved =>
      obtain ⟨_, _, _, _, _, rfl⟩ := (Sending.move_of_step moved).reach
      refine seated.replace running admitted' ?_ ?_ rfl
      · simp only [SendTask.holdsSlot, SendTask.goto, stage]
      · simp only [SendTask.isCounted, SendTask.goto, stage]
  | conclude stage =>
      refine seated.replace running admitted' ?_ ?_ rfl
      · simp only [SendTask.holdsSlot, SendTask.goto, stage]
      · simp only [SendTask.isCounted, SendTask.goto, stage]
  | lower stage =>
      have counted : task.isCounted = true := by simp only [SendTask.isCounted, stage]
      have positive : 0 < tasks.countP SendTask.isCounted :=
        List.countP_pos_iff.mpr ⟨task, List.mem_of_getElem? running, counted⟩
      have inFlight := seated.inFlight
      refine seated.replace running admitted' ?_ ?_ rfl
      · simp only [SendTask.holdsSlot, SendTask.goto, stage, Slots.lower]
      · simp only [SendTask.isCounted, SendTask.goto, stage, Slots.lower, Bool.toNat_true,
          Bool.toNat_false]
        omega
  | finish stage finished =>
      obtain ⟨holds, counted⟩ := SendTask.seat_of_finish finished
      obtain ⟨log, same⟩ := SendTask.log_of_finish finished
      rw [same]
      refine seated.replace running admitted' ?_ ?_ rfl
      · rw [holds]
        simp only [SendTask.holdsSlot, stage, Slots.giveBack, Bool.toNat_true, Bool.toNat_false,
          Nat.add_zero]
      · rw [counted]
        simp only [SendTask.isCounted, stage, Slots.giveBack]
  | record stage recorded =>
      obtain ⟨ledger, rfl⟩ := Shared.ledger_of_recordLine recorded
      refine seated.replace running admitted' ?_ ?_ rfl
      · simp only [SendTask.holdsSlot, SendTask.goto, stage]
      · simp only [SendTask.isCounted, SendTask.goto, stage]

theorem vacant (seated : Seated limit slots .none tasks)
    (ended : ∀ task ∈ tasks, task.isEnded = true) :
    slots.free = limit ∧ slots.inFlight = 0 ∧ slots.queue = [] := by
  have unseated : ∀ task ∈ tasks, task.holdsSlot = false ∧ task.isCounted = false := by
    intro task member
    have ended := ended task member
    cases stage : task.stage with
    | ended => simp [SendTask.holdsSlot, SendTask.isCounted, stage]
    | delayed | acquiring | sending | lowering | returning | recording =>
        simp [SendTask.isEnded, stage] at ended
  have held : tasks.countP SendTask.holdsSlot = 0 := by
    rw [List.countP_eq_zero]
    intro task member
    simp [(unseated task member).1]
  have counted : tasks.countP SendTask.isCounted = 0 := by
    rw [List.countP_eq_zero]
    intro task member
    simp [(unseated task member).2]
  have free := seated.free
  have inFlight := seated.inFlight
  rw [held] at free
  rw [counted] at inFlight
  exact ⟨free, inFlight, seated.queue⟩

end Seated

end Courier
