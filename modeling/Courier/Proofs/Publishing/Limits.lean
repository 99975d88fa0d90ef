import Courier.Proofs.Publishing.Offers
import Courier.Proofs.Publishing.Seats

/-! What the slots bound. Whoever is counted by the gauge holds a slot, so that neither the gauge
nor its peak ever shows more than there are slots. -/

namespace Courier

namespace SendTask

/-- The message is admitted, and not yet through: its send has no outcome or still has its slot. -/
def isUnderway (task : SendTask) : Bool := task.holdsSlot || task.posting.outcome.isNone

variable {s s' : Shared} {task task' : SendTask}

theorem isUnderway_of_admitted (admitted : task.Admitted) : task.isUnderway = task.holdsSlot := by
  cases stage : task.stage with
  | delayed | acquiring => simp [Admitted, stage] at admitted
  | ended outcome time =>
      cases outcome with
      | none => simp [Admitted, stage] at admitted
      | some outcome => simp [isUnderway, holdsSlot, posting, stage]
  | sending | lowering | returning | recording => simp [isUnderway, holdsSlot, posting, stage]

theorem holdsSlot_of_isCounted (counted : task.isCounted = true) : task.holdsSlot = true := by
  unfold isCounted at counted
  split at counted
  case h_1 stage | h_2 stage => simp [holdsSlot, stage]
  all_goals cases counted

theorem holdsSlot_of_offer? (held : task.offer?.isSome = true) : task.holdsSlot = true := by
  unfold offer? at held
  split at held
  case h_1 m stage => simp [holdsSlot, stage]
  case h_2 => cases held

theorem Move.holdsSlot (move : Move s task s' task') (admitted : task.Admitted)
    (holds : task'.holdsSlot = true) : task.holdsSlot = true := by
  cases move with
  | begin stage | enter stage | leave stage | wait stage => simp [Admitted, stage] at admitted
  | send stage | conclude stage | lower stage | finish stage => simp [SendTask.holdsSlot, stage]
  | record stage => cases holds

theorem Move.peak (move : Move s task s' task') (admitted : task.Admitted) :
    s'.slots.peak = s.slots.peak := by
  cases move with
  | begin stage | enter stage | leave stage | wait stage => simp [Admitted, stage] at admitted
  | send stage moved =>
      obtain ⟨_, _, _, _, _, rfl⟩ := (Sending.move_of_step moved).reach
      rfl
  | conclude | lower => rfl
  | finish stage finished =>
      obtain ⟨log, rfl⟩ := log_of_finish finished
      rfl
  | record stage recorded =>
      obtain ⟨ledger, rfl⟩ := Shared.ledger_of_recordLine recorded
      rfl

end SendTask

theorem Publisher.counted_le_holds (publisher : Publisher) :
    publisher.seat.counted.toNat ≤ publisher.seat.holds.toNat := by
  unfold seat
  split
  case h_1 t stage =>
      unfold Throttled.seat
      split
      case h_1 wait stage =>
          cases wait with
          | ended held => cases held <;> exact Nat.le_refl _
          | asking | queued | raised => exact Nat.le_refl _
          | taken => exact Nat.zero_le _
      all_goals exact Nat.le_refl _
  all_goals exact Nat.le_refl _

namespace Seated

variable {limit : Nat} {slots : Slots} {seat : Seat} {tasks : List SendTask}

theorem countP_isCounted_le (tasks : List SendTask) :
    tasks.countP SendTask.isCounted ≤ tasks.countP SendTask.holdsSlot :=
  List.countP_mono_left fun _ _ counted => SendTask.holdsSlot_of_isCounted counted

theorem inFlight_le (seated : Seated limit slots seat tasks)
    (sound : seat.counted.toNat ≤ seat.holds.toNat) :
    slots.inFlight ≤ limit := by
  have free := seated.free
  have inFlight := seated.inFlight
  have counted := countP_isCounted_le tasks
  omega

theorem countP_offer?_le (seated : Seated limit slots seat tasks) :
    tasks.countP (·.offer?.isSome) ≤ limit := by
  have held : tasks.countP (·.offer?.isSome) ≤ tasks.countP SendTask.holdsSlot :=
    List.countP_mono_left fun _ _ held => SendTask.holdsSlot_of_offer? held
  have free := seated.free
  omega

theorem countP_isUnderway_lt (seated : Seated limit slots seat tasks)
    (holds : seat.holds = true) :
    tasks.countP SendTask.isUnderway < limit := by
  have same : tasks.countP SendTask.isUnderway = tasks.countP SendTask.holdsSlot :=
    List.countP_congr fun task member => by
      rw [SendTask.isUnderway_of_admitted (seated.admitted task member)]
  have free := seated.free
  rw [holds] at free
  simp only [Bool.toNat_true] at free
  omega

end Seated

def SlotWait.observed? : SlotWait → Option Nat
  | .raised inFlight => some inFlight
  | .asking | .queued _ | .taken | .ended _ => none

def Throttled.observed? (t : Throttled) : Option Nat :=
  match t.stage with
  | .acquiring wait => wait.observed?
  | .waiting _ | .admitting | .pausing _ | .joining => none

def Publisher.observed? (publisher : Publisher) : Option Nat :=
  match publisher.stage with
  | .throttled t => t.observed?
  | .unthrottled _ | .ended _ => none

structure Gauged (limit : Nat) (slots : Slots) (observed? : Option Nat) : Prop where
  peak : slots.peak ≤ limit
  observed : ∀ inFlight, observed? = some inFlight → inFlight ≤ limit

namespace Gauged

variable {limit : Nat} {p : Publication} {s s' : Shared} {slots : Slots} {tasks : List SendTask}
  {started : Option SendTask}

theorem none (peak : slots.peak ≤ limit) : Gauged limit slots none := ⟨peak, nofun⟩

theorem wait {wait wait' : SlotWait} (gauged : Gauged limit s.slots wait.observed?)
    (seated : Seated limit s.slots wait.seat tasks) (moved : wait.step s = some (s', wait')) :
    Gauged limit s'.slots wait'.observed? := by
  obtain ⟨peak, observed⟩ := gauged
  cases wait with
  | asking =>
      simp only [SlotWait.step] at moved
      split at moved <;> cases moved <;> exact .none peak
  | queued ticket =>
      simp only [SlotWait.step] at moved
      split at moved
      case isTrue =>
          cases moved
          exact .none peak
      case isFalse =>
          simp only [Option.map_eq_some_iff, Slots.take?] at moved
          obtain ⟨slots, taken, same⟩ := moved
          cases same
          split at taken
          case h_2 => cases taken
          case h_1 =>
              split at taken
              case isFalse => cases taken
              case isTrue =>
                  cases taken
                  exact .none peak
  | taken =>
      -- The slot is held and not counted yet, so that there is room for one more.
      cases moved
      refine ⟨peak, ?_⟩
      rintro inFlight ⟨⟩
      have free := seated.free
      have counted := seated.inFlight
      have least := Seated.countP_isCounted_le tasks
      simp only [SlotWait.seat, Bool.toNat_true, Bool.toNat_false] at free counted
      omega
  | raised inFlight =>
      cases moved
      exact .none (Nat.max_le.mpr ⟨peak, observed _ rfl⟩)
  | ended => cases moved

private theorem observed?_visit (t : Throttled) (index : Nat) :
    (t.visit p index).observed? = Option.none := by
  by_cases more : index < p.count <;> simp [Throttled.visit, Throttled.observed?, more]

private theorem observed?_pause (t : Throttled) : (t.pause p s).observed? = Option.none := by
  unfold Throttled.pause
  dsimp only
  split
  · rfl
  · exact observed?_visit ..

theorem observed?_start (p : Publication) (s : Shared) :
    (Publisher.start p s).observed? = Option.none := by
  unfold Publisher.start
  cases s.flow.enabled with
  | true => exact observed?_visit ..
  | false => rfl

theorem throttled {t t' : Throttled} (gauged : Gauged limit s.slots t.observed?)
    (seated : Seated limit s.slots t.seat tasks) (move : Throttled.Move p s t s' t' started) :
    Gauged limit s'.slots t'.observed? := by
  cases move with
  | acquire stage moved =>
      simp only [Throttled.observed?, stage] at gauged
      simp only [Throttled.seat, stage] at seated
      exact gauged.wait seated moved
  | launch =>
      rw [observed?_pause]
      exact .none gauged.peak
  | resume =>
      rw [observed?_visit]
      exact .none gauged.peak
  | find | giveUp | wait | hold | leave | quit => exact .none gauged.peak

theorem publisher {publisher publisher' : Publisher}
    (gauged : Gauged limit s.slots publisher.observed?)
    (seated : Seated limit s.slots publisher.seat tasks)
    (move : Publisher.Move p s tasks publisher s' publisher' started) :
    Gauged limit s'.slots publisher'.observed? := by
  cases move with
  | throttled stage moved =>
      simp only [Publisher.observed?, stage] at gauged
      simp only [Publisher.seat, stage] at seated
      exact gauged.throttled seated (Throttled.move_of_step moved)
  | unthrottled stage moved =>
      obtain ⟨_, _, _, _, _, rfl⟩ := (Unthrottled.move_of_step moved).reach
      exact .none gauged.peak
  | join | finish => exact .none gauged.peak

end Gauged

end Courier
