import Courier.Proofs.World.Motion
import Courier.Proofs.World.Reach

/-! What every part looks at: the time, and whether it is to stop. The clock alone changes the time,
and of the parts only the session tells the others to stop. What was told is never taken back. -/

namespace Courier

structure Orders where
  now : Nat
  cancelled : Bool
  shutdown : Bool

def Shared.orders (s : Shared) : Orders := ⟨s.now, s.cancelled, s.shutdown⟩

variable {s s' : Shared}

theorem SendTask.Move.orders {task task' : SendTask} (move : SendTask.Move s task s' task') :
    s'.orders = s.orders := by
  obtain ⟨_, _, _, _, _, _, _, rfl⟩ := move.reach
  rfl

theorem Publisher.Move.orders {p : Publication} {tasks : List SendTask}
    {publisher publisher' : Publisher} {started : Option SendTask}
    (move : Publisher.Move p s tasks publisher s' publisher' started) : s'.orders = s.orders := by
  obtain ⟨_, _, _, _, _, _, rfl⟩ := move.reach
  rfl

theorem Pump.Move.orders {pump pump' : Pump} (move : Pump.Move s pump s' pump') :
    s'.orders = s.orders := by
  obtain ⟨_, _, _, _, rfl⟩ := move.reach
  rfl

theorem Worker.Move.orders {gates : List Gate} {worker worker' : Worker}
    (move : Worker.Move gates s worker s' worker') : s'.orders = s.orders := by
  obtain ⟨_, _, _, _, _, _, _, rfl⟩ := move.reach
  rfl

theorem Session.Move.now {view : View} {session session' : Session}
    (move : Session.Move view s session s' session') : s'.now = s.now := by
  obtain ⟨_, _, _, _, _, _, rfl⟩ := move.reach
  rfl

theorem Session.Move.cancelled {view : View} {session session' : Session}
    (move : Session.Move view s session s' session') (cancelled : s.cancelled = true) :
    s'.cancelled = true := by
  cases move with
  | halt | stop | drained => rfl
  | publish | forgo | subscribe | withdraw | accept | refuse | unsubscribe | watch | lose
  | wait | rouse | part | tear | abandon | interrupt | linger | settle | depart | drain | joined =>
      exact cancelled

namespace World

variable {w w' : World} {motion : Motion}

theorem Move.now_eq_of_part {agent : Agent} (move : Move w (.part agent) w') :
    w'.shared.now = w.shared.now := by
  cases move with
  | session running moved => exact (Session.move_of_step moved).now
  | publisher running moved => exact congrArg Orders.now (Publisher.move_of_step moved).orders
  | task running moved => exact congrArg Orders.now (SendTask.move_of_step moved).orders
  | worker running moved => exact congrArg Orders.now (Worker.move_of_step moved).orders
  | pump running moved => exact congrArg Orders.now (Pump.move_of_step moved).orders
  | outside planned due =>
      rename_i event _
      cases event <;> rfl
  | signal | writer => rfl

theorem Move.now_le (move : Move w motion w') : w.shared.now ≤ w'.shared.now := by
  cases motion with
  | part agent => exact Nat.le_of_eq move.now_eq_of_part.symm
  | clock now =>
      cases move with
      | clock later => exact later

theorem Move.cancelled (move : Move w motion w') (cancelled : w.shared.cancelled = true) :
    w'.shared.cancelled = true := by
  have keeps {shared : Shared} (same : shared.orders = w.shared.orders) :
      shared.cancelled = true :=
    (congrArg Orders.cancelled same).trans cancelled
  cases move with
  | session running moved => exact (Session.move_of_step moved).cancelled cancelled
  | publisher running moved => exact keeps (Publisher.move_of_step moved).orders
  | task running moved => exact keeps (SendTask.move_of_step moved).orders
  | worker running moved => exact keeps (Worker.move_of_step moved).orders
  | pump running moved => exact keeps (Pump.move_of_step moved).orders
  | outside planned due =>
      rename_i event _
      cases event with
      | cancel => rfl
      | shutdown | addCredits => exact cancelled
  | signal => rfl
  | writer | clock => exact cancelled

theorem Move.active_before (move : Move w motion w') (active : w'.shared.cancelled = false) :
    w.shared.cancelled = false := by
  rw [← Bool.not_eq_true] at active ⊢
  exact fun cancelled => active (move.cancelled cancelled)

private theorem Move.settings (move : Move w motion w') :
    w'.shared.flow = w.shared.flow ∧ w'.shared.checked = w.shared.checked := by
  cases move with
  | session _ moved =>
      obtain ⟨_, _, _, _, _, _, rfl⟩ := (Session.move_of_step moved).reach
      exact ⟨rfl, rfl⟩
  | publisher _ moved =>
      obtain ⟨_, _, _, _, _, _, rfl⟩ := (Publisher.move_of_step moved).reach
      exact ⟨rfl, rfl⟩
  | task _ moved =>
      obtain ⟨_, _, _, _, _, _, _, rfl⟩ := (SendTask.move_of_step moved).reach
      exact ⟨rfl, rfl⟩
  | worker _ moved =>
      obtain ⟨_, _, _, _, _, _, _, rfl⟩ := (Worker.move_of_step moved).reach
      exact ⟨rfl, rfl⟩
  | pump _ moved =>
      obtain ⟨_, _, _, _, rfl⟩ := (Pump.move_of_step moved).reach
      exact ⟨rfl, rfl⟩
  | outside planned due =>
      rename_i event _
      cases event <;> exact ⟨rfl, rfl⟩
  | signal | writer | clock => exact ⟨rfl, rfl⟩

theorem Move.flow (move : Move w motion w') : w'.shared.flow = w.shared.flow := move.settings.1

theorem Move.overflows (move : Move w motion w') :
    w'.shared.overflows = w.shared.overflows := by
  rw [Shared.overflows, Shared.overflows, move.settings.1, move.settings.2]

end World

end Courier
