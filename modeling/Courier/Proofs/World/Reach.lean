import Courier.Proofs.Intake.PumpMoves
import Courier.Proofs.Intake.WorkerMoves
import Courier.Proofs.Publishing.PublisherMoves
import Courier.Proofs.World.SessionMoves

/-! How far a step of each part reaches: what it can change of that which the parts share. All else
it leaves as it is. -/

namespace Courier

variable {s s' : Shared}

theorem Sending.Move.reach {m m' : Sending} (move : Sending.Move s m s' m') :
    ∃ credits sink feed stats log, s' = { s with credits, sink, feed, stats, log } := by
  cases move <;> exact ⟨_, _, _, _, _, rfl⟩

theorem SendTask.Move.reach {task task' : SendTask} (move : SendTask.Move s task s' task') :
    ∃ credits slots sink feed ledger stats log,
      s' = { s with credits, slots, sink, feed, ledger, stats, log } := by
  cases move with
  | begin | enter | leave | conclude | lower => exact ⟨_, _, _, _, _, _, _, rfl⟩
  | wait stage moved =>
      obtain ⟨slots, rfl⟩ := SlotWait.slots_of_step moved
      exact ⟨_, _, _, _, _, _, _, rfl⟩
  | send stage moved =>
      obtain ⟨credits, sink, feed, stats, log, rfl⟩ := (Sending.move_of_step moved).reach
      exact ⟨_, _, _, _, _, _, _, rfl⟩
  | finish stage finished =>
      obtain ⟨log, rfl⟩ := log_of_finish finished
      exact ⟨_, _, _, _, _, _, _, rfl⟩
  | record stage recorded =>
      obtain ⟨ledger, rfl⟩ := Shared.ledger_of_recordLine recorded
      exact ⟨_, _, _, _, _, _, _, rfl⟩

theorem Throttled.Move.reach {p : Publication} {t t' : Throttled} {started : Option SendTask}
    (move : Throttled.Move p s t s' t' started) :
    ∃ slots, s' = { s with slots } := by
  cases move with
  | acquire stage moved => exact SlotWait.slots_of_step moved
  | find | giveUp | wait | hold | leave | launch | quit | resume => exact ⟨_, rfl⟩

theorem Unthrottled.Move.reach {p : Publication} {u u' : Unthrottled}
    (move : Unthrottled.Move p s u s' u') :
    ∃ sink feed ledger stats log, s' = { s with sink, feed, ledger, stats, log } := by
  cases move with
  | confirm stage noted =>
      rw [noted]
      exact ⟨_, _, _, _, _, rfl⟩
  | record stage recorded =>
      obtain ⟨ledger, rfl⟩ := Shared.ledger_of_recordLine recorded
      exact ⟨_, _, _, _, _, rfl⟩
  | finish | quit | count | forgo | offer | withdraw | accept | refuse | drop | halt | resume =>
      exact ⟨_, _, _, _, _, rfl⟩

theorem Publisher.Move.reach {p : Publication} {tasks : List SendTask}
    {publisher publisher' : Publisher} {started : Option SendTask}
    (move : Publisher.Move p s tasks publisher s' publisher' started) :
    ∃ slots sink feed ledger stats log,
      s' = { s with slots, sink, feed, ledger, stats, log } := by
  cases move with
  | throttled stage moved =>
      obtain ⟨slots, rfl⟩ := (Throttled.move_of_step moved).reach
      exact ⟨_, _, _, _, _, _, rfl⟩
  | unthrottled stage moved =>
      obtain ⟨sink, feed, ledger, stats, log, rfl⟩ := (Unthrottled.move_of_step moved).reach
      exact ⟨_, _, _, _, _, _, rfl⟩
  | join | finish => exact ⟨_, _, _, _, _, _, rfl⟩

theorem Pump.Move.reach {pump pump' : Pump} (move : Pump.Move s pump s' pump') :
    ∃ feed buffer stats log, s' = { s with feed, buffer, stats, log } := by
  cases move <;> exact ⟨_, _, _, _, rfl⟩

theorem Worker.Move.reach {gates : List Gate} {worker worker' : Worker}
    (move : Worker.Move gates s worker s' worker') :
    ∃ credits buffer ledger stats log console kept,
      s' = { s with credits, buffer, ledger, stats, log, console, kept } := by
  cases move with
  | acknowledge stage =>
      obtain ⟨log, same⟩ := acknowledge_eq s _
      rw [same]
      split <;> exact ⟨_, _, _, _, _, _, _, rfl⟩
  | record stage recorded =>
      obtain ⟨ledger, rfl⟩ := Shared.ledger_of_recordLine recorded
      exact ⟨_, _, _, _, _, _, _, rfl⟩
  | take | park | quit | stop | count | reject | number | trace | ignore | enter | pass | done | print
  | log | keep | rest | wake | leave => exact ⟨_, _, _, _, _, _, _, rfl⟩

theorem Session.Move.reach {view : View} {session session' : Session}
    (move : Session.Move view s session s' session') :
    ∃ cancelled shutdown sink feed log console,
      s' = { s with cancelled, shutdown, sink, feed, log, console } := by
  cases move <;> exact ⟨_, _, _, _, _, _, rfl⟩

end Courier
