import Courier.Proofs.Intake.Counters
import Courier.Proofs.Intake.PumpMoves
import Courier.Proofs.Intake.WorkerMoves
import Courier.Proofs.Publishing.Outlay
import Courier.Proofs.World.SessionMoves

/-! What the parts of a client leave alone. Each of them changes some of the state that they share,
and the others see that only in their own view of it: the intake of frames, the pool of credits, and
what was sent. -/

namespace Courier

structure Funds where
  credits : CreditPool
  flow : Config.FlowControl

def Shared.funds (s : Shared) : Funds := ⟨s.credits, s.flow⟩

structure Spared (s s' : Shared) : Prop where
  intake : s'.intake = s.intake
  funds : s'.funds = s.funds

variable {s s' : Shared}

theorem Shared.spared_recordLine {line : String} (recorded : s.recordLine? line = some s') :
    Spared s s' := by
  obtain ⟨ledger, same⟩ := ledger_of_recordLine recorded
  rw [same]
  exact ⟨rfl, rfl⟩

theorem SlotWait.spared_of_step {wait wait' : SlotWait}
    (moved : wait.step s = some (s', wait')) : Spared s s' := by
  obtain ⟨slots, same⟩ := slots_of_step moved
  rw [same]
  exact ⟨rfl, rfl⟩

theorem SendTask.spared_of_finish {task task' : SendTask} {outcome : SendOutcome}
    (finished : task.finish s outcome = (s', task')) : Spared s s' := by
  obtain ⟨log, same⟩ := log_of_finish finished
  rw [same]
  exact ⟨rfl, rfl⟩

theorem Throttled.Move.spared {p : Publication} {t t' : Throttled} {started : Option SendTask}
    (move : Throttled.Move p s t s' t' started) : Spared s s' := by
  cases move with
  | acquire stage moved => exact SlotWait.spared_of_step moved
  | find | giveUp | wait | hold | leave | launch | quit | resume => exact ⟨rfl, rfl⟩

theorem Unthrottled.Move.spared {p : Publication} {u u' : Unthrottled}
    (move : Unthrottled.Move p s u s' u') : Spared s s' := by
  cases move with
  | confirm stage noted =>
      rw [noted]
      exact ⟨rfl, rfl⟩
  | record stage recorded => exact Shared.spared_recordLine recorded
  | finish | quit | count | forgo | offer | withdraw | accept | refuse | drop | halt | resume =>
      exact ⟨rfl, rfl⟩

theorem Publisher.Move.spared {p : Publication} {tasks : List SendTask}
    {publisher publisher' : Publisher} {started : Option SendTask}
    (move : Publisher.Move p s tasks publisher s' publisher' started) : Spared s s' := by
  cases move with
  | throttled stage moved => exact (Throttled.move_of_step moved).spared
  | unthrottled stage moved => exact (Unthrottled.move_of_step moved).spared
  | join | finish => exact ⟨rfl, rfl⟩

theorem Sending.Move.intake {m m' : Sending} (move : Sending.Move s m s' m') :
    s'.intake = s.intake := by
  cases move <;> rfl

theorem SendTask.Move.intake {task task' : SendTask} (move : SendTask.Move s task s' task') :
    s'.intake = s.intake := by
  cases move with
  | wait stage moved => exact (SlotWait.spared_of_step moved).intake
  | send stage moved => exact (Sending.move_of_step moved).intake
  | finish stage finished => exact (spared_of_finish finished).intake
  | record stage recorded => exact (Shared.spared_recordLine recorded).intake
  | begin | enter | leave | conclude | lower => rfl

theorem Session.Move.funds {view : View} {session session' : Session}
    (move : Session.Move view s session s' session') :
    s'.funds = s.funds := by
  cases move <;> rfl

theorem Pump.Move.funds {pump pump' : Pump} (move : Pump.Move s pump s' pump') :
    s'.funds = s.funds := by
  cases move <;> rfl

theorem Pump.Move.outlay {pump pump' : Pump} (move : Pump.Move s pump s' pump') :
    s'.outlay = s.outlay := by
  cases move <;> rfl

namespace Worker.Move

variable {gates : List Gate} {worker worker' : Worker}

theorem outlay (move : Worker.Move gates s worker s' worker') : s'.outlay = s.outlay := by
  cases move with
  | acknowledge stage =>
      obtain ⟨log, same⟩ := acknowledge_eq s _
      rw [same]
      split <;> rfl
  | record stage recorded => exact Shared.outlay_recordLine recorded
  | take | park | quit | stop | count | reject | number | trace | ignore | enter | pass | done | print
  | log | keep | rest | wake | leave => rfl

theorem funds (move : Worker.Move gates s worker s' worker') :
    s'.funds = s.funds ∨
      ∃ log, s' = ({ s with log } : Shared).addCredits s.flow.creditIncrement := by
  cases move with
  | acknowledge stage =>
      obtain ⟨log, same⟩ := acknowledge_eq s _
      rw [same]
      split
      · exact .inr ⟨log, rfl⟩
      · exact .inl rfl
  | record stage recorded => exact .inl (Shared.spared_recordLine recorded).funds
  | take | park | quit | stop | count | reject | number | trace | ignore | enter | pass | done | print
  | log | keep | rest | wake | leave => exact .inl rfl

end Worker.Move

end Courier
