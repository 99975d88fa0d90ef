import Courier.Proofs.Ledger.Balance
import Courier.Proofs.World.Reach

/-! What publishing owes the ledger. A message that the sink has accepted is owed by its sender
until its line is queued, and nothing else is. -/

namespace Courier

variable {p : Publication} {gates : List Gate} {s s' : Shared}

def Publication.linesAfter (p : Publication) (payload : List UInt8) : SendOutcome → List String
  | .sent => p.lines payload
  | .dropped | .cancelled | .broken => []

namespace Sending

def Bears (m : Sending) : Prop :=
  ∀ transit, m.stage = .transit transit → transit.command = m.command

def owed (p : Publication) (m : Sending) : List String :=
  match m.stage with
  | .accepted | .rewarded => p.lines m.payload
  | .ended outcome => p.linesAfter m.payload outcome
  | _ => []

variable {m m' : Sending}

theorem Move.payload (move : Move s m s' m') : m'.payload = m.payload := by
  cases move <;> rfl

theorem Move.bears (move : Move s m s' m') : m'.Bears := by
  intro transit stage'
  cases move with
  | offer =>
      cases stage'
      rfl
  | crash | charge | miss | find | abandon | starve | despair | wake | yield | again | count | forgo
  | withdraw | accept | refuse | reward | confirm | refund | drop | retry => cases stage'

theorem Move.deposit (move : Move s m s' m') (bears : m.Bears) :
    ∃ landed, Deposit.Step p gates s.deposit s'.deposit (m.owed p) (m'.owed p) landed [] := by
  cases move with
  | accept stage =>
      have carried := bears _ stage
      refine ⟨[m.payload], .land _ ?_ ?_ rfl⟩
      · rw [Shared.deposit_accepted, carried]
        rfl
      · simp only [owed, stage]
  | crash stage | charge stage | miss stage | find stage | abandon stage | starve stage | despair stage
  | wake stage | yield stage | again stage | count stage | forgo stage | offer stage
  | withdraw stage | refuse stage | reward stage | confirm stage | refund stage | drop stage
  | retry stage =>
      refine ⟨[], .same rfl ?_⟩
      simp only [owed, goto, stage, Publication.linesAfter]

end Sending

namespace SendTask

structure Bears (p : Publication) (task : SendTask) : Prop where
  reporting : task.reporting = if p.records then .recorded p.sender else .logged
  sending : ∀ m, task.stage = .sending m → m.payload = task.payload ∧ m.Bears

def owed (p : Publication) (task : SendTask) : List String :=
  match task.stage with
  | .sending m => m.owed p
  | .lowering outcome | .returning outcome => p.linesAfter task.payload outcome
  | .recording line => [line]
  | _ => []

variable {task task' : SendTask}

private theorem Bears.goto (bears : task.Bears p) {stage : Stage}
    (sending : ∀ m, stage = .sending m → m.payload = task.payload ∧ m.Bears) :
    (task.goto stage).Bears p := ⟨bears.reporting, sending⟩

private theorem bears_of_finish {outcome : SendOutcome} (bears : task.Bears p)
    (finished : task.finish s outcome = (s', task')) : task'.Bears p := by
  unfold finish at finished
  split at finished
  all_goals
    cases finished
    apply bears.goto
    rintro m ⟨⟩

theorem Move.bears (move : Move s task s' task') (bears : task.Bears p) : task'.Bears p := by
  cases move with
  | begin | leave | wait | conclude | lower | record =>
      apply bears.goto
      rintro m ⟨⟩
  | enter =>
      apply bears.goto
      rintro m ⟨⟩
      refine ⟨rfl, ?_⟩
      rintro transit ⟨⟩
  | send stage moved =>
      have move := Sending.move_of_step moved
      apply bears.goto
      rintro m ⟨⟩
      exact ⟨move.payload.trans (bears.sending _ stage).1, move.bears⟩
  | finish stage finished => exact bears_of_finish bears finished

/-- A send that ends well owes its line only then if there is a ledger to write to. -/
private theorem owed_of_finish {outcome : SendOutcome} (bears : task.Bears p)
    (finished : task.finish s outcome = (s', task')) :
    task'.owed p = (task.goto (.returning outcome)).owed p := by
  have reporting := bears.reporting
  cases outcome with
  | dropped | cancelled | broken =>
      cases finished
      rfl
  | sent =>
      unfold finish at finished
      split at reporting
      case isTrue records =>
          rw [reporting] at finished
          cases finished
          simp [owed, goto, Publication.linesAfter, Publication.lines, records]
      case isFalse silent =>
          rw [reporting] at finished
          cases finished
          simp [owed, goto, Publication.linesAfter, Publication.lines, silent]

theorem Move.deposit (move : Move s task s' task') (bears : task.Bears p)
    (kept : s.deposit.header.isSome = true) :
    ∃ landed, Deposit.Step p gates s.deposit s'.deposit (task.owed p) (task'.owed p) landed [] := by
  cases move with
  | begin stage | enter stage | leave stage | lower stage =>
      refine ⟨[], .same rfl ?_⟩
      simp only [owed, goto, stage, Sending.owed, Sending.start]
  | wait stage moved =>
      obtain ⟨slots, rfl⟩ := SlotWait.slots_of_step moved
      refine ⟨[], .same rfl ?_⟩
      simp only [owed, goto, stage]
  | send stage moved =>
      obtain ⟨landed, step⟩ := (Sending.move_of_step moved).deposit (bears.sending _ stage).2
      refine ⟨landed, ?_⟩
      simp only [owed, goto, stage]
      exact step
  | conclude stage ended =>
      rename_i m outcome
      refine ⟨[], .same rfl ?_⟩
      simp only [owed, goto, stage, Sending.owed, ended, (bears.sending m stage).1]
  | finish stage finished =>
      have owes := owed_of_finish bears finished
      obtain ⟨log, same⟩ := log_of_finish finished
      refine ⟨[], .same (same ▸ rfl) ?_⟩
      rw [owes]
      simp only [owed, goto, stage]
  | record stage recorded =>
      refine ⟨[], .write _ (Shared.deposit_recordLine kept recorded) ?_⟩
      simp only [owed, goto, stage]

theorem owed_of_ended (ended : task.isEnded = true) : task.owed p = [] := by
  cases stage : task.stage with
  | ended => simp only [owed, stage]
  | delayed | acquiring | sending | lowering | returning | recording =>
      simp [isEnded, stage] at ended

theorem owed_admitted (topic : String) (payload : List UInt8) (index : Nat) (reporting : Reporting)
    (now : Nat) : (admitted topic payload index reporting now).owed p = [] := rfl

theorem bears_admitted (topic : String) (payload : List UInt8) (index now : Nat) :
    (admitted topic payload index (if p.records then .recorded p.sender else .logged) now).Bears p
    where
  reporting := rfl
  sending := by
    rintro m ⟨⟩
    refine ⟨rfl, ?_⟩
    rintro transit ⟨⟩

end SendTask

namespace Unthrottled

def Bears (u : Unthrottled) : Prop :=
  ∀ started payload transit, u.stage = .transit started payload transit →
    transit.command.payload? = some payload

def owed (p : Publication) (u : Unthrottled) : List String :=
  match u.stage with
  | .accepted _ payload => p.lines payload
  | .recording line => [line]
  | _ => []

variable {u u' : Unthrottled}

@[simp] theorem owed_advance (u : Unthrottled) : (u.advance p s).owed p = [] := by
  unfold advance
  split <;> rfl

private theorem bears_advance (u : Unthrottled) : (u.advance p s).Bears := by
  unfold advance
  split
  all_goals rintro started payload transit ⟨⟩

theorem Move.bears (move : Move p s u s' u') : u'.Bears := by
  cases move with
  | offer =>
      rintro started payload transit ⟨⟩
      rfl
  | confirm =>
      split
      · rintro started payload transit ⟨⟩
      · exact bears_advance _
  | record | drop => exact bears_advance _
  | finish | quit | count | forgo | withdraw | accept | refuse | halt | resume =>
      rintro started payload transit ⟨⟩

theorem Move.deposit (move : Move p s u s' u') (bears : u.Bears)
    (kept : s.deposit.header.isSome = true) :
    ∃ landed, Deposit.Step p gates s.deposit s'.deposit (u.owed p) (u'.owed p) landed [] := by
  cases move with
  | accept stage =>
      rename_i payload transit _ _
      refine ⟨[payload], .land _ ?_ ?_ rfl⟩
      · rw [Shared.deposit_accepted, bears _ _ _ stage]
        rfl
      · simp only [owed, stage]
  | confirm stage noted =>
      refine ⟨[], .same (noted ▸ rfl) ?_⟩
      split
      case isTrue records => simp only [owed, goto, stage, Publication.lines, records, if_true]
      case isFalse silent =>
          rw [owed_advance]
          simp [owed, stage, Publication.lines, silent]
  | record stage recorded =>
      refine ⟨[], .write _ (Shared.deposit_recordLine kept recorded) ?_⟩
      rw [owed_advance]
      simp only [owed, stage]
  | drop stage =>
      refine ⟨[], .same rfl ?_⟩
      rw [owed_advance]
      simp only [owed, stage]
  | finish stage | quit stage | count stage | forgo stage | offer stage | withdraw stage
  | refuse stage | halt stage | resume stage =>
      refine ⟨[], .same rfl ?_⟩
      simp only [owed, goto, stop, stage]

end Unthrottled

namespace Publisher

def Bears (publisher : Publisher) : Prop :=
  ∀ u, publisher.stage = .unthrottled u → u.Bears

def owed (p : Publication) (publisher : Publisher) : List String :=
  match publisher.stage with
  | .unthrottled u => u.owed p
  | .throttled _ | .ended _ => []

variable {publisher publisher' : Publisher} {tasks : List SendTask} {started : Option SendTask}

theorem bears_start (p : Publication) (s : Shared) : (start p s).Bears := by
  unfold start Bears
  cases s.flow.enabled with
  | true => rintro u ⟨⟩
  | false =>
      rintro u ⟨⟩ started payload transit ⟨⟩

theorem Move.bears (move : Move p s tasks publisher s' publisher' started) : publisher'.Bears := by
  cases move with
  | unthrottled stage moved =>
      rintro u ⟨⟩
      exact (Unthrottled.move_of_step moved).bears
  | throttled | join | finish => rintro u ⟨⟩

theorem Move.launched (move : Move p s tasks publisher s' publisher' started) :
    ∀ task ∈ started, task.Bears p ∧ task.owed p = [] := by
  cases move with
  | throttled stage moved =>
      cases Throttled.move_of_step moved with
      | launch =>
          intro task member
          obtain rfl := Option.mem_some.mp member
          exact ⟨SendTask.bears_admitted _ _ _ _, SendTask.owed_admitted _ _ _ _ _⟩
      | find | giveUp | wait | hold | leave | acquire | quit | resume =>
          rintro task ⟨⟩
  | unthrottled | join | finish => rintro task ⟨⟩

theorem Move.deposit (move : Move p s tasks publisher s' publisher' started)
    (bears : publisher.Bears) (kept : s.deposit.header.isSome = true) :
    ∃ landed, Deposit.Step p gates s.deposit s'.deposit (publisher.owed p) (publisher'.owed p)
      landed [] := by
  cases move with
  | throttled stage moved =>
      obtain ⟨slots, rfl⟩ := (Throttled.move_of_step moved).reach
      refine ⟨[], .same rfl ?_⟩
      simp only [owed, stage]
  | unthrottled stage moved =>
      simp only [owed, stage]
      exact (Unthrottled.move_of_step moved).deposit (bears _ stage) kept
  | join stage =>
      refine ⟨[], .same rfl ?_⟩
      simp only [owed, Publisher.finish, stage]
  | finish stage reported =>
      unfold Unthrottled.report? at reported
      split at reported
      case isFalse => cases reported
      case isTrue ended =>
          refine ⟨[], .same rfl ?_⟩
          simp only [owed, Publisher.finish, stage, Unthrottled.owed, ended]

theorem owed_start (p : Publication) (s : Shared) : (start p s).owed p = [] := by
  unfold start owed
  cases s.flow.enabled <;> rfl

theorem owed_of_ended {report : PublishReport} (stage : publisher.stage = .ended report) :
    publisher.owed p = [] := by
  simp only [owed, stage]

end Publisher

end Courier
