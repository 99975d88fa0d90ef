import Courier.Proofs.Publishing.Reports

/-! Publishing that nobody has cancelled. It gives no message up, so that its report has none that
was cancelled. -/

namespace Courier

variable {p : Publication} {s s' : Shared} {admitted : Nat} {tasks : List SendTask}
  {started : Option SendTask}

theorem CreditWait.ne_lost_of_step {wait wait' : CreditWait} (active : s.cancelled = false)
    (moved : wait.step s = some wait') : wait' ≠ .ended false := by
  rintro rfl
  cases wait with
  | looking =>
      simp only [step, active, Bool.false_eq_true, if_false, Option.some.injEq] at moved
      split at moved <;> cases moved
  | resting deadline =>
      simp only [step, active, Bool.false_eq_true, if_false] at moved
      split at moved <;> cases moved
  | ended found => cases moved

theorem SlotWait.ne_lost_of_step {wait wait' : SlotWait} (active : s.cancelled = false)
    (moved : wait.step s = some (s', wait')) : wait' ≠ .ended false := by
  rintro rfl
  cases wait with
  | asking =>
      simp only [step, active, Bool.false_eq_true, if_false, Option.some.injEq] at moved
      cases moved
  | queued ticket =>
      simp only [step, active, Bool.false_eq_true, if_false, Option.map_eq_some_iff] at moved
      obtain ⟨slots, _, same⟩ := moved
      cases same
  | taken | raised | ended => cases moved

theorem Sending.Move.uncancelled {m m' : Sending} (move : Sending.Move s m s' m')
    (active : s.cancelled = false) : m'.posting.outcome ≠ some .cancelled := by
  cases move with
  | abandon stage cancelled | despair stage cancelled | forgo stage cancelled
  | withdraw stage cancelled | yield stage cancelled => cases active.symm.trans cancelled
  | crash | charge | miss | find | starve | wake | count | offer | accept | refuse | reward | confirm
  | refund | drop | retry | again => exact nofun

theorem SendTask.Move.uncancelled {task task' : SendTask} (move : SendTask.Move s task s' task')
    (active : s.cancelled = false) (uncancelled : task.posting.outcome ≠ some .cancelled) :
    task'.posting.outcome ≠ some .cancelled := by
  cases move with
  | begin | enter | leave | wait | record => exact nofun
  | send stage moved => exact (Sending.move_of_step moved).uncancelled active
  | conclude stage ended =>
      simp only [posting, Sending.posting, stage, ended] at uncancelled
      exact uncancelled
  | lower stage =>
      simp only [posting, stage] at uncancelled
      exact uncancelled
  | finish stage finished =>
      simp only [posting, stage] at uncancelled
      rwa [(posting_of_finish finished).1]

namespace Throttled

def Untroubled (p : Publication) (admitted : Nat) (t : Throttled) : Prop :=
  match t.stage with
  | .waiting wait => wait ≠ .ended false
  | .acquiring wait => wait ≠ .ended false
  | .joining => p.count ≤ admitted
  | .admitting | .pausing _ => True

theorem untroubled_visit (t : Throttled) (index : Nat) :
    (t.visit p index).Untroubled p index := by
  by_cases more : index < p.count
  · simp [visit, Untroubled, more]
  · simpa [visit, Untroubled, more] using Nat.le_of_not_lt more

theorem untroubled_pause (t : Throttled) : (t.pause p s).Untroubled p (t.index + 1) := by
  unfold pause
  dsimp only
  split
  · trivial
  · exact untroubled_visit ..

theorem Move.untroubled {t t' : Throttled} (move : Move p s t s' t' started)
    (active : s.cancelled = false) (placed : t.Placed p admitted)
    (untroubled : t.Untroubled p admitted) :
    t'.Untroubled p (admitted + started.toList.length) := by
  cases move with
  | giveUp stage | leave stage =>
      simp only [Untroubled, stage] at untroubled
      exact (untroubled rfl).elim
  | quit stage cancelled => cases active.symm.trans cancelled
  | find => exact nofun
  | hold => trivial
  | wait stage moved => exact CreditWait.ne_lost_of_step active moved
  | acquire stage moved => exact SlotWait.ne_lost_of_step active moved
  | launch stage =>
      simp only [Placed, stage] at placed
      rw [placed.1]
      exact untroubled_pause t
  | resume stage =>
      simp only [Placed, stage] at placed
      rw [placed.1]
      exact untroubled_visit ..

end Throttled

@[simp] theorem Unthrottled.cancelled_advance (u : Unthrottled) :
    (u.advance p s).cancelled = u.cancelled := by
  unfold advance
  split <;> rfl

theorem Unthrottled.Move.uncancelled {u u' : Unthrottled} (move : Unthrottled.Move p s u s' u')
    (active : s.cancelled = false) (uncancelled : u.cancelled = 0) : u'.cancelled = 0 := by
  cases move with
  | quit stage more cancelled => cases active.symm.trans cancelled
  | forgo stage cancelled | withdraw stage cancelled | halt stage cancelled =>
      cases active.symm.trans cancelled
  | confirm =>
      split
      · exact uncancelled
      · rwa [cancelled_advance]
  | record | drop => rwa [cancelled_advance]
  | finish | count | offer | accept | refuse | resume => exact uncancelled

namespace Publisher

def Untroubled (p : Publication) (tasks : List SendTask) (publisher : Publisher) : Prop :=
  match publisher.stage with
  | .throttled t => t.Untroubled p tasks.length ∧ endedWith .cancelled tasks = 0
  | .unthrottled u => u.cancelled = 0
  | .ended report => report.cancelled = 0

variable {publisher publisher' : Publisher} {base : Nat}

theorem untroubled_start (p : Publication) (s : Shared) : (start p s).Untroubled p [] := by
  unfold start
  cases s.flow.enabled with
  | true => exact ⟨Throttled.untroubled_visit .., rfl⟩
  | false => exact rfl

private theorem endedWith_started {t t' : Throttled} (move : Throttled.Move p s t s' t' started)
    (uncancelled : endedWith .cancelled tasks = 0) :
    endedWith .cancelled (tasks ++ started.toList) = 0 := by
  cases move with
  | launch => simpa [endedWith, Throttled.admitted, SendTask.admitted_posting] using uncancelled
  | find | giveUp | wait | hold | leave | acquire | quit | resume => simpa using uncancelled

private theorem cancelled_of_report? {t : Throttled} {elapsed : Span} {report : PublishReport}
    (admitted : ∀ task ∈ tasks, task.Admitted)
    (untroubled : t.Untroubled p tasks.length) (uncancelled : endedWith .cancelled tasks = 0)
    (reported : t.report? p tasks elapsed = some report) : report.cancelled = 0 := by
  unfold Throttled.report? at reported
  split at reported
  case isFalse => cases reported
  case isTrue done =>
      cases reported
      simp only [Throttled.Untroubled, done.1] at untroubled
      have ended : AllEnded tasks := fun task member =>
        ⟨admitted task member, List.all_eq_true.mp done.2 task member⟩
      rw [← ended.countP_outcome?] at uncancelled
      dsimp only
      omega

theorem Move.untroubled (move : Move p s tasks publisher s' publisher' started)
    (active : s.cancelled = false) (accounted : publisher.Accounted p base s.outlay tasks)
    (untroubled : publisher.Untroubled p tasks) :
    publisher'.Untroubled p (tasks ++ started.toList) := by
  cases move with
  | throttled stage moved =>
      simp only [Accounted, stage] at accounted
      simp only [Untroubled, stage] at untroubled
      have move := Throttled.move_of_step moved
      refine ⟨?_, endedWith_started move untroubled.2⟩
      rw [List.length_append]
      exact move.untroubled active accounted.2 untroubled.1
  | unthrottled stage moved =>
      simp only [Untroubled, stage] at untroubled
      exact (Unthrottled.move_of_step moved).uncancelled active untroubled
  | join stage reported =>
      simp only [Accounted, stage] at accounted
      simp only [Untroubled, stage] at untroubled
      exact cancelled_of_report? accounted.1.admitted untroubled.1 untroubled.2 reported
  | finish stage reported =>
      simp only [Untroubled, stage] at untroubled
      unfold Unthrottled.report? at reported
      split at reported
      case isFalse => cases reported
      case isTrue =>
          cases reported
          exact untroubled

theorem Untroubled.advance {index : Nat} {task task' : SendTask}
    (untroubled : publisher.Untroubled p tasks) (active : s.cancelled = false)
    (running : tasks[index]? = some task) (move : SendTask.Move s task s' task') :
    publisher.Untroubled p (tasks.set index task') := by
  unfold Untroubled at untroubled ⊢
  split at untroubled
  case h_1 t stage =>
      rw [List.length_set]
      refine ⟨untroubled.1, ?_⟩
      rw [endedWith, List.countP_eq_zero] at untroubled ⊢
      intro other member
      rcases List.mem_or_eq_of_mem_set member with before | rfl
      · exact untroubled.2 other before
      · have kept := untroubled.2 task (List.mem_of_getElem? running)
        simp only [decide_eq_true_eq] at kept ⊢
        exact move.uncancelled active kept
  case h_2 | h_3 => exact untroubled

end Publisher

end Courier
