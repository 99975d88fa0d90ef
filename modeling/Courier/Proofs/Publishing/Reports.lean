import Courier.Proofs.Publishing.Progress

/-! The report of a publisher. It is made when every send has ended, and from then on nothing
changes what it says. -/

namespace Courier

namespace SendTask

variable {task : SendTask}

theorem posting_of_ended (admitted : task.Admitted) (ended : task.isEnded = true) :
    ∃ outcome, task.outcome? = some outcome ∧
      task.posting = ⟨false, outcome = .sent, some outcome⟩ := by
  cases stage : task.stage with
  | ended outcome time =>
      cases outcome with
      | none => simp [Admitted, stage] at admitted
      | some outcome => exact ⟨outcome, by simp [outcome?, stage], by simp [posting, stage]⟩
  | delayed | acquiring | sending | lowering | returning | recording =>
      simp [isEnded, stage] at ended

theorem step_of_ended {s : Shared} (ended : task.isEnded = true) : task.step s = none := by
  cases stage : task.stage with
  | ended => simp [step, stage]
  | delayed | acquiring | sending | lowering | returning | recording =>
      simp [isEnded, stage] at ended

end SendTask

section Ended

variable {tasks : List SendTask}

def AllEnded (tasks : List SendTask) : Prop :=
  ∀ task ∈ tasks, task.Admitted ∧ task.isEnded = true

theorem AllEnded.countP_outcome? (done : AllEnded tasks) (outcome : SendOutcome) :
    tasks.countP (·.outcome? = some outcome) = endedWith outcome tasks := by
  apply List.countP_congr
  intro task member
  obtain ⟨outcome', known, posted⟩ :=
    SendTask.posting_of_ended (done task member).1 (done task member).2
  rw [known, posted]

theorem AllEnded.countP_hasLanded (done : AllEnded tasks) :
    tasks.countP (·.posting.hasLanded) = endedWith .sent tasks := by
  apply List.countP_congr
  intro task member
  obtain ⟨outcome, _, posted⟩ :=
    SendTask.posting_of_ended (done task member).1 (done task member).2
  simp [posted]

theorem AllEnded.countP_isOpen (done : AllEnded tasks) :
    tasks.countP (·.posting.isOpen) = 0 := by
  rw [List.countP_eq_zero]
  intro task member
  obtain ⟨outcome, _, posted⟩ :=
    SendTask.posting_of_ended (done task member).1 (done task member).2
  simp [posted]

theorem AllEnded.length_eq (done : AllEnded tasks) :
    endedWith .sent tasks + (endedWith .dropped tasks + endedWith .broken tasks) +
      endedWith .cancelled tasks = tasks.length := by
  induction tasks with
  | nil => rfl
  | cons task tasks induction =>
      obtain ⟨⟨admitted, ended⟩, rest⟩ := List.forall_mem_cons.mp done
      obtain ⟨outcome, _, posted⟩ := SendTask.posting_of_ended admitted ended
      have counted := induction rest
      cases outcome with
      | sent | dropped | cancelled | broken =>
          simp [endedWith, posted] at counted ⊢
          omega

end Ended

theorem Throttled.report?_accounts {p : Publication} {base : Nat} {outlay : Outlay}
    {t : Throttled} {tasks : List SendTask} {elapsed : Span} {report : PublishReport}
    (covers : outlay.Covers base tasks) (placed : t.Placed p tasks.length)
    (reported : t.report? p tasks elapsed = some report) :
    report.Accounts p.count base outlay (endedWith .broken tasks) ∧ AllEnded tasks := by
  unfold report? at reported
  split at reported
  case isFalse => cases reported
  case isTrue done =>
      cases reported
      simp only [Placed, done.1] at placed
      have ended : AllEnded tasks := fun task member =>
        ⟨covers.admitted task member, List.all_eq_true.mp done.2 task member⟩
      have counted := ended.length_eq
      have landed := ended.countP_hasLanded
      have opened := ended.countP_isOpen
      have accepted := covers.accepted
      have covered := covers.covered
      have covering := covers.covering
      simp only [ended.countP_outcome?]
      refine ⟨⟨?_, ?_, ?_, ?_, ?_, ?_, ?_⟩, ended⟩
      · dsimp only
        omega
      · exact covers.sent
      · exact covers.acked.trans covers.sent
      · exact congrArg (· + endedWith .broken tasks) covers.dropped
      · dsimp only
        omega
      · omega
      · dsimp only
        omega

theorem Unthrottled.report?_accounts {p : Publication} {base : Nat} {outlay : Outlay}
    {u : Unthrottled} {elapsed : Span} {report : PublishReport}
    (accounted : u.Accounted p base outlay) (reported : u.report? elapsed = some report) :
    report.Accounts p.count base outlay 0 := by
  unfold report? at reported
  split at reported
  case isFalse => cases reported
  case isTrue ended =>
      cases reported
      obtain ⟨placed, _, sent, acked, dropped, accepted, covered, covering⟩ := accounted
      simp only [Placed, ended] at placed
      simp only [posting, ended, Bool.toNat_false] at accepted covered covering
      exact ⟨placed, sent, acked, dropped, accepted, covered, covering⟩

namespace Publisher

def Accounted (p : Publication) (base : Nat) (outlay : Outlay) (tasks : List SendTask)
    (publisher : Publisher) : Prop :=
  match publisher.stage with
  | .throttled t => outlay.Covers base tasks ∧ t.Placed p tasks.length
  | .unthrottled u => tasks = [] ∧ u.Accounted p base outlay
  | .ended report =>
      report.Accounts p.count base outlay (endedWith .broken tasks) ∧ AllEnded tasks

variable {p : Publication} {base : Nat} {s s' : Shared} {tasks : List SendTask}
  {publisher publisher' : Publisher} {started : Option SendTask}

theorem accounted_start (fresh : s.outlay = ⟨0, 0, 0, 0, 0, base⟩) :
    (start p s).Accounted p base s.outlay [] := by
  unfold start
  cases s.flow.enabled with
  | true =>
      refine ⟨?_, Throttled.placed_visit (Nat.zero_le _)⟩
      rw [fresh]
      exact ⟨rfl, rfl, rfl, rfl, Nat.le_refl 0, Nat.le_refl 0, List.forall_mem_nil _⟩
  | false => exact ⟨rfl, Unthrottled.accounted_start fresh⟩

private theorem started_of_step {t t' : Throttled}
    (move : Throttled.Move p s t s' t' started) (covers : s.outlay.Covers base tasks) :
    s'.outlay.Covers base (tasks ++ started.toList) := by
  rw [move.outlay]
  cases move with
  | launch =>
      exact covers.add (SendTask.admitted_posting ..) (SendTask.admitted_Admitted _ _ _ _ _)
  | find | giveUp | wait | hold | leave | acquire | quit | resume =>
      simpa using covers

theorem Move.accounted (move : Move p s tasks publisher s' publisher' started)
    (accounted : publisher.Accounted p base s.outlay tasks) :
    publisher'.Accounted p base s'.outlay (tasks ++ started.toList) := by
  cases move with
  | throttled stage moved =>
      simp only [Accounted, stage] at accounted
      have move := Throttled.move_of_step moved
      refine ⟨started_of_step move accounted.1, ?_⟩
      rw [List.length_append]
      exact move.placed accounted.2
  | unthrottled stage moved =>
      simp only [Accounted, stage] at accounted
      have move := Unthrottled.move_of_step moved
      exact ⟨by simp [accounted.1], move.accounted accounted.2⟩
  | join stage reported =>
      simp only [Accounted, stage] at accounted
      rw [Option.toList_none, List.append_nil]
      exact Throttled.report?_accounts accounted.1 accounted.2 reported
  | finish stage reported =>
      simp only [Accounted, stage] at accounted
      rw [Option.toList_none, List.append_nil]
      obtain ⟨rfl, accounted⟩ := accounted
      exact ⟨Unthrottled.report?_accounts accounted reported, List.forall_mem_nil _⟩

def isThrottled (publisher : Publisher) : Bool :=
  match publisher.stage with
  | .throttled _ => true
  | .unthrottled _ | .ended _ => false

theorem Move.starts_none (move : Move p s tasks publisher s' publisher' started)
    (apart : publisher.isThrottled = false) :
    publisher'.isThrottled = false ∧ started = none := by
  cases move with
  | throttled stage | join stage => simp [isThrottled, stage] at apart
  | unthrottled | finish => exact ⟨rfl, rfl⟩

theorem Move.unbroken (move : Move p s tasks publisher s' publisher' started) :
    ∀ task ∈ started, task.posting.outcome ≠ some .broken := by
  cases move with
  | throttled stage moved =>
      cases Throttled.move_of_step moved with
      | launch =>
          rintro task ⟨⟩ ⟨⟩
      | find | giveUp | wait | hold | leave | acquire | quit | resume => rintro task ⟨⟩
  | unthrottled | join | finish => rintro task ⟨⟩

theorem Accounted.advance {index : Nat} {task task' : SendTask}
    (accounted : publisher.Accounted p base s.outlay tasks)
    (running : tasks[index]? = some task) (moved : task.step s = some (s', task')) :
    publisher.Accounted p base s'.outlay (tasks.set index task') := by
  unfold Accounted at accounted ⊢
  split at accounted
  case h_1 t stage =>
      rw [List.length_set]
      exact ⟨accounted.1.advance running moved, accounted.2⟩
  case h_2 u stage =>
      rw [accounted.1] at running
      cases running
  case h_3 report stage =>
      have ended := (accounted.2 task (List.mem_of_getElem? running)).2
      rw [SendTask.step_of_ended ended] at moved
      cases moved

end Publisher

end Courier
