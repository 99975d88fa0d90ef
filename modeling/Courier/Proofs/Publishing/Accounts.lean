import Courier.Proofs.Places
import Courier.Proofs.Publishing.Outlay

/-! The accounts of a publisher. While it publishes, the numbers agree with the states of its sends;
when it reports, every message is accounted for. -/

namespace Courier

namespace SendTask

def posting (task : SendTask) : Posting :=
  match task.stage with
  | .sending m => m.posting
  | .lowering outcome | .returning outcome => ⟨false, outcome = .sent, some outcome⟩
  | .recording _ => ⟨false, true, some .sent⟩
  | .ended outcome _ => ⟨false, outcome = some .sent, outcome⟩
  | .delayed _ | .acquiring _ => ⟨false, false, none⟩

def Admitted (task : SendTask) : Prop :=
  match task.stage with
  | .delayed _ | .acquiring _ | .ended none _ => False
  | .sending m => m.Carries
  | _ => True

variable {s s' : Shared} {task task' : SendTask}

theorem posting_of_finish {outcome : SendOutcome}
    (finished : task.finish s outcome = (s', task')) :
    task'.posting = ⟨false, outcome = .sent, some outcome⟩ ∧ task'.Admitted := by
  unfold finish at finished
  split at finished
  · cases finished
    exact ⟨rfl, trivial⟩
  · cases finished
    exact ⟨rfl, trivial⟩
  · cases finished
    refine ⟨?_, trivial⟩
    simp [posting, goto]

theorem Move.booked (move : Move s task s' task') (admitted : task.Admitted) :
    Posting.Booked s.outlay s'.outlay task.posting task'.posting ∧ task'.Admitted := by
  cases move with
  | begin stage | enter stage | leave stage | wait stage => simp [Admitted, stage] at admitted
  | send stage moved =>
      have move := Sending.move_of_step moved
      simp only [Admitted, stage] at admitted
      simp only [posting, stage, goto, Admitted]
      exact ⟨move.booked admitted, move.carries⟩
  | conclude stage ended =>
      simp only [posting, Sending.posting, stage, goto, ended]
      exact ⟨.refl .., trivial⟩
  | lower stage =>
      simp only [posting, stage, goto]
      exact ⟨.refl .., trivial⟩
  | finish stage finished =>
      obtain ⟨log, same⟩ := log_of_finish finished
      obtain ⟨posted, admitted⟩ := posting_of_finish finished
      rw [same, posted]
      simp only [posting, stage]
      exact ⟨.refl .., admitted⟩
  | record stage recorded =>
      rw [Shared.outlay_recordLine recorded]
      simp only [posting, stage, goto]
      exact ⟨.refl .., trivial⟩

theorem Move.unbroken (move : Move s task s' task') (sound : s.overflows = false)
    (unbroken : task.posting.outcome ≠ some .broken) : task'.posting.outcome ≠ some .broken := by
  cases move with
  | begin | enter | leave | wait | record => exact nofun
  | send stage moved => exact (Sending.move_of_step moved).unbroken sound
  | conclude stage ended =>
      simp only [posting, Sending.posting, stage, ended] at unbroken
      exact unbroken
  | lower stage =>
      simp only [posting, stage] at unbroken
      exact unbroken
  | finish stage finished =>
      simp only [posting, stage] at unbroken
      rwa [(posting_of_finish finished).1]

theorem admitted_posting (topic : String) (payload : List UInt8) (index : Nat)
    (reporting : Reporting) (now : Nat) :
    (admitted topic payload index reporting now).posting = ⟨false, false, none⟩ := rfl

theorem admitted_Admitted (topic : String) (payload : List UInt8) (index : Nat)
    (reporting : Reporting) (now : Nat) :
    (admitted topic payload index reporting now).Admitted := by
  intro transit stage
  cases stage

end SendTask

def endedWith (outcome : SendOutcome) (tasks : List SendTask) : Nat :=
  tasks.countP (·.posting.outcome = some outcome)

theorem endedWith_eq_zero {outcome : SendOutcome} {tasks : List SendTask}
    (other : ∀ task ∈ tasks, task.posting.outcome ≠ some outcome) : endedWith outcome tasks = 0 :=
  List.countP_eq_zero.mpr fun task member same => other task member (of_decide_eq_true same)

/-- The numbers agree with the sends, where `base` messages were accepted before the first of them.
-/
structure Outlay.Covers (base : Nat) (outlay : Outlay) (tasks : List SendTask) : Prop where
  sent : outlay.sent = endedWith .sent tasks
  acked : outlay.acked = outlay.sent
  dropped : outlay.dropped = endedWith .dropped tasks
  accepted : outlay.accepted = base + tasks.countP (·.posting.hasLanded)
  covered : outlay.settled + tasks.countP (·.posting.isOpen) ≤ outlay.attempts
  covering : outlay.attempts ≤
    outlay.settled + tasks.countP (·.posting.isOpen) + endedWith .cancelled tasks
  admitted : ∀ task ∈ tasks, task.Admitted

namespace Outlay.Covers

variable {base : Nat} {outlay outlay' : Outlay} {tasks : List SendTask}

theorem advance {s s' : Shared} {index : Nat} {task task' : SendTask}
    (covers : Covers base s.outlay tasks) (running : tasks[index]? = some task)
    (moved : task.step s = some (s', task')) :
    Covers base s'.outlay (tasks.set index task') := by
  have member := List.mem_of_getElem? running
  obtain ⟨booked, admitted⟩ :=
    (SendTask.move_of_step moved).booked (covers.admitted task member)
  have ended (outcome : SendOutcome) :=
    countP_set_add (fun task : SendTask => decide (task.posting.outcome = some outcome))
      running task'
  have landed := countP_set_add (fun task : SendTask => task.posting.hasLanded) running task'
  have opened := countP_set_add (fun task : SendTask => task.posting.isOpen) running task'
  refine ⟨?_, ?_, ?_, ?_, ?_, ?_, ?_⟩
  · have sent := booked.sent
    have covered := covers.sent
    have counted := ended .sent
    simp only [endedWith] at covered ⊢
    omega
  · have acked := booked.acked
    have covered := covers.acked
    omega
  · have dropped := booked.dropped
    have covered := covers.dropped
    have counted := ended .dropped
    simp only [endedWith] at covered ⊢
    omega
  · have accepted := booked.accepted
    have covered := covers.accepted
    omega
  · have booked := booked.covered
    have covered := covers.covered
    omega
  · have booked := booked.covering
    have covering := covers.covering
    have counted := ended .cancelled
    simp only [endedWith] at covering ⊢
    omega
  · intro other member
    rcases List.mem_or_eq_of_mem_set member with before | same
    · exact covers.admitted other before
    · exact same ▸ admitted

theorem add {task : SendTask} (covers : Covers base outlay tasks)
    (posting : task.posting = ⟨false, false, none⟩) (admitted : task.Admitted) :
    Covers base outlay (tasks ++ [task]) where
  sent := by simpa [endedWith, posting] using covers.sent
  acked := covers.acked
  dropped := by simpa [endedWith, posting] using covers.dropped
  accepted := by simpa [posting] using covers.accepted
  covered := by simpa [posting] using covers.covered
  covering := by simpa [endedWith, posting] using covers.covering
  admitted := by
    intro other member
    rcases List.mem_append.mp member with before | last
    · exact covers.admitted other before
    · exact List.mem_singleton.mp last ▸ admitted

end Outlay.Covers

end Courier
