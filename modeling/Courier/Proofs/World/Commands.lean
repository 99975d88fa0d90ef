import Courier.Proofs.World.Control
import Courier.Proofs.World.Offers

/-! Which commands a client hands over to its sink, and which of them the sink accepts, in the order
in which it happens. A client that publishes hands over messages only; for one that subscribes it is
the session alone that talks to the sink. -/

namespace Courier

namespace Sink

def handed (before after : Sink) : List Command :=
  (after.calls.drop before.calls.length).map (·.command)

def agreed (before after : Sink) : List Command := after.accepted.drop before.accepted.length

variable (sink : Sink) (now : Nat) (command : Command)

@[simp] theorem handed_self : sink.handed sink = [] := by simp [handed]

@[simp] theorem agreed_self : sink.agreed sink = [] := by simp [agreed]

theorem handed_offer : sink.handed (sink.offer now command).1 = [command] := by
  simp [handed, offer, callOf]

theorem agreed_offer : sink.agreed (sink.offer now command).1 = [] := by
  simp [agreed, offer]

@[simp] theorem handed_leave : sink.handed sink.leave = [] := by simp [handed, leave]

@[simp] theorem agreed_leave : sink.agreed sink.leave = [] := by simp [agreed, leave]

@[simp] theorem handed_settle (reply : Reply) : sink.handed (sink.settle command reply) = [] := by
  cases reply <;> simp [handed, settle, leave]

@[simp] theorem agreed_accepted : sink.agreed (sink.settle command .accepted) = [command] := by
  simp [agreed, settle]

@[simp] theorem agreed_failed (error : StreamError) :
    sink.agreed (sink.settle command (.failed error)) = [] := by
  simp [agreed, settle, leave]

end Sink

namespace Shared

variable (s : Shared) (command : Command)

@[simp] theorem handed_offer : s.sink.handed (s.offer command).1.sink = [command] :=
  Sink.handed_offer _ s.now _

@[simp] theorem agreed_offer : s.sink.agreed (s.offer command).1.sink = [] :=
  Sink.agreed_offer _ s.now _

end Shared

section Publishing

variable {s s' : Shared}

theorem Sending.Move.handed {m m' : Sending} (move : Sending.Move s m s' m') :
    ∀ command ∈ s.sink.handed s'.sink, command.isPublish = true := by
  cases move with
  | offer =>
      rw [Shared.handed_offer, List.forall_mem_singleton]
      rfl
  | withdraw => simp [Shared.withdraw, Shared.addCredits]
  | accept | refuse => simp [Shared.settle]
  | crash | charge | miss | find | abandon | starve | despair | wake | count | forgo | reward
  | confirm | refund | drop | retry | yield | again =>
      simp [Shared.record, Shared.note, Shared.addCredits]

theorem SendTask.Move.handed {task task' : SendTask} (move : SendTask.Move s task s' task') :
    ∀ command ∈ s.sink.handed s'.sink, command.isPublish = true := by
  cases move with
  | send _ moved => exact (Sending.move_of_step moved).handed
  | begin | enter | leave | conclude | lower => simp
  | wait _ moved =>
      obtain ⟨slots, rfl⟩ := SlotWait.slots_of_step moved
      simp
  | finish _ finished =>
      obtain ⟨log, rfl⟩ := log_of_finish finished
      simp
  | record _ recorded =>
      obtain ⟨ledger, rfl⟩ := Shared.ledger_of_recordLine recorded
      simp

theorem Unthrottled.Move.handed {p : Publication} {u u' : Unthrottled}
    (move : Unthrottled.Move p s u s' u') :
    ∀ command ∈ s.sink.handed s'.sink, command.isPublish = true := by
  cases move with
  | offer =>
      rw [Shared.handed_offer, List.forall_mem_singleton]
      rfl
  | withdraw => simp [Shared.withdraw]
  | accept | refuse => simp [Shared.settle]
  | confirm _ noted =>
      rw [noted]
      simp [Shared.record, Shared.note]
  | record _ recorded =>
      obtain ⟨ledger, rfl⟩ := Shared.ledger_of_recordLine recorded
      simp
  | finish | quit | count | forgo | drop | halt | resume => simp [Shared.record, Shared.note]

theorem Publisher.Move.handed {p : Publication} {tasks : List SendTask}
    {publisher publisher' : Publisher} {started : Option SendTask}
    (move : Publisher.Move p s tasks publisher s' publisher' started) :
    ∀ command ∈ s.sink.handed s'.sink, command.isPublish = true := by
  cases move with
  | unthrottled _ moved => exact (Unthrottled.move_of_step moved).handed
  | throttled _ moved =>
      obtain ⟨slots, rfl⟩ := (Throttled.move_of_step moved).reach
      simp
  | join | finish => simp [Publisher.finish, Shared.noteAll]

end Publishing

namespace World

def handed (made : Transition World Motion) : List Command :=
  made.before.shared.sink.handed made.after.shared.sink

def commands (past : List (Transition World Motion)) : List Command := past.flatMap handed

def agreements (past : List (Transition World Motion)) : List Command :=
  past.flatMap fun made => made.before.shared.sink.agreed made.after.shared.sink

variable {config : Config} {around : Surroundings} {past : List (Transition World Motion)}
  {start w w' : World} {motion : Motion}

theorem commands_append (past : List (Transition World Motion)) (made : Transition World Motion) :
    commands (past ++ [made]) = commands past ++ handed made := by
  simp [commands]

theorem agreements_append (past : List (Transition World Motion))
    (made : Transition World Motion) :
    agreements (past ++ [made]) =
      agreements past ++ made.before.shared.sink.agreed made.after.shared.sink := by
  simp [agreements]

theorem Move.handed_of_publishes {count base : Nat} (move : Move w motion w')
    (accounted : w.Accounted count base) :
    ∀ command ∈ handed ⟨w, motion, w'⟩, command.isPublish = true := by
  have nothing {sink : Sink} (same : sink = w.shared.sink) :
      ∀ command ∈ w.shared.sink.handed sink, command.isPublish = true := by
    rw [same, Sink.handed_self]
    exact List.forall_mem_nil _
  cases move with
  | session running moved =>
      obtain ⟨mode, quiet⟩ := accounted.session _ running
      exact nothing ((Session.move_of_step moved).sink mode quiet)
  | publisher _ moved => exact (Publisher.move_of_step moved).handed
  | task _ moved => exact (SendTask.move_of_step moved).handed
  | worker _ moved =>
      obtain ⟨_, _, _, _, _, _, _, same⟩ := (Worker.move_of_step moved).reach
      exact nothing (same ▸ rfl)
  | pump _ moved =>
      obtain ⟨_, _, _, _, same⟩ := (Pump.move_of_step moved).reach
      exact nothing (same ▸ rfl)
  | outside =>
      rename_i event _ _ _
      cases event <;> exact nothing rfl
  | signal | writer | clock => exact nothing rfl

theorem commands_of_publishes (publishes : start.Publishes config around)
    (history : History advance start past w) :
    ∀ command ∈ commands past, command.isPublish = true := by
  induction history with
  | start => exact List.forall_mem_nil _
  | next history moved induction =>
      rw [commands_append, List.forall_mem_append]
      exact ⟨induction,
        (move_of_advance moved).handed_of_publishes (accounted_of_history publishes history)⟩

theorem Move.sink_of_subscriber (move : Move w motion w') (governed : w.Governed .subscribe) :
    motion = .part .session ∨ w'.shared.sink = w.shared.sink := by
  obtain ⟨publisher, tasks⟩ := governed.silent rfl
  cases move with
  | session => exact .inl rfl
  | publisher running =>
      rw [publisher] at running
      cases running
  | task running =>
      rw [tasks] at running
      cases running
  | worker _ moved =>
      obtain ⟨_, _, _, _, _, _, _, same⟩ := (Worker.move_of_step moved).reach
      exact .inr (same ▸ rfl)
  | pump _ moved =>
      obtain ⟨_, _, _, _, same⟩ := (Pump.move_of_step moved).reach
      exact .inr (same ▸ rfl)
  | outside =>
      rename_i event _ _ _
      cases event <;> exact .inr rfl
  | signal | writer | clock => exact .inr rfl

end World

end Courier
