import Mathlib.Data.Nat.Find
import Courier.Proofs.Credits.Conservation

/-! One send, with everything else that goes on around it left open: others may use up the credits or
bring some, count, and talk to the sink, at any moment between two steps of the send. What the send
itself does is read off its own steps: what it hands over to the sink, what it adds to the counters,
and what it takes from the pool or brings to it. -/

namespace Courier

structure Errand where
  shared : Shared
  sending : Sending

namespace Errand

inductive Act where
  | advance
  /-- Others make one. The clock does not go back, and what is cancelled remains so. -/
  | elsewhere (shared : Shared)

def step (e : Errand) : Act → Option Errand
  | .advance => (e.sending.step e.shared).map fun (shared, sending) => ⟨shared, sending⟩
  | .elsewhere shared =>
      if shared.flow = e.shared.flow ∧ shared.checked = e.shared.checked ∧
          e.shared.now ≤ shared.now ∧ (e.shared.cancelled → shared.cancelled) then
        some { e with shared }
      else none

def start (s : Shared) (topic : String) (payload : List UInt8) (index : Nat) : Errand :=
  ⟨s, .start topic payload index s.now⟩

/-- A call of the sink, and what the sink makes of it. -/
structure Attempt where
  time : Nat
  command : Command
  outcome : Outcome

def handed (made : Transition Errand Act) : List Attempt :=
  match made.label with
  | .advance =>
      (made.after.shared.sink.calls.drop made.before.shared.sink.calls.length).map fun call =>
        ⟨made.before.shared.now, call.command, made.before.shared.sink.outcome call⟩
  | .elsewhere _ => []

def attempts (past : List (Transition Errand Act)) : List Attempt := past.flatMap handed

def gain (measure : Shared → Nat) (made : Transition Errand Act) : Int :=
  match made.label with
  | .advance => (measure made.after.shared : Int) - measure made.before.shared
  | .elsewhere _ => 0

def growth (measure : Shared → Nat) : List (Transition Errand Act) → Int
  | [] => 0
  | made :: past => gain measure made + growth measure past

/-- The credits that the send brings in a step and that do not fit into the pool. -/
def clipped (made : Transition Errand Act) : Nat :=
  match made.label with
  | .advance =>
      (made.before.sending.creditEvent made.after.sending).loss made.before.shared.flow
        made.before.shared.credits
  | .elsewhere _ => 0

/-- Whether the sink gives the replies of a sequence, from one, to the calls of the send. To some it
may never reply. -/
def Answered (replies : Nat → Reply) (past : List (Transition Errand Act)) : Prop :=
  ∀ call ∈ (attempts past).zipIdx 1, ∀ reply ∈ call.1.outcome.reply, reply = replies call.2

instance (replies : Nat → Reply) (past : List (Transition Errand Act)) :
    Decidable (Answered replies past) :=
  inferInstanceAs (Decidable (∀ _ ∈ _, ∀ _ ∈ _, _))

section

variable {past : List (Transition Errand Act)} {made : Transition Errand Act}

@[simp] theorem attempts_nil : attempts [] = [] := rfl

@[simp] theorem attempts_append : attempts (past ++ [made]) = attempts past ++ handed made := by
  simp [attempts]

@[simp] theorem growth_nil (measure : Shared → Nat) : growth measure [] = 0 := rfl

@[simp] theorem growth_append (measure : Shared → Nat) :
    growth measure (past ++ [made]) = growth measure past + gain measure made := by
  induction past with
  | nil => simp [growth]
  | cons first past induction => rw [List.cons_append, growth, induction, growth, Int.add_assoc]

theorem Answered.earlier {replies : Nat → Reply} (answered : Answered replies (past ++ [made])) :
    Answered replies past := by
  intro call member
  refine answered call ?_
  rw [attempts_append, List.zipIdx_append]
  exact List.mem_append_left _ member

theorem Answered.last {replies : Nat → Reply} {attempt : Attempt}
    (answered : Answered replies (past ++ [made])) (handed : handed made = [attempt]) :
    ∀ reply ∈ attempt.outcome.reply, reply = replies ((attempts past).length + 1) := by
  refine answered (attempt, (attempts past).length + 1) ?_
  rw [attempts_append, List.zipIdx_append, handed, Nat.add_comm]
  exact List.mem_append_right _ (List.mem_singleton_self _)

end

end Errand

def Reply.isFinal : Reply → Bool
  | .accepted => true
  | .failed error => !error.isRetriable

/-- The attempt with a number is the last one, with these replies and so many retries allowed. -/
def Settles (replies : Nat → Reply) (retries number : Nat) : Prop :=
  1 ≤ number ∧ ((replies number).isFinal = true ∨ number = retries + 1)

instance (replies : Nat → Reply) (retries number : Nat) :
    Decidable (Settles replies retries number) :=
  inferInstanceAs (Decidable (_ ∧ _))

theorem exists_settles (replies : Nat → Reply) (retries : Nat) :
    ∃ number, Settles replies retries number :=
  ⟨retries + 1, Nat.le_add_left .., .inr rfl⟩

/-- The number of the first attempt that nothing can follow. -/
def decisive (replies : Nat → Reply) (retries : Nat) : Nat :=
  Nat.find (exists_settles replies retries)

section

variable {replies : Nat → Reply} {retries number : Nat}

theorem decisive_pos : 1 ≤ decisive replies retries :=
  (Nat.find_spec (exists_settles replies retries)).1

theorem decisive_le : decisive replies retries ≤ retries + 1 :=
  Nat.find_min' _ ⟨Nat.le_add_left .., .inr rfl⟩

theorem eq_decisive (within : number ≤ decisive replies retries)
    (settles : Settles replies retries number) : number = decisive replies retries :=
  Nat.le_antisymm within (Nat.find_min' _ settles)

theorem lt_decisive (within : number ≤ decisive replies retries)
    (undecided : ¬ Settles replies retries number) : number < decisive replies retries := by
  refine Nat.lt_of_le_of_ne within ?_
  rintro rfl
  exact undecided (Nat.find_spec (exists_settles replies retries))

end

end Courier
