import Courier.Proofs.History
import Courier.Proofs.Publishing.SendingMoves
import Courier.Setup

/-! Any number of sends that share a pool of credits, among consumers that add to it. The sends
start at any time and move in any order; whatever else happens in between leaves the pool alone. -/

namespace Courier

/-- Whether the attempt under way has taken a credit and is not settled. It is settled when the pool
gets its credits. -/
def Sending.holdsCredit (m : Sending) : Bool :=
  match m.stage with
  | .charged | .counted | .transit _ | .accepted | .refused _ => true
  | _ => false

inductive CreditEvent where
  | none
  | taken
  /-- A credit comes back from an attempt that failed or was given up. -/
  | returned
  | earned
  | granted (amount : Nat)
  deriving DecidableEq

namespace CreditEvent

variable (flow : Config.FlowControl)

def addition? : CreditEvent → Option Nat
  | .none | .taken => Option.none
  | .returned => some 1
  | .earned => some flow.creditIncrement
  | .granted amount => some amount

def grant : CreditEvent → Nat
  | .granted amount => amount
  | .none | .taken | .returned | .earned => 0

def after? (pool : CreditPool) : CreditEvent → Option CreditPool
  | .none => some pool
  | .taken => pool.take?
  | .returned => some (pool.add 1)
  | .earned => some (pool.add flow.creditIncrement)
  | .granted amount => some (pool.add amount)

end CreditEvent

def Sending.creditEvent (m m' : Sending) : CreditEvent :=
  match m.holdsCredit, m'.holdsCredit with
  | false, true => .taken
  | true, false => if m'.stage = .rewarded then .earned else .returned
  | _, _ => .none

theorem Sending.Move.credits {s s' : Shared} {m m' : Sending} (move : Sending.Move s m s' m') :
    (m.creditEvent m').after? s.flow s.credits = some s'.credits ∧ s'.flow = s.flow := by
  cases move with
  | charge stage taken =>
      refine ⟨?_, rfl⟩
      simpa [creditEvent, holdsCredit, stage, goto, CreditEvent.after?] using taken
  | forgo stage | withdraw stage | reward stage | refund stage =>
      refine ⟨?_, rfl⟩
      simp [creditEvent, holdsCredit, stage, goto, CreditEvent.after?, Shared.addCredits,
        Shared.withdraw]
  | crash stage | miss stage | find stage | abandon stage | starve stage | despair stage
  | wake stage | count stage | offer stage | accept stage | refuse stage | confirm stage | drop stage
  | retry stage | yield stage | again stage =>
      refine ⟨?_, rfl⟩
      simp [creditEvent, holdsCredit, stage, goto, CreditEvent.after?, Shared.record,
        Shared.note, Shared.offer, Shared.settle]

structure Traffic where
  shared : Shared
  sends : List Sending

namespace Traffic

inductive Act where
  | call (topic : String) (payload : List UInt8) (index : Nat)
  | advance (place : Nat)
  | grant (amount : Nat)
  /-- Something happens that has to do neither with the pool nor with the settings: the clock goes
  on, the sends are cancelled or not, the sink changes its mind. -/
  | elsewhere (shared : Shared)

def step (t : Traffic) : Act → Option Traffic
  | .call topic payload index =>
      some { t with sends := t.sends ++ [.start topic payload index t.shared.now] }
  | .advance place =>
      match t.sends[place]? with
      | none => none
      | some m =>
          (m.step t.shared).map fun (shared, m) => ⟨shared, t.sends.set place m⟩
  | .grant amount => some { t with shared := t.shared.addCredits amount }
  | .elsewhere shared =>
      if shared.credits = t.shared.credits ∧ shared.flow = t.shared.flow then
        some { t with shared }
      else none

def start (config : Config) (around : Surroundings) : Traffic := ⟨.start config around, []⟩

def holding (t : Traffic) : Nat := t.sends.countP Sending.holdsCredit

def eventOf (made : Transition Traffic Act) : CreditEvent :=
  match made.label with
  | .call .. | .elsewhere _ => .none
  | .grant amount => .granted amount
  | .advance place =>
      match made.before.sends[place]?, made.after.sends[place]? with
      | some m, some m' => m.creditEvent m'
      | _, _ => .none

/-- Whether the credits that a step adds are no more than the settings allow in the pool, and no more
than 64 bits can count. -/
def hasRoom (flow : Config.FlowControl) (made : Transition Traffic Act) : Bool :=
  ((eventOf made).addition? flow).all fun amount =>
    let sum := made.before.shared.credits.available + amount
    sum ≤ 18446744073709551615 && flow.maxCredits.all (sum ≤ ·)

def succeeded (past : List (Transition Traffic Act)) : Nat :=
  past.countP (eventOf · = .earned)

def granted (past : List (Transition Traffic Act)) : Nat :=
  past.foldl (fun total made => total + (eventOf made).grant) 0

end Traffic

end Courier
