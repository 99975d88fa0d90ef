import Courier.Shared

/-! Before a message is sent there must be credits, and a slot for it. -/

namespace Courier

/-- Waiting until the pool holds a credit. None is taken. -/
inductive CreditWait where
  | looking
  | resting (deadline : Nat)
  | ended (found : Bool)
  deriving DecidableEq, Repr

namespace CreditWait

def step (s : Shared) : CreditWait → Option CreditWait
  | .looking =>
      some (if 0 < s.credits.available then .ended true
        else if s.cancelled then .ended false
        else .resting (s.after s.flow.pollInterval))
  | .resting deadline =>
      if s.cancelled then some (.ended false)
      else if deadline ≤ s.now then some .looking
      else none
  | .ended _ => none

def deadline? : CreditWait → Option Nat
  | .resting deadline => some deadline
  | _ => none

end CreditWait

inductive SlotWait where
  | asking
  | queued (ticket : Nat)
  | taken
  | raised (inFlight : Nat)
  | ended (held : Bool)
  deriving DecidableEq, Repr

namespace SlotWait

def step (s : Shared) : SlotWait → Option (Shared × SlotWait)
  | .asking =>
      if s.cancelled then some (s, .ended false)
      else some ({ s with slots := s.slots.join }, .queued s.slots.nextTicket)
  | .queued ticket =>
      if s.cancelled then some ({ s with slots := s.slots.leave ticket }, .ended false)
      else (s.slots.take? ticket).map fun slots => ({ s with slots }, .taken)
  | .taken => some ({ s with slots := s.slots.raise }, .raised (s.slots.inFlight + 1))
  | .raised inFlight => some ({ s with slots := s.slots.observe inFlight }, .ended true)
  | .ended _ => none

end SlotWait

end Courier
