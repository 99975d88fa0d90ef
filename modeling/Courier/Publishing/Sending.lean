import Courier.Shared

/-! Sending one message: an attempt takes a credit and hands the message to the sink, and an attempt
that failed may be followed by another. -/

namespace Courier

inductive SendOutcome where
  | sent
  | dropped
  | cancelled
  /-- The send has panicked, and its task with it. -/
  | broken
  deriving DecidableEq, Repr

namespace Sending

inductive Stage where
  | wanting
  /-- There was none. Before waiting the pool is looked at once more. -/
  | looking
  | starved (deadline : Nat)
  | charged
  | counted
  | transit (transit : Transit)
  | accepted
  | rewarded
  | refused (error : StreamError)
  | refunded (error : StreamError)
  | resting (deadline : Nat)
  | ended (outcome : SendOutcome)
  deriving DecidableEq, Repr

end Sending

structure Sending where
  topic : String
  payload : List UInt8
  index : Nat
  started : Nat
  attempt : Nat
  stage : Sending.Stage
  deriving DecidableEq, Repr

namespace Sending

def start (topic : String) (payload : List UInt8) (index now : Nat) : Sending :=
  ⟨topic, payload, index, now, 1, .wanting⟩

def command (m : Sending) : Command := .publish m.topic m.payload

def goto (m : Sending) (stage : Stage) : Sending := { m with stage }

def counter (m : Sending) : UInt32 := .ofNat m.attempt

def isLast (m : Sending) (flow : Config.FlowControl) : Bool := m.counter = flow.attempts

def step (s : Shared) (m : Sending) : Option (Shared × Sending) :=
  match m.stage with
  | .wanting =>
      if m.attempt = 1 ∧ s.overflows then some (s, m.goto (.ended .broken))
      else
        match s.credits.take? with
        | some credits => some ({ s with credits }, m.goto .charged)
        | none => some (s, m.goto .looking)
  | .looking =>
      some (s, m.goto (if 0 < s.credits.available then .wanting
        else if s.cancelled then .ended .cancelled
        else .starved (s.after s.flow.pollInterval)))
  | .starved deadline =>
      if s.cancelled then some (s, m.goto (.ended .cancelled))
      else if deadline ≤ s.now then some (s, m.goto .looking)
      else none
  | .charged => some (s.record .attempt, m.goto .counted)
  | .counted =>
      if s.cancelled then some (s.addCredits 1, m.goto (.ended .cancelled))
      else
        let (s, transit) := s.offer m.command
        some (s, m.goto (.transit transit))
  | .transit transit =>
      if s.cancelled then some (s.withdraw.addCredits 1, m.goto (.ended .cancelled))
      else
        match transit.reply? s.now with
        | none => none
        | some reply =>
            some (s.settle transit.command reply,
              match reply with
              | .accepted => m.goto .accepted
              | .failed error => m.goto (.refused error))
  | .accepted => some (s.addCredits s.flow.creditIncrement, m.goto .rewarded)
  | .rewarded =>
      some (s.record (.sent (s.elapsedSince m.started)), m.goto (.ended .sent))
  | .refused error => some (s.addCredits 1, m.goto (.refunded error))
  | .refunded error =>
      if m.isLast s.flow || !error.isRetriable then
        some ((s.note (.messageDropped m.index m.counter.toNat error)).record .dropped,
          m.goto (.ended .dropped))
      else
        some
          ((s.note (.sendFailed m.index m.counter.toNat s.flow.attempts.toNat error
              s.flow.retryDelay)).record .retry,
            { m with attempt := m.attempt + 1, stage := .resting (s.after s.flow.retryDelay) })
  | .resting deadline =>
      if s.cancelled then some (s, m.goto (.ended .cancelled))
      else if deadline ≤ s.now then some (s, m.goto .wanting)
      else none
  | .ended _ => none

def deadline? (m : Sending) : Option Nat :=
  match m.stage with
  | .starved deadline | .resting deadline => some deadline
  | .transit transit => transit.deadline?
  | _ => none

end Sending

end Courier
