import Courier.Publishing.Publication
import Courier.Shared

/-! Publishing without flow control: the messages are handed over one after the other, once each. -/

namespace Courier

namespace Unthrottled

inductive Stage where
  | checking
  | counted (payload : List UInt8)
  | transit (started : Nat) (payload : List UInt8) (transit : Transit)
  | accepted (started : Nat) (payload : List UInt8)
  | recording (line : String)
  | refused (error : StreamError)
  | pausing (deadline : Nat)
  | ended
  deriving DecidableEq, Repr

end Unthrottled

structure Unthrottled where
  index : Nat
  sent : Nat
  dropped : Nat
  cancelled : Nat
  stage : Unthrottled.Stage
  deriving DecidableEq, Repr

namespace Unthrottled

def start : Unthrottled := ⟨0, 0, 0, 0, .checking⟩

def goto (u : Unthrottled) (stage : Stage) : Unthrottled := { u with stage }

def stop (u : Unthrottled) (cancelled : Nat) : Unthrottled :=
  { u with cancelled, stage := .ended }

def advance (p : Publication) (s : Shared) (u : Unthrottled) : Unthrottled :=
  if u.index + 1 < p.count ∧ !p.sleep.isZero then u.goto (.pausing (s.after p.sleep))
  else { u with index := u.index + 1, stage := .checking }

def step (p : Publication) (s : Shared) (u : Unthrottled) : Option (Shared × Unthrottled) :=
  match u.stage with
  | .checking =>
      if p.count ≤ u.index then some (s, u.goto .ended)
      else if s.cancelled then some (s, u.stop (p.count - u.index))
      else some (s.record .attempt, u.goto (.counted (p.payload s.nanos u.index)))
  | .counted payload =>
      if s.cancelled then some (s, u.stop (p.count - u.index))
      else
        let (s, transit) := s.offer (.publish p.topic payload)
        some (s, u.goto (.transit s.now payload transit))
  | .transit started payload transit =>
      if s.cancelled then some (s.withdraw, u.stop (p.count - u.index))
      else
        match transit.reply? s.now with
        | none => none
        | some reply =>
            some (s.settle transit.command reply,
              match reply with
              | .accepted => u.goto (.accepted started payload)
              | .failed error => u.goto (.refused error))
  | .accepted started payload =>
      let s := s.record (.sent (s.elapsedSince started))
      let s := s.note (.published p.topic payload.length (Digest.sha256Hex payload))
      let u := { u with sent := u.sent + 1 }
      some (s,
        if p.records then u.goto (.recording (Ledger.publishLine p.sender payload))
        else u.advance p s)
  | .recording line => (s.recordLine? line).map fun s => (s, u.advance p s)
  | .refused error =>
      let s := s.record .dropped
      some (s.note (.publishFailed u.index error),
        { u with dropped := u.dropped + 1 }.advance p s)
  | .pausing deadline =>
      if s.cancelled then some (s, u.stop (p.count - u.index - 1))
      else if deadline ≤ s.now then
        some (s, { u with index := u.index + 1, stage := .checking })
      else none
  | .ended => none

def deadline? (u : Unthrottled) : Option Nat :=
  match u.stage with
  | .transit _ _ transit => transit.deadline?
  | .pausing deadline => some deadline
  | _ => none

def report? (u : Unthrottled) (elapsed : Span) : Option PublishReport :=
  if u.stage = .ended then some ⟨u.sent, u.dropped, u.cancelled, elapsed⟩ else none

end Unthrottled

end Courier
