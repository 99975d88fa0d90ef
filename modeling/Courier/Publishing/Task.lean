import Courier.Publishing.Admission
import Courier.Publishing.Sending

/-! A send that runs beside others: it holds a slot while it is under way. -/

namespace Courier

inductive Reporting where
  | silent
  | logged
  | recorded (sender : String)
  deriving DecidableEq, Repr

namespace SendTask

inductive Stage where
  | delayed (deadline : Nat)
  | acquiring (wait : SlotWait)
  | sending (m : Sending)
  /-- The slot is given up: first the gauge goes down, then the slot is free. -/
  | lowering (outcome : SendOutcome)
  | returning (outcome : SendOutcome)
  | recording (line : String)
  /-- There is no outcome where no slot was got. -/
  | ended (outcome : Option SendOutcome) (time : Nat)
  deriving DecidableEq, Repr

end SendTask

structure SendTask where
  topic : String
  payload : List UInt8
  index : Nat
  reporting : Reporting
  stage : SendTask.Stage
  deriving DecidableEq, Repr

namespace SendTask

def admitted (topic : String) (payload : List UInt8) (index : Nat) (reporting : Reporting)
    (now : Nat) : SendTask :=
  ⟨topic, payload, index, reporting, .sending (.start topic payload index now)⟩

def goto (task : SendTask) (stage : Stage) : SendTask := { task with stage }

def finish (s : Shared) (task : SendTask) (outcome : SendOutcome) : Shared × SendTask :=
  let sent := s.note (.published task.topic task.payload.length (Digest.sha256Hex task.payload))
  match outcome, task.reporting with
  | .sent, .recorded sender =>
      (sent, task.goto (.recording (Ledger.publishLine sender task.payload)))
  | .sent, .logged => (sent, task.goto (.ended (some .sent) s.now))
  | outcome, _ => (s, task.goto (.ended (some outcome) s.now))

def step (s : Shared) (task : SendTask) : Option (Shared × SendTask) :=
  match task.stage with
  | .delayed deadline =>
      if deadline ≤ s.now then some (s, task.goto (.acquiring .asking)) else none
  | .acquiring (.ended true) =>
      some (s, task.goto (.sending (.start task.topic task.payload task.index s.now)))
  | .acquiring (.ended false) => some (s, task.goto (.ended none s.now))
  | .acquiring wait => (wait.step s).map fun (s, wait) => (s, task.goto (.acquiring wait))
  | .sending m =>
      match m.stage with
      | .ended outcome => some (s, task.goto (.lowering outcome))
      | _ => (m.step s).map fun (s, m) => (s, task.goto (.sending m))
  | .lowering outcome =>
      some ({ s with slots := s.slots.lower }, task.goto (.returning outcome))
  | .returning outcome =>
      some (task.finish { s with slots := s.slots.giveBack } outcome)
  | .recording line =>
      (s.recordLine? line).map fun s => (s, task.goto (.ended (some .sent) s.now))
  | .ended .. => none

def deadline? (task : SendTask) : Option Nat :=
  match task.stage with
  | .delayed deadline => some deadline
  | .sending m => m.deadline?
  | _ => none

def outcome? (task : SendTask) : Option SendOutcome :=
  match task.stage with
  | .ended outcome _ => outcome
  | _ => none

def isEnded (task : SendTask) : Bool :=
  match task.stage with
  | .ended .. => true
  | _ => false

end SendTask

end Courier
