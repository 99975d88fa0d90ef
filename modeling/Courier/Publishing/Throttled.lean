import Courier.Publishing.Publication
import Courier.Publishing.Task

/-! Publishing under flow control: one message after the other is admitted when there are credits and
a slot is free, and then sent beside the others. Between two messages the publisher pauses; pauses
too short for the clock are saved up. -/

namespace Courier

namespace Throttled

def granularity : Span := .ofMillis 1

inductive Stage where
  | waiting (wait : CreditWait)
  | acquiring (wait : SlotWait)
  | admitting
  | pausing (deadline : Nat)
  | joining
  deriving DecidableEq, Repr

end Throttled

structure Throttled where
  index : Nat
  debt : Span
  stage : Throttled.Stage
  deriving DecidableEq, Repr

namespace Throttled

def goto (t : Throttled) (stage : Stage) : Throttled := { t with stage }

def visit (t : Throttled) (p : Publication) (index : Nat) : Throttled :=
  { t with
    index
    stage := if index < p.count then .waiting .looking else .joining }

def start (p : Publication) : Throttled := visit ⟨0, .zero, .joining⟩ p 0

def pause (t : Throttled) (p : Publication) (s : Shared) : Throttled :=
  let t := { t with debt := t.debt + s.flow.pacingDelay }
  if granularity ≤ t.debt then t.goto (.pausing (s.after t.debt)) else t.visit p (t.index + 1)

def step (p : Publication) (s : Shared) (t : Throttled) :
    Option (Shared × Throttled × Option SendTask) :=
  match t.stage with
  | .waiting (.ended true) => some (s, t.goto (.acquiring .asking), none)
  | .waiting (.ended false) => some (s, t.goto .joining, none)
  | .waiting wait => (wait.step s).map fun wait => (s, t.goto (.waiting wait), none)
  | .acquiring (.ended true) => some (s, t.goto .admitting, none)
  | .acquiring (.ended false) => some (s, t.goto .joining, none)
  | .acquiring wait =>
      (wait.step s).map fun (s, wait) => (s, t.goto (.acquiring wait), none)
  | .admitting =>
      let payload := p.payload s.nanos t.index
      let reporting := if p.records then .recorded p.sender else .logged
      some (s, t.pause p s, some (.admitted p.topic payload t.index reporting s.now))
  | .pausing deadline =>
      if s.cancelled then some (s, t.goto .joining, none)
      else if deadline ≤ s.now then some (s, { t with debt := .zero }.visit p (t.index + 1), none)
      else none
  | .joining => none

def deadline? (t : Throttled) : Option Nat :=
  match t.stage with
  | .waiting wait => wait.deadline?
  | .pausing deadline => some deadline
  | _ => none

/-- What became of the messages, when all sends have ended. Those that were never admitted count as
cancelled, and those whose sends have panicked as dropped. -/
def report? (p : Publication) (t : Throttled) (tasks : List SendTask) (elapsed : Span) :
    Option PublishReport :=
  if t.stage = .joining ∧ tasks.all SendTask.isEnded then
    let count outcome := tasks.countP (·.outcome? = some outcome)
    some ⟨count .sent, count .dropped + count .broken, p.count - tasks.length + count .cancelled, elapsed⟩
  else none

end Throttled

end Courier
