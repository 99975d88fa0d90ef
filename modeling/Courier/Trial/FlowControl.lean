import Courier.Script
import Courier.Setup

/-! A flow controller on trial: it is asked for one thing after the other, and the clock runs on in
between. -/

namespace Courier

namespace FlowTrial

inductive Event where
  | cancel
  | addCredits (amount : Nat)
  | release (name : String)
  deriving DecidableEq, Repr

inductive Caller where
  | waiting (wait : CreditWait)
  | acquiring (wait : SlotWait)
  | sending (m : Sending)
  deriving DecidableEq, Repr

inductive Agent where
  | caller
  | outside
  | task (index : Nat)
  deriving DecidableEq, Repr

end FlowTrial

structure FlowTrial where
  shared : Shared
  held : List String
  caller : Option FlowTrial.Caller
  tasks : List SendTask
  outside : List (Nat × FlowTrial.Event)

namespace FlowTrial

def start (config : Config) (around : Surroundings) : FlowTrial :=
  ⟨.start config around, [], none, [], []⟩

def freeSlot (s : Shared) : Shared := { s with slots := s.slots.lower.giveBack }

def release (t : FlowTrial) (name : String) : FlowTrial :=
  if name ∈ t.held then { t with shared := freeSlot t.shared, held := t.held.erase name } else t

def keep (t : FlowTrial) (name : String) : FlowTrial :=
  { t.release name with held := (t.release name).held ++ [name] }

def act (t : FlowTrial) : Event → FlowTrial
  | .cancel => { t with shared := { t.shared with cancelled := true } }
  | .addCredits amount => { t with shared := t.shared.addCredits amount }
  | .release name => t.release name

def stepCaller (t : FlowTrial) : Option FlowTrial :=
  match t.caller with
  | none => none
  | some (.waiting wait) =>
      (wait.step t.shared).map fun wait => { t with caller := some (.waiting wait) }
  | some (.acquiring wait) =>
      (wait.step t.shared).map fun (shared, wait) =>
        { t with shared, caller := some (.acquiring wait) }
  | some (.sending m) =>
      (m.step t.shared).map fun (shared, m) => { t with shared, caller := some (.sending m) }

def stepTask (t : FlowTrial) (index : Nat) : Option FlowTrial :=
  match t.tasks[index]? with
  | none => none
  | some task =>
      (task.step t.shared).map fun (shared, task) =>
        { t with shared, tasks := t.tasks.set index task }

def stepOutside (t : FlowTrial) : Option FlowTrial :=
  match t.outside with
  | [] => none
  | (time, event) :: outside =>
      if time ≤ t.shared.now then some { t.act event with outside } else none

def callerDeadline? (t : FlowTrial) : Option Nat :=
  match t.caller with
  | some (.waiting wait) => wait.deadline?
  | some (.sending m) => m.deadline?
  | _ => none

instance : Machine FlowTrial Agent where
  agents t := [.caller, .outside] ++ (List.range t.tasks.length).map .task
  step t
    | .caller => t.stepCaller
    | .outside => t.stepOutside
    | .task index => t.stepTask index
  deadlines t :=
    t.callerDeadline?.toList ++ t.outside.head?.toList.map (·.1) ++
      t.tasks.filterMap SendTask.deadline?
  clock t := t.shared.now
  setClock t now := { t with shared := { t.shared with now } }
  leads agent := agent = .caller

inductive Request where
  | addCredits (amount : Nat)
  | cancel
  | renew
  | wait
  | acquire (name : String)
  | release (name : String)
  | send (topic : String) (payload : List UInt8) (index : Nat) (outcomes : List Outcome)
  | parallel (sends : List (Nat × List Outcome))

inductive Response where
  | none
  | found (credits : Bool)
  | held (slot : Bool)
  | released (wasHeld : Bool)
  | sent (outcome : SendOutcome)
  | ended (sends : List (Option SendOutcome × Nat))
  | pending
  deriving DecidableEq, Repr

def answer? (t : FlowTrial) : Option Response :=
  match t.caller with
  | some (.waiting (.ended found)) => some (.found found)
  | some (.acquiring (.ended held)) => some (.held held)
  | some (.sending m) =>
      match m.stage with
      | .ended outcome => some (.sent outcome)
      | _ => .none
  | _ => .none

def tasksEnded (t : FlowTrial) : Bool := t.tasks.all SendTask.isEnded

def leaveQueue (s : Shared) : SlotWait → Shared
  | .queued ticket => { s with slots := s.slots.leave ticket }
  | .taken => { s with slots := s.slots.giveBack }
  | .raised _ => freeSlot s
  | _ => s

/-- Gives up a send that has not ended. Its slot is free again, a credit that it holds is lost. -/
def abandonTask (s : Shared) (task : SendTask) : Shared :=
  match task.stage with
  | .acquiring (.ended true) => freeSlot s
  | .acquiring wait => leaveQueue s wait
  | .sending _ => freeSlot s
  | .lowering _ => freeSlot s
  | .returning _ => { s with slots := s.slots.giveBack }
  | _ => s

def abandon (t : FlowTrial) : FlowTrial :=
  let s := match t.caller with
    | some (.acquiring wait) => leaveQueue t.shared wait
    | _ => t.shared
  { t with shared := t.tasks.foldl abandonTask s, caller := none, tasks := [] }

def withSink (t : FlowTrial) (script : Script) : FlowTrial :=
  { t with shared := { t.shared with sink := script.sink } }

def scriptOf (number : List Call → List UInt8 → Nat) (outcomes : Nat → List Outcome) : Script :=
  ⟨number, outcomes, .immediate, .immediate⟩

def parallelTopic : String := "t"

def parallelTasks (now : Nat) (sends : List (Nat × List Outcome)) : List SendTask :=
  sends.zipIdx.map fun (send, index) =>
    ⟨parallelTopic, [index.toUInt8], index, .silent, .delayed (now + send.1)⟩

def immediate? (t : FlowTrial) : Request → Option (FlowTrial × Response)
  | .addCredits amount => some ({ t with shared := t.shared.addCredits amount }, .none)
  | .cancel => some ({ t with shared := { t.shared with cancelled := true } }, .none)
  | .renew => some ({ t with shared := { t.shared with cancelled := false } }, .none)
  | .release name => some (t.release name, .released (name ∈ t.held))
  | .wait | .acquire _ | .send .. | .parallel _ => none

def begin (t : FlowTrial) : Request → FlowTrial
  | .wait => { t with caller := some (.waiting .looking) }
  | .acquire _ => { t with caller := some (.acquiring .asking) }
  | .send topic payload index outcomes =>
      { t.withSink (scriptOf Script.numberOf fun _ => outcomes) with
        caller := some (.sending (.start topic payload index t.shared.now)) }
  | .parallel sends =>
      let outcomes number := ((sends[number]?).map (·.2)).getD []
      { t.withSink (scriptOf (fun _ payload => (payload.headD 0).toNat) outcomes) with
        tasks := parallelTasks t.shared.now sends }
  | .addCredits _ | .cancel | .renew | .release _ => t

def conclude (t : FlowTrial) (start : Nat) (request : Request) : FlowTrial × Response :=
  let settled (t : FlowTrial) : FlowTrial := { t with caller := none, tasks := [] }
  match request, t.answer? with
  | .acquire name, some (.held true) => (settled (t.keep name), .held true)
  | _, some response => (settled t, response)
  | _, none =>
      let ended (task : SendTask) : Option SendOutcome × Nat :=
        match task.stage with
        | .ended outcome time => (outcome, time - start)
        | _ => (none, 0)
      (settled t, .ended (t.tasks.map ended))

/-- Asks for one thing, and gives up waiting for the answer after so many milliseconds. What is left of
the request then is given up when there is another that takes its time. -/
def perform (guard : Nat) (t : FlowTrial) (request : Request) (outside : List (Nat × Event)) :
    FlowTrial × Response :=
  match t.immediate? request with
  | some answer => answer
  | none =>
      let start := t.shared.now
      let isDone (t : FlowTrial) := if t.caller.isSome then t.answer?.isSome else t.tasksEnded
      let t := { t.abandon.begin request with
        outside := outside.map fun event => (start + event.1, event.2) }
      let t := { runUntil (α := Agent) isDone guard t with outside := [] }
      if isDone t then t.conclude start request else (t, .pending)

end FlowTrial

end Courier
