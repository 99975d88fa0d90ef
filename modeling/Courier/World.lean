import Courier.Run
import Courier.Session.Basic

/-! A client with all its parts. It moves in steps: at each one of the parts moves that can, or the
clock goes on. A run is a sequence of such steps, in any order. -/

namespace Courier

inductive Outside where
  | cancel
  | shutdown
  | addCredits (amount : Nat)
  deriving DecidableEq, Repr

inductive Signal where
  | afterCommands (count : Nat)
  | afterKept (gate : String) (count : Nat)
  deriving DecidableEq, Repr

def Signal.isDue (s : Shared) : Signal → Bool
  | .afterCommands count => count ≤ s.sink.accepted.length
  | .afterKept gate count => count ≤ s.kept.countP (·.gate = gate)

structure World where
  shared : Shared
  mode : Mode
  topic : String
  publication : Publication
  gates : List Gate
  session : Option Session
  publisher : Option Publisher
  tasks : List SendTask
  workers : List Worker
  pump : Option Pump
  /-- What happens from outside, and when. -/
  outside : List (Nat × Outside)
  signal : Option Signal

inductive Agent where
  | session
  | publisher
  | outside
  | signal
  | task (index : Nat)
  | worker (index : Nat)
  | pump
  | writer
  deriving DecidableEq, Repr

namespace World

def pumpExit? (w : World) : Option Pump.Exit := w.pump.bind Pump.exit?

def publishReport? (w : World) : Option PublishReport := w.publisher.bind Publisher.report?

def workersStopped (w : World) : Bool := w.workers.all Worker.isStopped

def view (w : World) : Session.View :=
  ⟨w.mode, w.topic, w.pumpExit?, w.publishReport?, w.workersStopped⟩

def stepSession (w : World) : Option World :=
  match w.session with
  | none => none
  | some session =>
      (session.step w.view w.shared).map fun (shared, session) =>
        { w with shared, session := some session }

def stepPublisher (w : World) : Option World :=
  match w.publisher with
  | none => none
  | some publisher =>
      (publisher.step w.publication w.shared w.tasks).map fun (shared, publisher, task) =>
        { w with
          shared
          publisher := some publisher
          tasks := w.tasks ++ task.toList }

def stepTask (w : World) (index : Nat) : Option World :=
  match w.tasks[index]? with
  | none => none
  | some task =>
      (task.step w.shared).map fun (shared, task) =>
        { w with shared, tasks := w.tasks.set index task }

def stepWorker (w : World) (index : Nat) : Option World :=
  match w.workers[index]? with
  | none => none
  | some worker =>
      (worker.step w.gates w.shared).map fun (shared, worker) =>
        { w with shared, workers := w.workers.set index worker }

def stepPump (w : World) : Option World :=
  match w.pump with
  | none => none
  | some pump =>
      (pump.step w.shared).map fun (shared, pump) => { w with shared, pump := some pump }

def stepWriter (w : World) : Option World :=
  match w.shared.ledger with
  | none => none
  | some ledger =>
      ledger.write?.map fun ledger => { w with shared := { w.shared with ledger := some ledger } }

def act (s : Shared) : Outside → Shared
  | .cancel => { s with cancelled := true }
  | .shutdown => { s with shutdown := true }
  | .addCredits amount => s.addCredits amount

def stepOutside (w : World) : Option World :=
  match w.outside with
  | [] => none
  | (time, event) :: outside =>
      if time ≤ w.shared.now then some { w with shared := act w.shared event, outside } else none

def stepSignal (w : World) : Option World :=
  match w.signal with
  | none => none
  | some signal =>
      if signal.isDue w.shared then
        some { w with
          shared := { w.shared with cancelled := true }.print .interrupted
          signal := none }
      else none

def step (w : World) : Agent → Option World
  | .session => w.stepSession
  | .publisher => w.stepPublisher
  | .outside => w.stepOutside
  | .signal => w.stepSignal
  | .task index => w.stepTask index
  | .worker index => w.stepWorker index
  | .pump => w.stepPump
  | .writer => w.stepWriter

def agents (w : World) : List Agent :=
  [.session, .publisher, .outside, .signal] ++ (List.range w.workers.length).map .worker ++
    [.pump, .writer] ++ (List.range w.tasks.length).map .task

def deadlines (w : World) : List Nat :=
  (w.session.bind Session.deadline?).toList ++ (w.publisher.bind Publisher.deadline?).toList ++
    w.outside.head?.toList.map (·.1) ++ w.workers.filterMap Worker.deadline? ++
    (w.pump.bind (Pump.deadline? w.shared)).toList ++ w.tasks.filterMap SendTask.deadline?

def setClock (w : World) (now : Nat) : World := { w with shared := { w.shared with now } }

/-- A run is about the session or the publisher. -/
def leads : Agent → Bool
  | .session | .publisher => true
  | _ => false

instance : Machine World Agent where
  agents := agents
  step := step
  deadlines := deadlines
  clock w := w.shared.now
  setClock := setClock
  leads := leads

end World

end Courier
