import Courier.Envelope.Reader
import Courier.Shared

/-! Workers take frames out of the buffer, tell what they are, and hand messages and traces to the
gates, one gate after the other. -/

namespace Courier

namespace Worker

def progressEvery : Nat := 100

/-- A gate at work on a delivery, and the gates that the delivery comes to next. -/
structure Visit where
  gate : Gate
  delivery : Delivery
  next : List Gate

inductive Stage where
  | idle
  | parked
  | fetched (frame : Wire.Response)
  | counted (frame : Wire.Response)
  | numbered (seq : Nat) (envelope : Envelope)
  | delivering (delivery : Delivery) (gates : List Gate)
  /-- A gate is at work, and some of it is still to be done. -/
  | handling (visit : Visit) (deeds : List Deed)
  | resting (deadline : Nat) (visit : Visit) (deeds : List Deed)
  | stopped

end Worker

structure Worker where
  id : Nat
  stage : Worker.Stage

namespace Worker

def start (id : Nat) : Worker := ⟨id, .idle⟩

def goto (worker : Worker) (stage : Stage) : Worker := { worker with stage }

def isStopped (worker : Worker) : Bool :=
  match worker.stage with
  | .stopped => true
  | _ => false

def stop (s : Shared) (worker : Worker) : Shared × Worker :=
  ({ s.note (.workerStopped worker.id) with buffer := s.buffer.leave worker.id },
    worker.goto .stopped)

def fetch (s : Shared) (worker : Worker) : Shared × Worker :=
  match s.buffer.take? with
  | some (frame, buffer) => ({ s with buffer }, worker.goto (.fetched frame))
  | none =>
      if s.buffer.fed then
        ({ s with buffer := s.buffer.park worker.id }, worker.goto .parked)
      else stop s worker

def classify (s : Shared) (worker : Worker) (gates : List Gate) (frame : Wire.Response) :
    Shared × Worker :=
  match Inbound.ofResponse frame with
  | .message data =>
      match Envelope.decode data with
      | .error error =>
          ((s.record .decodeError).note (.undecodable data.length error.message),
            worker.goto .idle)
      | .ok envelope =>
          let s := s.record .received
          (s, worker.goto (.numbered s.stats.received envelope))
  | .trace trace => (s.record .trace, worker.goto (.delivering (.trace trace) gates))
  | .unknown code => ((s.record .unknown).note (.unknownFrame code), worker.goto .idle)

/-- What follows the count of a message: the progress, and the credits that it brings. -/
def acknowledge (s : Shared) (seq : Nat) : Shared :=
  let s := if seq % progressEvery = 0 then s.note (.progress seq (.ofMillis s.now)) else s
  if s.flow.enabled then s.addCredits s.flow.creditIncrement else s

def handle (s : Shared) (worker : Worker) (visit : Visit) : List Deed → Option (Shared × Worker)
  | [] => some (s, worker.goto (.delivering visit.delivery visit.next))
  | deed :: deeds =>
      let next := worker.goto (.handling visit deeds)
      match deed with
      | .print seq message => some (s.print (.received seq s.nanos message), next)
      | .log trace => some (s.note (.traceReceived trace), next)
      | .record line => (s.recordLine? line).map fun s => (s, next)
      | .keep kept => some ({ s with kept := s.kept ++ [kept] }, next)
      | .rest delay => some (s, worker.goto (.resting (s.now + delay) visit deeds))

def step (gates : List Gate) (s : Shared) (worker : Worker) : Option (Shared × Worker) :=
  match worker.stage with
  | .idle => some (if s.shutdown then stop s worker else fetch s worker)
  | .parked =>
      if s.shutdown then some (stop s worker)
      else if worker.id ∈ s.buffer.parked ∧ s.buffer.fed then none
      else some (fetch { s with buffer.parked := s.buffer.parked.erase worker.id } worker)
  | .fetched frame => some (s.record .processed, worker.goto (.counted frame))
  | .counted frame => some (classify s worker gates frame)
  | .numbered seq envelope =>
      some (acknowledge s seq, worker.goto (.delivering (.message seq envelope) gates))
  | .delivering delivery (gate :: next) =>
      some (s, worker.goto (
        if gate.accepts delivery then .handling ⟨gate, delivery, next⟩ (gate.work delivery)
        else .delivering delivery next))
  | .delivering _ [] => some (s, worker.goto .idle)
  | .handling visit deeds => handle s worker visit deeds
  | .resting deadline visit deeds =>
      if deadline ≤ s.now then some (s, worker.goto (.handling visit deeds)) else none
  | .stopped => none

def deadline? (worker : Worker) : Option Nat :=
  match worker.stage with
  | .resting deadline .. => some deadline
  | _ => none

end Worker

end Courier
