import Courier.Address
import Courier.World

/-! Clients at their start. -/

namespace Courier

/-- What a client finds where it runs. -/
structure Surroundings where
  sink : Sink
  feed : Feed
  ledger : Option Ledger
  wall : Nat
  random : Nat → Nat → UInt8
  cancelled : Bool
  /-- Whether the program is built to panic where a sum does not fit into its type. -/
  checked : Bool
  /-- What happens from outside, and when. -/
  outside : List (Nat × Outside)
  signal : Option Signal

namespace Shared

def start (config : Config) (around : Surroundings) : Shared where
  now := 0
  wall := around.wall
  cancelled := around.cancelled
  shutdown := false
  flow := config.flowControl
  checked := around.checked
  credits := ⟨config.flowControl.initialCredits, config.flowControl.maxCredits⟩
  slots := .ofCount config.flowControl.maxConcurrentSends
  sink := around.sink
  feed := around.feed
  buffer := ⟨config.consumer.bufferSize, [], [], true, config.consumer.workers⟩
  ledger := around.ledger
  stats := {}
  log := []
  console := []
  kept := []

end Shared

namespace Publication

def ofConfig (config : Config) (sender : String) (records : Bool)
    (random : Nat → Nat → UInt8) : Publication where
  topic := config.topic
  template := config.publishing.message
  count := config.publishing.count
  sender
  records
  dataSize := config.publishing.dataSize
  sleep := config.publishing.sleep
  random

end Publication

namespace World

def idle (config : Config) (around : Surroundings) (sender : String) (records : Bool)
    (gates : List Gate) : World where
  shared := .start config around
  mode := config.mode
  topic := config.topic
  publication := .ofConfig config sender records around.random
  gates
  session := none
  publisher := none
  tasks := []
  workers := []
  pump := none
  outside := around.outside
  signal := around.signal

def withPublisher (w : World) : World :=
  { w with publisher := some (.start w.publication w.shared) }

def withWorkers (w : World) (count : Nat) : World :=
  { w with workers := (List.range count).map .start }

def ofPublication (config : Config) (around : Surroundings) (sender : String)
    (records : Bool) : World :=
  (idle config around sender records []).withPublisher

/-- A session. It signs with the tag of the address that it is connected to. -/
def ofSession (config : Config) (around : Surroundings) (records : Bool)
    (gates : List Gate) : World :=
  let sender := String.ofList (Address.tag config.connection.address.toList)
  let w := (idle config around sender records gates).withWorkers config.consumer.workers
  let w := { w with session := some .starting, pump := some .listening }
  match config.mode with
  | .subscribe => w
  | .publish => w.withPublisher

/-- Workers with a buffer that holds some frames. -/
def ofWorkers (config : Config) (around : Surroundings) (gates : List Gate)
    (frames : List Wire.Response) (fed shutdown : Bool) : World :=
  let w := (idle config around "" false gates).withWorkers config.consumer.workers
  { w with
    shared := { w.shared with
      shutdown
      buffer := { w.shared.buffer with queue := frames, fed } } }

def publishEnded (w : World) : Bool := w.publishReport?.isSome

def sessionResult? (w : World) : Option (Except StreamError Session.Report) :=
  w.session.bind Session.result?

def sessionEnded (w : World) : Bool := w.sessionResult?.isSome

def tasksEnded (w : World) : Bool := w.tasks.all SendTask.isEnded

/-- Waits until all lines are in the file of the ledger. By then no send is left that could add one,
whether it has ended or was given up. -/
def closeLedger (w : World) : World :=
  match w.shared.ledger with
  | none => w
  | some ledger =>
      { w with
        shared := { w.shared with
          ledger := some ledger.drain
          slots := { w.shared.slots with inFlight := 0 } }.print .ledgerFlushed }

end World

end Courier
