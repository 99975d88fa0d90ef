import Courier.Pump
import Courier.Setup

/-! A pump on trial, with a consumer that takes frames out of the buffer only when it is told to. -/

namespace Courier

namespace StreamTrial

inductive Event where
  | arrival (arrival : Arrival)
  | take (count : Nat)
  | leave
  | cancel
  | hang
  deriving DecidableEq, Repr

end StreamTrial

structure StreamTrial where
  shared : Shared
  pump : Pump
  taken : List Wire.Response

namespace StreamTrial

def start (config : Config) (around : Surroundings) : StreamTrial :=
  let s := Shared.start config around
  ⟨{ s with buffer := { s.buffer with receivers := 1 } }, .listening, []⟩

def settle (t : StreamTrial) : Nat → StreamTrial
  | 0 => t
  | fuel + 1 =>
      match t.pump.step t.shared with
      | none => t
      | some (shared, pump) => { t with shared, pump }.settle fuel

def arrive (t : StreamTrial) (arrival : Arrival) : StreamTrial :=
  { t with
    shared := { t.shared with
      feed := { t.shared.feed with script := [(t.shared.now, arrival)] } } }.settle 4

def take (t : StreamTrial) (count : Nat) : StreamTrial :=
  let buffer := t.shared.buffer
  { t with
    taken := t.taken ++ buffer.queue.take count
    shared := { t.shared with buffer := { buffer with queue := buffer.queue.drop count } } }

def leave (t : StreamTrial) : StreamTrial :=
  { t with
    shared := { t.shared with
      buffer := { t.shared.buffer with queue := [], receivers := 0 } } }

def cancel (t : StreamTrial) (now : Nat) : StreamTrial :=
  { t with shared := { t.shared with now, cancelled := true } }.settle 4

/-- Plays events until the pump has stopped; after the last the stream ends. Where nothing arrives any
more the pump waits to be cancelled, and goes on when it has waited until `guard`. When it waits
once more it is given up. -/
def play (guard : Nat) (cancelAt : Option Nat) (t : StreamTrial) : List Event → StreamTrial
  | [] => t.arrive .ended
  | event :: events =>
      if t.pump.exit?.isSome then t
      else
        match event with
        | .arrival arrival => (t.arrive arrival).play guard cancelAt events
        | .take count => (t.take count).play guard cancelAt events
        | .leave => t.leave.play guard cancelAt events
        | .cancel => t.cancel t.shared.now
        | .hang =>
            match cancelAt.filter (· < guard) with
            | some time => t.cancel (max time t.shared.now)
            | none =>
                if t.shared.now < guard then
                  { t with shared := { t.shared with now := guard } }.play guard cancelAt events
                else t

def frames (t : StreamTrial) : List Wire.Response := t.taken ++ t.shared.buffer.queue

end StreamTrial

end Courier
