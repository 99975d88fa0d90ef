import Courier.Wire.Response

/-! The buffer between the stream and the workers: first in, first out, with a capacity. A frame that
comes while a worker waits for one is always taken in. -/

namespace Courier

structure Buffer where
  capacity : Nat
  queue : List Wire.Response
  /-- The workers that found the buffer empty and were not woken since, first come first. -/
  parked : List Nat
  /-- Whether frames may still come. -/
  fed : Bool
  receivers : Nat
  deriving DecidableEq, Repr

namespace Buffer

inductive Put where
  | stored (buffer : Buffer)
  | full
  | closed
  deriving DecidableEq, Repr

def put (buffer : Buffer) (frame : Wire.Response) : Put :=
  if buffer.receivers = 0 then .closed
  else
    match buffer.parked with
    | _ :: parked => .stored { buffer with queue := buffer.queue ++ [frame], parked }
    | [] =>
        if buffer.queue.length < buffer.capacity then
          .stored { buffer with queue := buffer.queue ++ [frame] }
        else .full

def take? (buffer : Buffer) : Option (Wire.Response × Buffer) :=
  match buffer.queue with
  | [] => none
  | frame :: queue => some (frame, { buffer with queue })

def park (buffer : Buffer) (worker : Nat) : Buffer :=
  { buffer with parked := buffer.parked ++ [worker] }

/-- One of those that may take frames goes away. With the last one the frames are lost. -/
def leave (buffer : Buffer) (worker : Nat) : Buffer :=
  { buffer with
    parked := buffer.parked.erase worker
    receivers := buffer.receivers - 1 }

def finish (buffer : Buffer) : Buffer := { buffer with fed := false }

end Buffer

end Courier
