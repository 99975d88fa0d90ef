import Courier.Shared

/-! The pump moves what arrives from the stream into the buffer. It never waits for room: a frame that
finds the buffer full is dropped. -/

namespace Courier

namespace Pump

inductive Exit where
  | cancelled
  | endOfStream
  | pingLimit (message : String)
  | failed (error : StreamError)
  | bufferClosed
  deriving DecidableEq, Repr

end Pump

inductive Pump where
  | listening
  | holding (frame : Wire.Response)
  | stored
  | ended (exit : Pump.Exit)
  deriving DecidableEq, Repr

namespace Pump

def exit? : Pump → Option Exit
  | .ended exit => some exit
  | _ => none

def stop (s : Shared) (exit : Exit) : Shared × Pump :=
  ({ s with buffer := s.buffer.finish }, .ended exit)

def fail (s : Shared) (status : Status) : Shared × Pump :=
  match StreamError.ofStatus status with
  | .pingLimit message => stop ((s.note .pingLimited).note .pingAdvice) (.pingLimit message)
  | error => stop (s.note (.receiveFailed error)) (.failed error)

def step (s : Shared) : Pump → Option (Shared × Pump)
  | .listening =>
      if s.cancelled then some (stop s .cancelled)
      else
        match s.feed.next? s.now with
        | none => none
        | some (arrival, feed) =>
            let s := { s with feed }
            match arrival with
            | .frame frame => some (s, .holding frame)
            | .failed status => some (fail s status)
            | .ended => some (stop (s.note .streamClosed) .endOfStream)
  | .holding frame =>
      match s.buffer.put frame with
      | .stored buffer => some ({ s with buffer }, .stored)
      | .full =>
          let s := s.record .bufferDropped
          some (s.note (.bufferFull s.buffer.capacity s.stats.bufferDropped), .listening)
      | .closed => some (stop s .bufferClosed)
  | .stored => some (s.record .enqueued, .listening)
  | .ended _ => none

def deadline? (s : Shared) : Pump → Option Nat
  | .listening => s.feed.deadline?
  | _ => none

end Pump

end Courier
