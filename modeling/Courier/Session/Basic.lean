import Courier.Publishing.Publisher
import Courier.Pump
import Courier.Worker

/-! A session drives one stream: it subscribes or publishes, until it is done, the stream ends or it is
cancelled, and then it ends its other parts. -/

namespace Courier

namespace Session

def unsubscribeTimeout : Span := .ofSeconds 1

/-- How long a session stays after publishing, so that what was sent leaves the machine. -/
def flushDelay : Span := .ofMillis 500

inductive Exit where
  | interrupted
  | published
  | streamEnded (exit : Pump.Exit)
  deriving DecidableEq, Repr

structure Report where
  exit : Exit
  stats : Statistics
  publish : Option PublishReport
  deriving DecidableEq, Repr

def Report.error? (report : Report) : Option StreamError :=
  match report.exit with
  | .streamEnded (.failed error) => some error
  | _ => none

/-- How the mode of a session ended, before its other parts are ended. -/
structure Driven where
  exit : Except StreamError Exit
  publish : Option PublishReport
  pumpSeen : Bool
  deriving Repr

namespace Driven

def interrupted (publish : Option PublishReport) : Driven := ⟨.ok .interrupted, publish, false⟩

/-- A pump that was cancelled is no end of the stream. -/
def pumpStopped (exit : Pump.Exit) (publish : Option PublishReport) : Driven :=
  match exit with
  | .cancelled => ⟨.ok .interrupted, publish, true⟩
  | exit => ⟨.ok (.streamEnded exit), publish, true⟩

def streamEnded (driven : Driven) : Bool :=
  match driven.exit with
  | .ok (.streamEnded _) => true
  | _ => false

end Driven

end Session

inductive Session where
  | starting
  | subscribing (transit : Transit)
  /-- A subscriber looks first whether it is cancelled, and only then whether the pump has stopped. -/
  | listening
  | watching
  | waiting
  | unsubscribing (transit : Transit) (deadline : Nat)
  | publishing
  /-- The stream has ended, so that publishing has to end too. -/
  | halting (exit : Pump.Exit)
  | lingering (report : PublishReport) (deadline : Nat)
  | closing (driven : Session.Driven)
  | draining (driven : Session.Driven)
  | joining (driven : Session.Driven)
  | ended (result : Except StreamError Session.Report)

namespace Session

structure View where
  mode : Mode
  topic : String
  pumpExit : Option Pump.Exit
  published : Option PublishReport
  workersStopped : Bool

def result? : Session → Option (Except StreamError Report)
  | .ended result => some result
  | _ => none

def stopAll (s : Shared) : Shared := { s with shutdown := true, cancelled := true }

def finish (s : Shared) (driven : Driven) : Session :=
  .ended (match driven.exit with
    | .error error => .error error
    | .ok exit => .ok ⟨exit, s.stats, driven.publish⟩)

def step (view : View) (s : Shared) : Session → Option (Shared × Session)
  | .starting =>
      match view.mode with
      | .publish => some (s, .publishing)
      | .subscribe =>
          if s.cancelled then some (s, .closing (.interrupted none))
          else
            let (s, transit) := s.offer (.subscribe view.topic)
            some (s, .subscribing transit)
  | .subscribing transit =>
      if s.cancelled then some (s.withdraw, .closing (.interrupted none))
      else
        match transit.reply? s.now with
        | none => none
        | some reply =>
            let s := s.settle transit.command reply
            match reply with
            | .accepted => some (s.print (.subscribed view.topic), .listening)
            | .failed error => some (s, .closing ⟨.error error, none, false⟩)
  | .listening =>
      if s.cancelled then
        let deadline := s.after unsubscribeTimeout
        let (s, transit) := s.offer (.unsubscribe view.topic)
        some (s, .unsubscribing transit deadline)
      else some (s, .watching)
  | .watching =>
      some (s, view.pumpExit.elim .waiting fun exit => .closing (.pumpStopped exit none))
  | .waiting => if s.cancelled ∨ view.pumpExit.isSome then some (s, .listening) else none
  | .unsubscribing transit deadline =>
      match transit.reply? s.now with
      | some reply =>
          let s := s.settle transit.command reply
          let s := match reply with
            | .accepted => s
            | .failed error => s.note (.unsubscribeFailed error)
          some (s, .closing (.interrupted none))
      | none =>
          if deadline ≤ s.now then
            some (s.withdraw.note .unsubscribeTimedOut, .closing (.interrupted none))
          else none
  | .publishing =>
      match view.published, view.pumpExit with
      | some report, _ =>
          if s.cancelled then some (s, .closing (.interrupted (some report)))
          else some (s, .lingering report (s.after flushDelay))
      | none, some exit => some ({ s with cancelled := true }, .halting exit)
      | none, none => none
  | .halting exit =>
      view.published.map fun report => (s, .closing (.pumpStopped exit (some report)))
  | .lingering report deadline =>
      if s.cancelled ∨ deadline ≤ s.now then
        some (s, .closing ⟨.ok .published, some report, false⟩)
      else none
  | .closing driven =>
      let s := s.note .shuttingDown
      if driven.streamEnded then some (s, .draining driven)
      else some (stopAll s, .joining driven)
  | .draining driven =>
      if view.workersStopped then some (stopAll s, finish s driven) else none
  | .joining driven =>
      if view.workersStopped ∧ (driven.pumpSeen ∨ view.pumpExit.isSome) then
        some (s, finish s driven)
      else none
  | .ended _ => none

def deadline? : Session → Option Nat
  | .subscribing transit => transit.deadline?
  | .unsubscribing transit deadline =>
      some (transit.deadline?.elim deadline (min deadline))
  | .lingering _ deadline => some deadline
  | _ => none

end Session

end Courier
