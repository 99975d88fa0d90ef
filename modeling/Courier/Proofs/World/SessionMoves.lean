import Courier.Session.Basic

/-! The steps of a session, one by one. -/

namespace Courier.Session

inductive Move (view : View) (s : Shared) : Session → Shared → Session → Prop where
  | publish (mode : view.mode = .publish) : Move view s .starting s .publishing
  | forgo (mode : view.mode = .subscribe) (cancelled : s.cancelled = true) :
      Move view s .starting s (.closing (.interrupted none))
  | subscribe (mode : view.mode = .subscribe) (active : s.cancelled = false) :
      Move view s .starting (s.offer (.subscribe view.topic)).1
        (.subscribing (s.offer (.subscribe view.topic)).2)
  | withdraw {transit : Transit} (cancelled : s.cancelled = true) :
      Move view s (.subscribing transit) s.withdraw (.closing (.interrupted none))
  | accept {transit : Transit} (active : s.cancelled = false)
      (replied : transit.reply? s.now = some .accepted) :
      Move view s (.subscribing transit)
        ((s.settle transit.command .accepted).print (.subscribed view.topic)) .listening
  | refuse {transit : Transit} {error : StreamError} (active : s.cancelled = false)
      (replied : transit.reply? s.now = some (.failed error)) :
      Move view s (.subscribing transit) (s.settle transit.command (.failed error))
        (.closing ⟨.error error, none, false⟩)
  | unsubscribe (cancelled : s.cancelled = true) :
      Move view s .listening (s.offer (.unsubscribe view.topic)).1
        (.unsubscribing (s.offer (.unsubscribe view.topic)).2 (s.after unsubscribeTimeout))
  | watch (active : s.cancelled = false) : Move view s .listening s .watching
  | lose {exit : Pump.Exit} (lost : view.pumpExit = some exit) :
      Move view s .watching s (.closing (.pumpStopped exit none))
  | wait (quiet : view.pumpExit = none) : Move view s .watching s .waiting
  | rouse (called : s.cancelled = true ∨ view.pumpExit.isSome = true) :
      Move view s .waiting s .listening
  | part {transit : Transit} {deadline : Nat}
      (replied : transit.reply? s.now = some .accepted) :
      Move view s (.unsubscribing transit deadline) (s.settle transit.command .accepted)
        (.closing (.interrupted none))
  | tear {transit : Transit} {deadline : Nat} {error : StreamError}
      (replied : transit.reply? s.now = some (.failed error)) :
      Move view s (.unsubscribing transit deadline)
        ((s.settle transit.command (.failed error)).note (.unsubscribeFailed error))
        (.closing (.interrupted none))
  | abandon {transit : Transit} {deadline : Nat}
      (silent : transit.reply? s.now = none) (due : deadline ≤ s.now) :
      Move view s (.unsubscribing transit deadline) (s.withdraw.note .unsubscribeTimedOut)
        (.closing (.interrupted none))
  | interrupt {report : PublishReport} (published : view.published = some report)
      (cancelled : s.cancelled = true) :
      Move view s .publishing s (.closing (.interrupted (some report)))
  | linger {report : PublishReport} (published : view.published = some report)
      (active : s.cancelled = false) :
      Move view s .publishing s (.lingering report (s.after flushDelay))
  | halt {exit : Pump.Exit} (unpublished : view.published = none)
      (lost : view.pumpExit = some exit) :
      Move view s .publishing { s with cancelled := true } (.halting exit)
  | settle {exit : Pump.Exit} {report : PublishReport}
      (published : view.published = some report) :
      Move view s (.halting exit) s (.closing (.pumpStopped exit (some report)))
  | depart {report : PublishReport} {deadline : Nat}
      (due : s.cancelled = true ∨ deadline ≤ s.now) :
      Move view s (.lingering report deadline) s (.closing ⟨.ok .published, some report, false⟩)
  | drain {driven : Driven} (streamEnded : driven.streamEnded = true) :
      Move view s (.closing driven) (s.note .shuttingDown) (.draining driven)
  | stop {driven : Driven} (streamEnded : driven.streamEnded = false) :
      Move view s (.closing driven) (stopAll (s.note .shuttingDown)) (.joining driven)
  | drained {driven : Driven} (stopped : view.workersStopped = true) :
      Move view s (.draining driven) (stopAll s) (finish s driven)
  | joined {driven : Driven} (stopped : view.workersStopped = true)
      (pumped : driven.pumpSeen = true ∨ view.pumpExit.isSome = true) :
      Move view s (.joining driven) s (finish s driven)

variable {view : View} {s s' : Shared} {session session' : Session}

theorem move_of_step (moved : session.step view s = some (s', session')) :
    Move view s session s' session' := by
  cases session with
  | starting =>
      simp only [step] at moved
      cases mode : view.mode with
      | publish =>
          simp only [mode] at moved
          cases moved
          exact .publish mode
      | subscribe =>
          simp only [mode] at moved
          cases cancelled : s.cancelled with
          | true =>
              rw [cancelled, if_pos rfl] at moved
              cases moved
              exact .forgo mode cancelled
          | false =>
              rw [cancelled, if_neg Bool.false_ne_true] at moved
              cases moved
              exact .subscribe mode cancelled
  | subscribing transit =>
      simp only [step] at moved
      cases cancelled : s.cancelled with
      | true =>
          rw [cancelled, if_pos rfl] at moved
          cases moved
          exact .withdraw cancelled
      | false =>
          rw [cancelled, if_neg Bool.false_ne_true] at moved
          cases replied : transit.reply? s.now with
          | none => simp [replied] at moved
          | some reply =>
              cases reply with
              | accepted =>
                  simp only [replied] at moved
                  cases moved
                  exact .accept cancelled replied
              | failed error =>
                  simp only [replied] at moved
                  cases moved
                  exact .refuse cancelled replied
  | listening =>
      simp only [step] at moved
      cases cancelled : s.cancelled with
      | true =>
          rw [cancelled, if_pos rfl] at moved
          cases moved
          exact .unsubscribe cancelled
      | false =>
          rw [cancelled, if_neg Bool.false_ne_true] at moved
          cases moved
          exact .watch cancelled
  | watching =>
      simp only [step] at moved
      cases lost : view.pumpExit with
      | none =>
          rw [lost] at moved
          cases moved
          exact .wait lost
      | some exit =>
          rw [lost] at moved
          cases moved
          exact .lose lost
  | waiting =>
      simp only [step] at moved
      split at moved
      case isTrue called =>
          cases moved
          exact .rouse called
      case isFalse => cases moved
  | unsubscribing transit deadline =>
      simp only [step] at moved
      cases replied : transit.reply? s.now with
      | none =>
          simp only [replied] at moved
          split at moved
          case isTrue due =>
              cases moved
              exact .abandon replied due
          case isFalse => cases moved
      | some reply =>
          cases reply with
          | accepted =>
              simp only [replied] at moved
              cases moved
              exact .part replied
          | failed error =>
              simp only [replied] at moved
              cases moved
              exact .tear replied
  | publishing =>
      simp only [step] at moved
      cases published : view.published with
      | some report =>
          simp only [published] at moved
          cases cancelled : s.cancelled with
          | true =>
              rw [cancelled, if_pos rfl] at moved
              cases moved
              exact .interrupt published cancelled
          | false =>
              rw [cancelled, if_neg Bool.false_ne_true] at moved
              cases moved
              exact .linger published cancelled
      | none =>
          cases lost : view.pumpExit with
          | none => simp [published, lost] at moved
          | some exit =>
              simp only [published, lost] at moved
              cases moved
              exact .halt published lost
  | halting exit =>
      simp only [step, Option.map_eq_some_iff] at moved
      obtain ⟨report, published, same⟩ := moved
      cases same
      exact .settle published
  | lingering report deadline =>
      simp only [step] at moved
      split at moved
      case isTrue due =>
          cases moved
          exact .depart due
      case isFalse => cases moved
  | closing driven =>
      simp only [step] at moved
      cases streamEnded : driven.streamEnded with
      | true =>
          rw [streamEnded, if_pos rfl] at moved
          cases moved
          exact .drain streamEnded
      | false =>
          rw [streamEnded, if_neg Bool.false_ne_true] at moved
          cases moved
          exact .stop streamEnded
  | draining driven =>
      simp only [step] at moved
      split at moved
      case isTrue stopped =>
          cases moved
          exact .drained stopped
      case isFalse => cases moved
  | joining driven =>
      simp only [step] at moved
      split at moved
      case isTrue ended =>
          cases moved
          exact .joined ended.1 ended.2
      case isFalse => cases moved
  | ended result => simp [step] at moved

end Courier.Session
