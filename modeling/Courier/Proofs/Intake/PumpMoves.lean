import Courier.Pump

/-! The steps of a pump, one by one. -/

namespace Courier.Pump

def Exit.isOfStream : Exit → Bool
  | .cancelled | .bufferClosed => false
  | .endOfStream | .pingLimit _ | .failed _ => true

inductive Move (s : Shared) : Pump → Shared → Pump → Prop where
  | cancel (cancelled : s.cancelled = true) :
      Move s .listening { s with buffer := s.buffer.finish } (.ended .cancelled)
  | receive {frame : Wire.Response} {feed : Feed} (active : s.cancelled = false)
      (arrived : s.feed.next? s.now = some (.frame frame, feed)) :
      Move s .listening { s with feed } (.holding frame)
  | fail {status : Status} {feed : Feed} {log : List Log.Entry} {exit : Exit}
      (active : s.cancelled = false)
      (arrived : s.feed.next? s.now = some (.failed status, feed))
      (failed : fail { s with feed } status =
        ({ s with feed, log, buffer := s.buffer.finish }, .ended exit))
      (ofStream : exit.isOfStream = true) :
      Move s .listening { s with feed, log, buffer := s.buffer.finish } (.ended exit)
  | close {feed : Feed} (active : s.cancelled = false)
      (arrived : s.feed.next? s.now = some (.ended, feed)) :
      Move s .listening { s.note .streamClosed with feed, buffer := s.buffer.finish }
        (.ended .endOfStream)
  | store {frame : Wire.Response} {buffer : Buffer}
      (put : s.buffer.put frame = .stored buffer) :
      Move s (.holding frame) { s with buffer } .stored
  | overflow {frame : Wire.Response} (put : s.buffer.put frame = .full) :
      Move s (.holding frame)
        ((s.record .bufferDropped).note
          (.bufferFull s.buffer.capacity (s.stats.bufferDropped + 1)))
        .listening
  | refuse {frame : Wire.Response} (put : s.buffer.put frame = .closed) :
      Move s (.holding frame) { s with buffer := s.buffer.finish } (.ended .bufferClosed)
  | count : Move s .stored (s.record .enqueued) .listening

variable {s s' : Shared} {pump pump' : Pump}

private theorem fail_eq (s : Shared) (status : Status) :
    ∃ log exit, fail s status = ({ s with log, buffer := s.buffer.finish }, .ended exit) ∧
      exit.isOfStream = true := by
  unfold fail
  split
  · exact ⟨_, _, rfl, rfl⟩
  · exact ⟨_, _, rfl, rfl⟩

theorem move_of_step (moved : pump.step s = some (s', pump')) : Move s pump s' pump' := by
  cases pump with
  | listening =>
      simp only [step] at moved
      split at moved
      case isTrue cancelled =>
          cases moved
          exact .cancel cancelled
      case isFalse active =>
          have active := eq_false_of_ne_true active
          cases arrived : s.feed.next? s.now with
          | none => simp [arrived] at moved
          | some next =>
              obtain ⟨arrival, feed⟩ := next
              cases arrival with
              | frame frame =>
                  simp only [arrived] at moved
                  cases moved
                  exact .receive active arrived
              | failed status =>
                  simp only [arrived] at moved
                  obtain ⟨log, exit, failed, ofStream⟩ := fail_eq { s with feed } status
                  rw [failed] at moved
                  cases moved
                  exact .fail active arrived failed ofStream
              | ended =>
                  simp only [arrived] at moved
                  cases moved
                  exact .close active arrived
  | holding frame =>
      simp only [step] at moved
      cases put : s.buffer.put frame with
      | stored buffer =>
          simp only [put] at moved
          cases moved
          exact .store put
      | full =>
          simp only [put] at moved
          cases moved
          exact .overflow put
      | closed =>
          simp only [put] at moved
          cases moved
          exact .refuse put
  | stored =>
      simp only [step] at moved
      cases moved
      exact .count
  | ended exit => simp [step] at moved

theorem Move.running (move : Move s pump s' pump') : pump.exit? = none := by
  cases move <;> rfl

theorem Move.cancelled_of_exit (move : Move s pump s' pump')
    (told : pump'.exit? = some .cancelled) :
    s.cancelled = true := by
  cases move with
  | cancel cancelled => exact cancelled
  | fail active arrived failed ofStream =>
      cases told
      cases ofStream
  | receive | close | store | overflow | refuse | count => cases told

theorem Move.active_of_exit {exit : Exit} (move : Move s pump s' pump')
    (ended : pump'.exit? = some exit)
    (ofStream : exit.isOfStream = true) :
    s.cancelled = false := by
  cases move with
  | fail active | close active => exact active
  | cancel | refuse =>
      cases ended
      cases ofStream
  | receive | store | overflow | count => cases ended

theorem Move.shutdown (move : Move s pump s' pump') : s'.shutdown = s.shutdown := by
  cases move <;> rfl

end Courier.Pump
