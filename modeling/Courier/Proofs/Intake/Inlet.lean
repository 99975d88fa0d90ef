import Courier.Proofs.Intake.Pumping
import Courier.Proofs.World.Motion

/-! A pump and the consumers of its buffer. The consumers take frames when there are some, and never
wait for one; they go away when they like. The stream brings what it likes, and the pump can be
cancelled at any moment. For each frame that the pump brings to the buffer there is a fate. -/

namespace Courier

structure Inlet where
  shared : Shared
  pump : Pump
  taken : List Wire.Response

namespace Inlet

inductive Act where
  | pump
  | take
  | leave
  /-- Others move. They leave the buffer and its counters alone, and do not take a cancellation
  back; what the stream brings next is open. -/
  | elsewhere (shared : Shared)

def step (t : Inlet) : Act → Option Inlet
  | .pump => (t.pump.step t.shared).map fun (shared, pump) => { t with shared, pump }
  | .take =>
      if t.shared.buffer.receivers = 0 then none
      else t.shared.buffer.take?.map fun (frame, buffer) =>
        { t with shared := { t.shared with buffer }, taken := t.taken ++ [frame] }
  | .leave =>
      if t.shared.buffer.receivers = 0 then none
      else some { t with shared := { t.shared with buffer := t.shared.buffer.leave 0 } }
  | .elsewhere shared =>
      if shared.buffer = t.shared.buffer ∧ shared.stats.frames = t.shared.stats.frames ∧
          shared.stats.enqueued = t.shared.stats.enqueued ∧
          shared.stats.bufferDropped = t.shared.stats.bufferDropped ∧
          (t.shared.cancelled → shared.cancelled) then
        some { t with shared }
      else none

def start (config : Config) (around : Surroundings) : Inlet :=
  ⟨.start config around, .listening, []⟩

inductive Fate where
  | accepted
  | dropped
  | refused
  deriving DecidableEq

def arrival? (made : Transition Inlet Act) : Option Arrival :=
  match made.label with
  | .pump => made.before.pump.arrival? made.before.shared
  | .take | .leave | .elsewhere _ => none

/-- The frame that comes to the buffer in a step, and its fate. -/
def met? (made : Transition Inlet Act) : Option (Wire.Response × Fate) :=
  match made.before.pump, made.after.pump with
  | .holding frame, .stored => some (frame, .accepted)
  | .holding frame, .listening => some (frame, .dropped)
  | .holding frame, .ended _ => some (frame, .refused)
  | _, _ => none

def arrivals (past : List (Transition Inlet Act)) : List Arrival := past.filterMap arrival?

def met (past : List (Transition Inlet Act)) : List (Wire.Response × Fate) := past.filterMap met?

def having (fate : Fate) (past : List (Transition Inlet Act)) : List Wire.Response :=
  ((met past).filter (·.2 = fate)).map (·.1)

section

variable (past : List (Transition Inlet Act)) (made : Transition Inlet Act)

@[simp] theorem arrivals_append :
    arrivals (past ++ [made]) = arrivals past ++ (arrival? made).toList :=
  filterMap_append_singleton ..

@[simp] theorem met_append : met (past ++ [made]) = met past ++ (met? made).toList :=
  filterMap_append_singleton ..

@[simp] theorem having_append (fate : Fate) :
    having fate (past ++ [made]) =
      having fate past ++ (((met? made).toList.filter (·.2 = fate)).map (·.1)) := by
  simp [having]

end

end Inlet

def Arrival.exit? : Arrival → Option Pump.Exit
  | .frame _ => none
  | .failed status =>
      match StreamError.ofStatus status with
      | .pingLimit message => some (.pingLimit message)
      | error => some (.failed error)
  | .ended => some .endOfStream

theorem Pump.exit?_of_fail {s s' : Shared} {status : Status} {exit : Exit}
    (failed : Pump.fail s status = (s', .ended exit)) :
    (Arrival.failed status).exit? = some exit := by
  cases kind : StreamError.ofStatus status with
  | pingLimit message =>
      simp only [Pump.fail, kind] at failed
      cases failed
      simp only [Arrival.exit?, kind]
  | closed | status =>
      simp only [Pump.fail, kind] at failed
      cases failed
      simp only [Arrival.exit?, kind]

theorem Arrival.frame?_of_exit? {arrival : Arrival} {exit : Pump.Exit}
    (ends : arrival.exit? = some exit) : arrival.frame? = none := by
  cases arrival with
  | frame => cases ends
  | failed | ended => rfl

namespace Buffer

variable {buffer buffer' : Buffer} {frame : Wire.Response}

theorem stored_of_unparked (unparked : buffer.parked = [])
    (put : buffer.put frame = .stored buffer') :
    buffer.receivers ≠ 0 ∧ buffer.queue.length < buffer.capacity ∧
      buffer' = { buffer with queue := buffer.queue ++ [frame] } := by
  simp only [Buffer.put, unparked] at put
  split at put
  case isTrue => cases put
  case isFalse manned =>
      split at put
      case isTrue free =>
          cases put
          exact ⟨manned, free, by rw [unparked]⟩
      case isFalse => cases put

theorem eq_of_take (taken : buffer.take? = some (frame, buffer')) :
    ∃ queue, buffer.queue = frame :: queue ∧ buffer' = { buffer with queue } := by
  unfold Buffer.take? at taken
  split at taken
  case h_1 => cases taken
  case h_2 filled =>
      cases taken
      exact ⟨_, filled, rfl⟩

theorem full_of_put (put : buffer.put frame = .full) :
    buffer.receivers ≠ 0 ∧ buffer.capacity ≤ buffer.queue.length := by
  unfold Buffer.put at put
  split at put
  case isTrue => cases put
  case isFalse manned =>
      split at put
      · cases put
      · split at put
        case isTrue => cases put
        case isFalse full => exact ⟨manned, Nat.le_of_not_lt full⟩

end Buffer

theorem Pump.arrival?_of_next {s : Shared} {arrival : Arrival} {feed : Feed}
    (active : s.cancelled = false) (next : s.feed.next? s.now = some (arrival, feed)) :
    Pump.listening.arrival? s = some arrival := by
  simp [arrival?, active, next]

end Courier
