import Courier.Worker

/-! The steps of a worker, one by one. -/

namespace Courier

namespace Buffer

variable {buffer : Buffer}

theorem take?_of_cons {frame : Wire.Response} {queue : List Wire.Response}
    (filled : buffer.queue = frame :: queue) :
    buffer.take? = some (frame, { buffer with queue }) := by
  simp only [take?, filled]

theorem take?_of_nil (empty : buffer.queue = []) : buffer.take? = none := by
  simp only [take?, empty]

end Buffer

namespace Worker

/-- `Wakes s worker parked`: the worker looks for a frame, and `parked` are those who still wait
then. -/
inductive Wakes (s : Shared) (worker : Worker) : List Nat → Prop where
  | idle (stage : worker.stage = .idle) : Wakes s worker s.buffer.parked
  | parked (stage : worker.stage = .parked)
      (woken : ¬(worker.id ∈ s.buffer.parked ∧ s.buffer.fed = true)) :
      Wakes s worker (s.buffer.parked.erase worker.id)

inductive Move (gates : List Gate) (s : Shared) (worker : Worker) : Shared → Worker → Prop where
  | take {parked : List Nat} {frame : Wire.Response} {queue : List Wire.Response}
      (wakes : Wakes s worker parked) (active : s.shutdown = false)
      (filled : s.buffer.queue = frame :: queue) :
      Move gates s worker { s with buffer := { s.buffer with queue, parked } }
        (worker.goto (.fetched frame))
  | park {parked : List Nat}
      (wakes : Wakes s worker parked) (active : s.shutdown = false)
      (empty : s.buffer.queue = []) (fed : s.buffer.fed = true) :
      Move gates s worker { s with buffer := { s.buffer with parked }.park worker.id }
        (worker.goto .parked)
  | quit {parked : List Nat}
      (wakes : Wakes s worker parked) (active : s.shutdown = false)
      (empty : s.buffer.queue = []) (unfed : s.buffer.fed = false) :
      Move gates s worker
        { s.note (.workerStopped worker.id) with
          buffer := { s.buffer with parked }.leave worker.id }
        (worker.goto .stopped)
  | stop (waits : worker.stage = .idle ∨ worker.stage = .parked) (told : s.shutdown = true) :
      Move gates s worker
        { s.note (.workerStopped worker.id) with buffer := s.buffer.leave worker.id }
        (worker.goto .stopped)
  | count {frame : Wire.Response} (stage : worker.stage = .fetched frame) :
      Move gates s worker (s.record .processed) (worker.goto (.counted frame))
  | reject {frame : Wire.Response} {data : List UInt8} {error : Envelope.DecodeError}
      (stage : worker.stage = .counted frame) (kind : Inbound.ofResponse frame = .message data)
      (undecoded : Envelope.decode data = .error error) :
      Move gates s worker
        ((s.record .decodeError).note (.undecodable data.length error.message))
        (worker.goto .idle)
  | number {frame : Wire.Response} {data : List UInt8} {envelope : Envelope}
      (stage : worker.stage = .counted frame) (kind : Inbound.ofResponse frame = .message data)
      (decoded : Envelope.decode data = .ok envelope) :
      Move gates s worker (s.record .received)
        (worker.goto (.numbered (s.stats.received + 1) envelope))
  | trace {frame : Wire.Response} {trace : Trace}
      (stage : worker.stage = .counted frame) (kind : Inbound.ofResponse frame = .trace trace) :
      Move gates s worker (s.record .trace) (worker.goto (.delivering (.trace trace) gates))
  | ignore {frame : Wire.Response} {code : Int32}
      (stage : worker.stage = .counted frame) (kind : Inbound.ofResponse frame = .unknown code) :
      Move gates s worker ((s.record .unknown).note (.unknownFrame code)) (worker.goto .idle)
  | acknowledge {seq : Nat} {envelope : Envelope} (stage : worker.stage = .numbered seq envelope) :
      Move gates s worker (acknowledge s seq)
        (worker.goto (.delivering (.message seq envelope) gates))
  | enter {delivery : Delivery} {gate : Gate} {next : List Gate}
      (stage : worker.stage = .delivering delivery (gate :: next))
      (accepts : gate.accepts delivery = true) :
      Move gates s worker s
        (worker.goto (.handling ⟨gate, delivery, next⟩ (gate.work delivery)))
  | pass {delivery : Delivery} {gate : Gate} {next : List Gate}
      (stage : worker.stage = .delivering delivery (gate :: next))
      (refuses : gate.accepts delivery = false) :
      Move gates s worker s (worker.goto (.delivering delivery next))
  | done {delivery : Delivery} (stage : worker.stage = .delivering delivery []) :
      Move gates s worker s (worker.goto .idle)
  | print {visit : Visit} {seq : Nat} {message : List UInt8} {deeds : List Deed}
      (stage : worker.stage = .handling visit (.print seq message :: deeds)) :
      Move gates s worker (s.print (.received seq s.nanos message))
        (worker.goto (.handling visit deeds))
  | log {visit : Visit} {trace : Trace} {deeds : List Deed}
      (stage : worker.stage = .handling visit (.log trace :: deeds)) :
      Move gates s worker (s.note (.traceReceived trace)) (worker.goto (.handling visit deeds))
  | record {visit : Visit} {line : String} {deeds : List Deed} {s' : Shared}
      (stage : worker.stage = .handling visit (.record line :: deeds))
      (recorded : s.recordLine? line = some s') :
      Move gates s worker s' (worker.goto (.handling visit deeds))
  | keep {visit : Visit} {kept : Kept} {deeds : List Deed}
      (stage : worker.stage = .handling visit (.keep kept :: deeds)) :
      Move gates s worker { s with kept := s.kept ++ [kept] }
        (worker.goto (.handling visit deeds))
  | rest {visit : Visit} {delay : Nat} {deeds : List Deed}
      (stage : worker.stage = .handling visit (.rest delay :: deeds)) :
      Move gates s worker s (worker.goto (.resting (s.now + delay) visit deeds))
  | wake {deadline : Nat} {visit : Visit} {deeds : List Deed}
      (stage : worker.stage = .resting deadline visit deeds) (due : deadline ≤ s.now) :
      Move gates s worker s (worker.goto (.handling visit deeds))
  | leave {visit : Visit} (stage : worker.stage = .handling visit []) :
      Move gates s worker s (worker.goto (.delivering visit.delivery visit.next))

variable {gates : List Gate} {s s' : Shared} {worker worker' : Worker}

theorem stage_of_isStopped (stopped : worker.isStopped = true) : worker.stage = .stopped := by
  unfold isStopped at stopped
  split at stopped
  case h_1 stage => exact stage
  case h_2 => cases stopped

private theorem move_of_fetch {parked : List Nat}
    (wakes : Wakes s worker parked) (active : s.shutdown = false)
    (fetched : worker.fetch { s with buffer := { s.buffer with parked } } = (s', worker')) :
    Move gates s worker s' worker' := by
  simp only [fetch] at fetched
  cases filled : s.buffer.queue with
  | cons frame queue =>
      have taken : Buffer.take? { s.buffer with parked } = _ := Buffer.take?_of_cons filled
      rw [taken] at fetched
      cases fetched
      exact .take wakes active filled
  | nil =>
      have nothing : Buffer.take? { s.buffer with parked } = none := Buffer.take?_of_nil filled
      rw [nothing] at fetched
      dsimp only at fetched
      split at fetched
      case isTrue fed =>
          cases fetched
          exact .park wakes active filled fed
      case isFalse fed =>
          cases fetched
          exact .quit wakes active filled (eq_false_of_ne_true fed)

private theorem move_of_classify {frame : Wire.Response} (stage : worker.stage = .counted frame)
    (classified : worker.classify s gates frame = (s', worker')) :
    Move gates s worker s' worker' := by
  unfold classify at classified
  cases kind : Inbound.ofResponse frame with
  | message data =>
      simp only [kind] at classified
      cases decoded : Envelope.decode data with
      | error error =>
          simp only [decoded] at classified
          cases classified
          exact .reject stage kind decoded
      | ok envelope =>
          simp only [decoded] at classified
          cases classified
          exact .number stage kind decoded
  | trace trace =>
      simp only [kind] at classified
      cases classified
      exact .trace stage kind
  | unknown code =>
      simp only [kind] at classified
      cases classified
      exact .ignore stage kind

private theorem move_of_handle {visit : Visit} {deeds : List Deed}
    (stage : worker.stage = .handling visit deeds)
    (handled : worker.handle s visit deeds = some (s', worker')) :
    Move gates s worker s' worker' := by
  cases deeds with
  | nil =>
      cases handled
      exact .leave stage
  | cons deed deeds =>
      cases deed with
      | print =>
          cases handled
          exact .print stage
      | log =>
          cases handled
          exact .log stage
      | record =>
          simp only [handle, Option.map_eq_some_iff] at handled
          obtain ⟨shared, recorded, same⟩ := handled
          cases same
          exact .record stage recorded
      | keep =>
          cases handled
          exact .keep stage
      | rest =>
          cases handled
          exact .rest stage

theorem acknowledge_eq (s : Shared) (seq : Nat) :
    ∃ log, acknowledge s seq =
      if s.flow.enabled then ({ s with log } : Shared).addCredits s.flow.creditIncrement
      else { s with log } := by
  unfold acknowledge
  dsimp only
  split <;> exact ⟨_, rfl⟩

theorem move_of_step (moved : worker.step gates s = some (s', worker')) :
    Move gates s worker s' worker' := by
  cases stage : worker.stage with
  | idle =>
      simp only [step, stage, Option.some.injEq] at moved
      split at moved
      case isTrue told =>
          cases moved
          exact .stop (.inl stage) told
      case isFalse active =>
          exact move_of_fetch (.idle stage) (eq_false_of_ne_true active) moved
  | parked =>
      simp only [step, stage] at moved
      split at moved
      case isTrue told =>
          cases moved
          exact .stop (.inr stage) told
      case isFalse active =>
          split at moved
          case isTrue => cases moved
          case isFalse woken =>
              exact move_of_fetch (.parked stage woken) (eq_false_of_ne_true active)
                (Option.some.inj moved)
  | fetched frame =>
      simp only [step, stage] at moved
      cases moved
      exact .count stage
  | counted frame =>
      simp only [step, stage] at moved
      exact move_of_classify stage (Option.some.inj moved)
  | numbered seq envelope =>
      simp only [step, stage] at moved
      cases moved
      exact .acknowledge stage
  | delivering delivery gates =>
      cases gates with
      | nil =>
          simp only [step, stage] at moved
          cases moved
          exact .done stage
      | cons gate next =>
          simp only [step, stage] at moved
          cases accepts : gate.accepts delivery with
          | true =>
              rw [accepts, if_pos rfl] at moved
              cases moved
              exact .enter stage accepts
          | false =>
              rw [accepts, if_neg Bool.false_ne_true] at moved
              cases moved
              exact .pass stage accepts
  | handling visit deeds =>
      simp only [step, stage] at moved
      exact move_of_handle stage moved
  | resting deadline visit deeds =>
      simp only [step, stage] at moved
      split at moved
      case isTrue due =>
          cases moved
          exact .wake stage due
      case isFalse => cases moved
  | stopped => simp [step, stage] at moved

end Worker

end Courier
