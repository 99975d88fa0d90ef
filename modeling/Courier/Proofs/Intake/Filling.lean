import Courier.Proofs.Intake.Inlet

/-! A pump never waits for the consumers. What they took and what they left in the buffer is what the
buffer took in, in the order of arrival, and a frame is dropped where it finds the buffer full and
nowhere else. -/

namespace Courier.Inlet

variable {limit : Nat} {past : List (Transition Inlet Act)} {t t' : Inlet} {act : Act}

def Hears (past : List (Transition Inlet Act)) (t : Inlet) : Prop :=
  match t.pump.exit? with
  | none => arrivals past = (framesOf (arrivals past)).map .frame ∧ having .refused past = []
  | some .cancelled =>
      arrivals past = (framesOf (arrivals past)).map .frame ∧ having .refused past = [] ∧
        t.shared.cancelled = true
  | some .bufferClosed =>
      arrivals past = (framesOf (arrivals past)).map .frame ∧
        t.shared.buffer.receivers = 0 ∧
        ∃ frame, having .refused past = [frame] ∧ (met past).getLast? = some (frame, .refused)
  | some exit =>
      having .refused past = [] ∧
        ∃ ending : Arrival, ending.exit? = some exit ∧
          arrivals past = (framesOf (arrivals past)).map .frame ++ [ending]

/-- What every history of a pump and its consumers keeps. -/
structure Filled (limit : Nat) (past : List (Transition Inlet Act)) (t : Inlet) : Prop where
  capacity : t.shared.buffer.capacity = limit
  unparked : t.shared.buffer.parked = []
  order : t.taken ++ t.shared.buffer.queue = having .accepted past
  room : t.shared.buffer.queue.length ≤ limit
  arrived : framesOf (arrivals past) = (met past).map (·.1) ++ t.pump.held?.toList
  enqueued : t.shared.stats.enqueued + t.pump.hasStored.toNat = (having .accepted past).length
  bufferDropped : t.shared.stats.bufferDropped = (having .dropped past).length
  frames : t.shared.stats.frames = t.shared.stats.enqueued + t.shared.stats.bufferDropped
  hears : t.Hears past

theorem filled_start (config : Config) (around : Surroundings) :
    Filled config.consumer.bufferSize [] (start config around) where
  capacity := rfl
  unparked := rfl
  order := rfl
  room := Nat.zero_le _
  arrived := rfl
  enqueued := rfl
  bufferDropped := rfl
  frames := rfl
  hears := ⟨rfl, rfl⟩

section Pump

variable {s s' : Shared} {taken : List Wire.Response}

private theorem hears_ending {exit : Pump.Exit} {ending : Arrival}
    (ends : ending.exit? = some exit) (unrefused : having .refused past = [])
    (heard : arrivals past = (framesOf (arrivals past)).map .frame ++ [ending]) :
    Hears past ⟨s, .ended exit, taken⟩ := by
  cases exit with
  | endOfStream | pingLimit | failed => exact ⟨unrefused, ending, ends, heard⟩
  | cancelled | bufferClosed =>
      cases ending with
      | frame | ended => cases ends
      | failed status =>
          simp only [Arrival.exit?] at ends
          split at ends <;> cases ends

private theorem Filled.stop {exit : Pump.Exit} (filled : Filled limit past ⟨s, .listening, taken⟩)
    (buffer : s'.buffer = s.buffer.finish) (stats : s'.stats = s.stats)
    (silent : (Pump.listening.arrival? s).bind Arrival.frame? = none)
    (hears : Hears (past ++ [⟨⟨s, .listening, taken⟩, .pump, ⟨s', .ended exit, taken⟩⟩])
      ⟨s', .ended exit, taken⟩) :
    Filled limit (past ++ [⟨⟨s, .listening, taken⟩, .pump, ⟨s', .ended exit, taken⟩⟩])
      ⟨s', .ended exit, taken⟩ := by
  obtain ⟨capacity, unparked, order, room, arrived, enqueued, bufferDropped, frames, _⟩ := filled
  refine ⟨?_, ?_, ?_, ?_, ?_, ?_, ?_, ?_, hears⟩
  · rw [buffer]
    exact capacity
  · rw [buffer]
    exact unparked
  · simpa [met?, buffer, Buffer.finish] using order
  · rw [buffer]
    exact room
  · cases heard : Pump.listening.arrival? s with
    | none => simpa [met?, Pump.held?, arrival?, heard] using arrived
    | some ending =>
        simp only [heard, Option.bind_some] at silent
        simpa [met?, Pump.held?, arrival?, heard, framesOf, silent] using arrived
  · simpa [met?, stats, Pump.hasStored] using enqueued
  · simpa [met?, stats] using bufferDropped
  · rw [stats]
    exact frames

private theorem Filled.hangUp {exit : Pump.Exit} {ending : Arrival}
    (filled : Filled limit past ⟨s, .listening, taken⟩)
    (buffer : s'.buffer = s.buffer.finish) (stats : s'.stats = s.stats)
    (heard : Pump.listening.arrival? s = some ending) (ends : ending.exit? = some exit) :
    Filled limit (past ++ [⟨⟨s, .listening, taken⟩, .pump, ⟨s', .ended exit, taken⟩⟩])
      ⟨s', .ended exit, taken⟩ := by
  have silent := Arrival.frame?_of_exit? ends
  refine filled.stop buffer stats (by rw [heard]; exact silent) ?_
  obtain ⟨arrived, unrefused⟩ := filled.hears
  refine hears_ending ends ?_ ?_
  · simpa [met?] using unrefused
  · simpa [arrival?, heard, framesOf, silent] using arrived

theorem Filled.pump (filled : Filled limit past t) {pump' : Pump}
    (move : Pump.Move t.shared t.pump s' pump') :
    Filled limit (past ++ [⟨t, .pump, { t with shared := s', pump := pump' }⟩])
      { t with shared := s', pump := pump' } := by
  obtain ⟨s, pump, taken⟩ := t
  simp only at move
  obtain ⟨capacity, unparked, order, room, arrived, enqueued, bufferDropped, frames, hears⟩ :=
    id filled
  cases move with
  | cancel cancelled =>
      have silent : Pump.listening.arrival? s = none := by simp [Pump.arrival?, cancelled]
      refine filled.stop rfl rfl (by rw [silent]; rfl) ?_
      simpa [Hears, Pump.exit?, arrival?, silent, met?, cancelled] using filled.hears
  | fail active next failed =>
      exact filled.hangUp rfl rfl (Pump.arrival?_of_next active next) (Pump.exit?_of_fail failed)
  | close active next =>
      exact filled.hangUp rfl rfl (Pump.arrival?_of_next active next) rfl
  | receive active next =>
      have heard := Pump.arrival?_of_next active next
      refine ⟨capacity, unparked, ?_, room, ?_, ?_, ?_, frames, ?_, ?_⟩
      · simpa [met?] using order
      · simpa [met?, arrival?, heard, Pump.held?] using arrived
      · simpa [met?, Pump.hasStored] using enqueued
      · simpa [met?] using bufferDropped
      · simpa [arrival?, heard] using hears.1
      · simpa [met?] using hears.2
  | store put =>
      obtain ⟨_, free, rfl⟩ := Buffer.stored_of_unparked unparked put
      refine ⟨capacity, unparked, ?_, ?_, ?_, ?_, ?_, frames, ?_, ?_⟩
      · simp [met?, ← order]
      · rw [List.length_append]
        exact capacity ▸ free
      · simpa [met?, arrival?, Pump.arrival?, Pump.held?] using arrived
      · simpa [met?, Pump.hasStored] using enqueued
      · simpa [met?] using bufferDropped
      · simpa [arrival?, Pump.arrival?] using hears.1
      · simpa [met?] using hears.2
  | overflow =>
      refine ⟨capacity, unparked, ?_, room, ?_, ?_, ?_, ?_, ?_, ?_⟩
      · simpa [met?, Shared.record, Shared.note] using order
      · simpa [met?, arrival?, Pump.arrival?, Pump.held?] using arrived
      · simpa [met?, Shared.record, Shared.note, Statistics.record, Pump.hasStored] using enqueued
      · simpa [met?, Shared.record, Shared.note, Statistics.record] using bufferDropped
      · exact congrArg (· + 1) frames
      · simpa [arrival?, Pump.arrival?] using hears.1
      · simpa [met?] using hears.2
  | @refuse frame put =>
      have alone : s.buffer.receivers = 0 := Buffer.receivers_of_put_closed put
      refine ⟨capacity, unparked, ?_, room, ?_, ?_, ?_, frames, ?_, alone, frame, ?_, ?_⟩
      · simpa [met?, Buffer.finish] using order
      · simpa [met?, arrival?, Pump.arrival?, Pump.held?] using arrived
      · simpa [met?, Pump.hasStored] using enqueued
      · simpa [met?] using bufferDropped
      · simpa [arrival?, Pump.arrival?] using hears.1
      · simp [met?, hears.2]
      · simp [met?]
  | count =>
      refine ⟨capacity, unparked, ?_, room, ?_, ?_, ?_, ?_, ?_, ?_⟩
      · simpa [met?, Shared.record] using order
      · simpa [met?, arrival?, Pump.arrival?, Pump.held?] using arrived
      · simpa [met?, Shared.record, Statistics.record, Pump.hasStored] using enqueued
      · simpa [met?, Shared.record, Statistics.record] using bufferDropped
      · have counted := congrArg (· + 1) frames
        exact counted.trans (Nat.add_right_comm ..)
      · simpa [arrival?, Pump.arrival?] using hears.1
      · simpa [met?] using hears.2

end Pump

private theorem Filled.elsewhere (filled : Filled limit past t) {shared : Shared}
    {taken : List Wire.Response}
    (idle : arrival? ⟨t, act, { t with shared, taken }⟩ = none)
    (capacity : shared.buffer.capacity = t.shared.buffer.capacity)
    (unparked : shared.buffer.parked = [])
    (order : taken ++ shared.buffer.queue = t.taken ++ t.shared.buffer.queue)
    (room : shared.buffer.queue.length ≤ t.shared.buffer.queue.length)
    (receivers : shared.buffer.receivers ≤ t.shared.buffer.receivers)
    (frames : shared.stats.frames = t.shared.stats.frames)
    (enqueued : shared.stats.enqueued = t.shared.stats.enqueued)
    (bufferDropped : shared.stats.bufferDropped = t.shared.stats.bufferDropped)
    (cancelled : t.shared.cancelled = true → shared.cancelled = true) :
    Filled limit (past ++ [⟨t, act, { t with shared, taken }⟩]) { t with shared, taken } := by
  have unmet : met? ⟨t, act, { t with shared, taken }⟩ = none := by
    cases pump : t.pump <;> simp [met?, pump]
  have arrivals' : arrivals (past ++ [⟨t, act, { t with shared, taken }⟩]) = arrivals past := by
    simp [idle]
  have met' : met (past ++ [⟨t, act, { t with shared, taken }⟩]) = met past := by simp [unmet]
  have having' : ∀ fate,
      having fate (past ++ [⟨t, act, { t with shared, taken }⟩]) = having fate past := by
    simp [unmet]
  refine ⟨capacity.trans filled.capacity, unparked, ?_, Nat.le_trans room filled.room, ?_, ?_, ?_,
    ?_, ?_⟩
  · rw [having']
    exact order.trans filled.order
  · rw [arrivals', met']
    exact filled.arrived
  · rw [having', enqueued]
    exact filled.enqueued
  · rw [having', bufferDropped]
    exact filled.bufferDropped
  · rw [frames, enqueued, bufferDropped]
    exact filled.frames
  · have hears := filled.hears
    simp only [Hears, arrivals', met', having'] at hears ⊢
    cases ended : t.pump.exit? with
    | none => simpa only [ended] using hears
    | some exit =>
        simp only [ended] at hears
        cases exit with
        | cancelled => exact ⟨hears.1, hears.2.1, cancelled hears.2.2⟩
        | bufferClosed => exact ⟨hears.1, Nat.le_zero.mp (hears.2.1 ▸ receivers), hears.2.2⟩
        | endOfStream | pingLimit | failed => exact hears

theorem Filled.next (filled : Filled limit past t) (moved : t.step act = some t') :
    Filled limit (past ++ [⟨t, act, t'⟩]) t' := by
  cases act with
  | pump =>
      simp only [step, Option.map_eq_some_iff, Prod.exists] at moved
      obtain ⟨shared, pump, moved, rfl⟩ := moved
      exact filled.pump (Pump.move_of_step moved)
  | take =>
      simp only [step, Option.ite_none_left_eq_some, Option.map_eq_some_iff, Prod.exists] at moved
      obtain ⟨_, frame, buffer, taken, rfl⟩ := moved
      obtain ⟨queue, filledWith, rfl⟩ := Buffer.eq_of_take taken
      refine filled.elsewhere rfl rfl filled.unparked ?_ ?_ (Nat.le_refl _) rfl rfl rfl id
      · simp [filledWith]
      · simp [filledWith]
  | leave =>
      obtain ⟨_, same⟩ := Option.ite_none_left_eq_some.mp moved
      cases same
      refine filled.elsewhere rfl rfl ?_ rfl (Nat.le_refl _) (Nat.sub_le ..) rfl rfl rfl id
      simp [Buffer.leave, filled.unparked]
  | elsewhere shared =>
      obtain ⟨⟨buffer, frames, enqueued, bufferDropped, cancelled⟩, same⟩ :=
        Option.ite_none_right_eq_some.mp moved
      cases same
      refine filled.elsewhere rfl (congrArg Buffer.capacity buffer)
        (buffer ▸ filled.unparked) ?_ (Nat.le_of_eq ?_) (Nat.le_of_eq ?_)
        frames enqueued bufferDropped cancelled
      all_goals rw [buffer]

theorem filled_of_history {config : Config} {around : Surroundings}
    (history : History step (start config around) past t) :
    Filled config.consumer.bufferSize past t := by
  induction history with
  | start => exact filled_start config around
  | next _ moved induction => exact induction.next moved

/-- What a step of the pump is, seen from the buffer and from the token that cancels it. -/
structure Prompt (limit : Nat) (made : Transition Inlet Act) : Prop where
  running : made.before.pump.exit? = none
  refused : ∀ frame, made.before.pump = .holding frame →
    made.before.shared.buffer.receivers = 0 →
      made.after.pump = .ended .bufferClosed ∧ made.after.shared.stats = made.before.shared.stats
  dropped : ∀ frame, made.before.pump = .holding frame →
    made.before.shared.buffer.receivers ≠ 0 →
      (met? made = some (frame, .dropped) ↔ made.before.shared.buffer.queue.length = limit) ∧
      (met? made = some (frame, .accepted) ↔ made.before.shared.buffer.queue.length < limit)
  revoked : made.before.pump = .listening → made.before.shared.cancelled = true →
    made.after.pump = .ended .cancelled ∧ made.after.shared.feed = made.before.shared.feed
  heard : made.before.pump = .listening → made.before.shared.cancelled = false →
    ∃ arrival, made.before.shared.feed.next? made.before.shared.now =
        some (arrival, made.after.shared.feed) ∧
      made.after.pump.exit? = arrival.exit?

theorem Filled.prompt (filled : Filled limit past t) (moved : t.step .pump = some t') :
    Prompt limit ⟨t, .pump, t'⟩ := by
  obtain ⟨s, pump, taken⟩ := t
  simp only [step, Option.map_eq_some_iff, Prod.exists] at moved
  obtain ⟨s', pump', moved, rfl⟩ := moved
  have move := Pump.move_of_step moved
  obtain ⟨rfl, unparked, _, room, _⟩ := filled
  refine ⟨move.running, ?_, ?_, ?_, ?_⟩
  · rintro frame rfl alone
    cases move with
    | store put => exact ((Buffer.stored_of_unparked unparked put).1 alone).elim
    | overflow put => exact ((Buffer.full_of_put put).1 alone).elim
    | refuse => exact ⟨rfl, rfl⟩
  · rintro frame rfl manned
    cases move with
    | store put =>
        have free := (Buffer.stored_of_unparked unparked put).2.1
        exact ⟨iff_of_false (by simp [met?]) (Nat.ne_of_lt free), iff_of_true rfl free⟩
    | overflow put =>
        have full := (Buffer.full_of_put put).2
        exact ⟨iff_of_true rfl (Nat.le_antisymm room full),
          iff_of_false (by simp [met?]) (Nat.not_lt.mpr full)⟩
    | refuse put => exact (manned (Buffer.receivers_of_put_closed put)).elim
  · rintro rfl cancelled
    cases move with
    | cancel => exact ⟨rfl, rfl⟩
    | receive active | fail active | close active =>
        cases cancelled.symm.trans active
  · rintro rfl active
    cases move with
    | cancel cancelled => cases cancelled.symm.trans active
    | receive _ next => exact ⟨_, next, rfl⟩
    | fail _ next failed => exact ⟨_, next, (Pump.exit?_of_fail failed).symm⟩
    | close _ next => exact ⟨_, next, rfl⟩

theorem waiting_of_stuck (stuck : t.step .pump = none) :
    t.pump.exit?.isSome = true ∨
      t.pump = .listening ∧ t.shared.cancelled = false ∧
        t.shared.feed.next? t.shared.now = none := by
  obtain ⟨s, pump, taken⟩ := t
  simp only [step, Option.map_eq_none_iff] at stuck
  cases pump with
  | ended exit => exact .inl rfl
  | stored => cases stuck
  | holding frame =>
      simp only [Pump.step] at stuck
      split at stuck <;> cases stuck
  | listening =>
      refine .inr ⟨rfl, ?_⟩
      simp only [Pump.step] at stuck
      split at stuck
      case isTrue => cases stuck
      case isFalse active =>
          refine ⟨eq_false_of_ne_true active, ?_⟩
          cases next : s.feed.next? s.now with
          | none => rfl
          | some found =>
              obtain ⟨arrival, feed⟩ := found
              simp only [next] at stuck
              cases arrival <;> cases stuck

theorem pump_of_step (moved : t.step act = some t') :
    act = .pump ∨ t'.pump = t.pump ∧ arrival? ⟨t, act, t'⟩ = none := by
  cases act with
  | pump => exact .inl rfl
  | take =>
      simp only [step, Option.ite_none_left_eq_some, Option.map_eq_some_iff, Prod.exists] at moved
      obtain ⟨_, _, _, _, rfl⟩ := moved
      exact .inr ⟨rfl, rfl⟩
  | leave =>
      obtain ⟨_, same⟩ := Option.ite_none_left_eq_some.mp moved
      cases same
      exact .inr ⟨rfl, rfl⟩
  | elsewhere =>
      obtain ⟨_, same⟩ := Option.ite_none_right_eq_some.mp moved
      cases same
      exact .inr ⟨rfl, rfl⟩

theorem silent_of_ended {exit : Pump.Exit} (ended : t.pump = .ended exit)
    (history : History step t past t') :
    t'.pump = .ended exit ∧ arrivals past = [] ∧ met past = [] := by
  induction history with
  | start => exact ⟨ended, rfl, rfl⟩
  | next _ moved induction =>
      obtain ⟨stopped, unheard, unmet⟩ := induction
      rcases pump_of_step moved with rfl | ⟨same, idle⟩
      · simp [step, stopped, Pump.step] at moved
      · refine ⟨same.trans stopped, by simp [unheard, idle], by simp [unmet, met?, stopped]⟩

/-- The buffer takes in what it has room for and drops what comes when it is full, whatever the
consumers do and whenever the pump is cancelled. The pump never waits for them. -/
theorem drop_newest {config : Config} {around : Surroundings}
    (history : History step (start config around) past t) :
    Filled config.consumer.bufferSize past t ∧
      (∀ made ∈ past, made.label = .pump → Prompt config.consumer.bufferSize made) ∧
      (t.step .pump = none → t.pump.exit?.isSome = true ∨
        t.pump = .listening ∧ t.shared.cancelled = false ∧
          t.shared.feed.next? t.shared.now = none) ∧
      (∀ exit, t.pump = .ended exit → ∀ later t', History step t later t' →
        t'.pump = .ended exit ∧ arrivals later = [] ∧ met later = []) := by
  refine ⟨filled_of_history history, ?_, waiting_of_stuck, fun _ ended _ _ => silent_of_ended ended⟩
  rintro ⟨before, act, after⟩ member rfl
  obtain ⟨earlier, later, rfl⟩ := List.append_of_mem member
  exact (filled_of_history history.before_of_append).prompt (history.moved_of_mem member)

private def narrow : Config := { topic := "news", consumer := { bufferSize := 1, workers := 1 } }

private def letter (byte : UInt8) : Wire.Response := { command := 1, data := [byte] }

private def posted : Surroundings :=
  .alone .accepting (.ofScript
    [(0, .frame (letter 1)), (0, .frame (letter 2)), (0, .frame (letter 3))] false)

/-- The second frame finds the buffer full, and the third finds nobody. -/
private def narrowActs : List Act :=
  [.pump, .pump, .pump, .pump, .pump, .take, .leave, .pump, .pump]

theorem drop_newest_where_narrow :
    ∃ past t, History step (start narrow posted) past t ∧
      met past = [(letter 1, .accepted), (letter 2, .dropped), (letter 3, .refused)] ∧
        t.pump = .ended .bufferClosed ∧ t.taken ++ t.shared.buffer.queue = [letter 1] ∧
          t.shared.stats.frames = 2 := by
  have run : (replay step (start narrow posted) narrowActs).map
      (fun (past, t) => (met past, t.pump)) =
        some ([(letter 1, .accepted), (letter 2, .dropped), (letter 3, .refused)],
          .ended .bufferClosed) := by
    decide
  obtain ⟨⟨past, t⟩, replayed, facts⟩ := Option.map_eq_some_iff.mp run
  simp only [Prod.mk.injEq] at facts
  obtain ⟨fates, ended⟩ := facts
  have history := History.ofReplay replayed
  have filled := (drop_newest history).1
  have enqueued := filled.enqueued
  have bufferDropped := filled.bufferDropped
  simp only [having, fates, ended, Pump.hasStored] at enqueued bufferDropped
  refine ⟨past, t, history, fates, ended, ?_, ?_⟩
  · rw [filled.order, having, fates]
    rfl
  · rw [filled.frames, bufferDropped]
    exact congrArg (· + 1) enqueued

end Courier.Inlet
