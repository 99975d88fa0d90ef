import Courier.Config.Validation
import Courier.Proofs.Intake.Handling
import Courier.Proofs.World.Closing
import Courier.Proofs.World.Motion
import Courier.Proofs.World.Starting

/-! What a session receives. Between the stream and the workers no frame is lost and none comes
twice, but for those that find the buffer full. -/

namespace Courier

theorem Config.workers_pos_of_valid {config : Config} (valid : config.error? = none) :
    0 < config.consumer.workers := by
  apply Nat.pos_of_ne_zero
  intro zero
  unfold Config.error? at valid
  split at valid
  · cases valid
  · split at valid
    · cases valid
    · simp [Count.value, zero] at valid

namespace World

def arrival? (made : Transition World Motion) : Option Arrival :=
  match made.label with
  | .part .pump => made.before.pump.bind (Pump.arrival? made.before.shared)
  | _ => none

def stored? (made : Transition World Motion) : Option Wire.Response :=
  match made.label, made.before.pump, made.after.pump with
  | .part .pump, some pump, some pump' => pump.stored? pump'
  | _, _, _ => none

def taken? (made : Transition World Motion) : Option (Nat × Wire.Response) :=
  match made.label with
  | .part (.worker index) =>
      (made.after.workers[index]?.bind Worker.fetched?).map (index, ·)
  | _ => none

def told? (made : Transition World Motion) : Option (Nat × Wire.Response) :=
  match made.label with
  | .part (.worker index) =>
      (made.before.workers[index]?.bind Worker.counted?).map (index, ·)
  | _ => none

def arrivals (past : List (Transition World Motion)) : List Arrival := past.filterMap arrival?

def stored (past : List (Transition World Motion)) : List Wire.Response :=
  past.filterMap stored?

def taken (past : List (Transition World Motion)) : List (Nat × Wire.Response) :=
  past.filterMap taken?

def told (past : List (Transition World Motion)) : List (Nat × Wire.Response) :=
  past.filterMap told?

section Observing

variable (past : List (Transition World Motion)) (made : Transition World Motion)

theorem arrivals_append : arrivals (past ++ [made]) = arrivals past ++ (arrival? made).toList :=
  filterMap_append_singleton ..

theorem stored_append : stored (past ++ [made]) = stored past ++ (stored? made).toList :=
  filterMap_append_singleton ..

theorem taken_append : taken (past ++ [made]) = taken past ++ (taken? made).toList :=
  filterMap_append_singleton ..

theorem told_append : told (past ++ [made]) = told past ++ (told? made).toList :=
  filterMap_append_singleton ..

end Observing

/-- What holds of a session at every moment, with all that it has received. -/
structure Receives (past : List (Transition World Motion)) (w : World) (session : Session)
    (pump : Pump) : Prop where
  driving : w.session = some session
  pumping : w.pump = some pump
  manned : w.workers ≠ []
  unplanned : ∀ planned ∈ w.outside, planned.2 ≠ .shutdown
  staffed : Staffed w.shared.intake pump w.workers
  pumped : Pumped (arrivals past) (stored past) w.shared.stats.tally pump
  handled : Handled (taken past) (told past) (stored past) w.shared.intake w.workers
  faithful : session.Faithful w.shared.intake pump.exit? w.workers

section Start

variable {config : Config} {around : Surroundings}

private theorem active_start (count : Nat) :
    active ((List.range count).map Worker.start) = count := by
  have all : ∀ worker ∈ (List.range count).map Worker.start, worker.isActive = true := by
    intro worker member
    obtain ⟨id, _, rfl⟩ := List.mem_map.mp member
    rfl
  rw [active, List.countP_eq_length.mpr all, List.length_map, List.length_range]

theorem receives_start (valid : config.error? = none)
    (unplanned : ∀ planned ∈ around.outside, planned.2 ≠ .shutdown) (records : Bool)
    (gates : List Gate) :
    Receives [] (ofSession config around records gates) .starting .listening := by
  rw [ofSession_eq]
  have all := active_start config.consumer.workers
  have length : ((List.range config.consumer.workers).map Worker.start).length =
      config.consumer.workers := by
    rw [List.length_map, List.length_range]
  refine ⟨rfl, rfl, ?_, unplanned, ?_, ⟨rfl, rfl, rfl, List.Sublist.refl _, rfl⟩, ?_, rfl⟩
  · rw [← List.length_pos_iff, length]
    exact Config.workers_pos_of_valid valid
  · exact ⟨all.symm, rfl, fun _ => .inl (all.trans length.symm), nofun⟩
  · apply Handled.start rfl rfl
    intro worker member
    obtain ⟨id, _, rfl⟩ := List.mem_map.mp member
    exact ⟨rfl, rfl⟩

end Start

variable {past : List (Transition World Motion)} {w w' : World} {motion : Motion}
  {session : Session} {pump : Pump}

private theorem Receives.elsewhere (receives : Receives past w session pump)
    (arrival : arrival? ⟨w, motion, w'⟩ = none) (stored : stored? ⟨w, motion, w'⟩ = none)
    (taken : taken? ⟨w, motion, w'⟩ = none) (told : told? ⟨w, motion, w'⟩ = none)
    (driving : w'.session = w.session) (pumping : w'.pump = w.pump)
    (workers : w'.workers = w.workers)
    (unplanned : ∀ planned ∈ w'.outside, planned.2 ≠ .shutdown)
    (intake : w'.shared.intake = w.shared.intake) :
    Receives (past ++ [⟨w, motion, w'⟩]) w' session pump := by
  have tally : w'.shared.stats.tally = w.shared.stats.tally := congrArg Intake.tally intake
  refine ⟨driving.trans receives.driving, pumping.trans receives.pumping,
    workers ▸ receives.manned, unplanned, ?_, ?_, ?_, ?_⟩
  · rw [intake, workers]
    exact receives.staffed
  · simp only [tally, arrivals_append, stored_append, arrival, stored, Option.toList_none,
      List.append_nil]
    exact receives.pumped
  · simp only [intake, workers, taken_append, told_append, stored_append, taken, told, stored,
      Option.toList_none, List.append_nil]
    exact receives.handled
  · rw [intake, workers]
    exact receives.faithful

private theorem Receives.drive {session' : Session} {shared : Shared}
    (receives : Receives past w session pump)
    (move : Session.Move w.view w.shared session shared session') :
    Receives (past ++ [⟨w, .part .session, { w with shared, session := some session' }⟩])
      { w with shared, session := some session' } session' pump := by
  have pumpExit : w.view.pumpExit = pump.exit? := by
    simp only [view, pumpExit?, receives.pumping, Option.bind_some]
  have faithful := move.faithful pumpExit rfl receives.staffed receives.manned receives.faithful
  have staffed := receives.staffed
  have pumped := receives.pumped
  have handled := receives.handled
  refine ⟨rfl, receives.pumping, receives.manned, receives.unplanned, ?_, ?_, ?_, faithful⟩
  · rcases move.intake_cases with same | same
    · exact same ▸ staffed
    · exact same ▸ staffed.stopAll
  · have tally : shared.stats.tally = w.shared.stats.tally := by
      rcases move.intake_cases with same | same <;> exact congrArg Intake.tally same
    simp only [arrivals_append, stored_append, arrival?, stored?, Option.toList_none,
      List.append_nil, tally]
    exact pumped
  · simp only [taken_append, told_append, stored_append, taken?, told?, stored?,
      Option.toList_none, List.append_nil]
    rcases move.intake_cases with same | same
    · exact same ▸ handled
    · rw [same]
      exact ⟨handled.order, handled.processed, handled.classified, handled.inHand⟩

private theorem Receives.work {index : Nat} {worker worker' : Worker} {shared : Shared}
    (receives : Receives past w session pump) (running : w.workers[index]? = some worker)
    (move : Worker.Move w.gates w.shared worker shared worker') :
    Receives
      (past ++ [⟨w, .part (.worker index),
        { w with shared, workers := w.workers.set index worker' }⟩])
      { w with shared, workers := w.workers.set index worker' } session pump := by
  have turn := move.turn
  have exchange := turn.exchange
  have manned : w.workers.set index worker' ≠ [] := by
    intro none
    exact receives.manned ((List.set_eq_nil_iff ..).mp none)
  refine ⟨receives.driving, receives.pumping, manned, receives.unplanned,
    receives.staffed.ofWorker running turn, ?_, ?_, receives.faithful.ofWorker running turn⟩
  · simp only [arrivals_append, stored_append, arrival?, stored?, Option.toList_none,
      List.append_nil]
    exact receives.pumped.keep exchange.frames exchange.enqueued exchange.bufferDropped
  · simp only [taken_append, told_append, stored_append, taken?, told?, stored?,
      Option.toList_none, List.append_nil, running, getElem?_set_of_getElem? running,
      Option.bind_some]
    exact receives.handled.step running exchange

private theorem Receives.fill {pump' : Pump} {shared : Shared}
    (receives : Receives past w session pump) (move : Pump.Move w.shared pump shared pump') :
    Receives (past ++ [⟨w, .part .pump, { w with shared, pump := some pump' }⟩])
      { w with shared, pump := some pump' } session pump' := by
  refine ⟨receives.driving, rfl, receives.manned, receives.unplanned,
    receives.staffed.ofPump receives.manned move, ?_, ?_, receives.faithful.ofPump move⟩
  · simp only [arrivals_append, stored_append, arrival?, stored?, receives.pumping,
      Option.bind_some]
    exact receives.pumped.step move
  · simp only [taken_append, told_append, stored_append, taken?, told?, stored?,
      receives.pumping, Option.toList_none, List.append_nil]
    exact receives.handled.ofPump move

theorem Move.receives (move : Move w motion w') (receives : Receives past w session pump) :
    ∃ session pump, Receives (past ++ [⟨w, motion, w'⟩]) w' session pump := by
  cases move with
  | session running moved =>
      cases receives.driving.symm.trans running
      exact ⟨_, _, receives.drive (Session.move_of_step moved)⟩
  | pump running moved =>
      cases receives.pumping.symm.trans running
      exact ⟨_, _, receives.fill (Pump.move_of_step moved)⟩
  | worker running moved =>
      exact ⟨_, _, receives.work running (Worker.move_of_step moved)⟩
  | publisher running moved =>
      exact ⟨_, _, receives.elsewhere rfl rfl rfl rfl rfl rfl rfl receives.unplanned
        (Publisher.move_of_step moved).spared.intake⟩
  | task running moved =>
      exact ⟨_, _, receives.elsewhere rfl rfl rfl rfl rfl rfl rfl receives.unplanned
        (SendTask.move_of_step moved).intake⟩
  | outside planned due =>
      have unplanned := receives.unplanned
      rw [planned, List.forall_mem_cons] at unplanned
      rename_i event later
      have intake : (act w.shared event).intake = w.shared.intake := by
        cases event with
        | shutdown => exact (unplanned.1 rfl).elim
        | cancel | addCredits => rfl
      exact ⟨_, _, receives.elsewhere rfl rfl rfl rfl rfl rfl rfl unplanned.2 intake⟩
  | signal | writer | clock =>
      exact ⟨_, _, receives.elsewhere rfl rfl rfl rfl rfl rfl rfl receives.unplanned rfl⟩

theorem receives_of_history {config : Config} {around : Surroundings} {records : Bool}
    {gates : List Gate} (valid : config.error? = none)
    (unplanned : ∀ planned ∈ around.outside, planned.2 ≠ .shutdown)
    (history : History advance (ofSession config around records gates) past w) :
    ∃ session pump, Receives past w session pump := by
  induction history with
  | start => exact ⟨_, _, receives_start valid unplanned records gates⟩
  | next _ moved induction =>
      obtain ⟨session, pump, receives⟩ := induction
      exact (move_of_advance moved).receives receives

end World

end Courier
