import Courier.Proofs.World.Orders
import Courier.Proofs.World.Receiving
import Courier.Proofs.World.Reception

/-! The messages that the workers number, and what they bring to the gates. The numbers are given in
the order in which the workers tell what the frames are, and every delivery passes the gates once. -/

namespace Courier

/-- What frames bring to the gates, with the workers that tell it. The messages are numbered in this
order, from a number on. -/
def numbered : Nat → List (Nat × Wire.Response) → List (Nat × Delivery)
  | _, [] => []
  | seq, (worker, frame) :: later =>
      ((frame.delivery? seq).map (worker, ·)).toList ++
        numbered (seq + frame.envelope?.isSome.toNat) later

def messages (frames : List (Nat × Wire.Response)) : Nat := frames.countP (·.2.envelope?.isSome)

@[simp] theorem messages_append (frames later : List (Nat × Wire.Response)) :
    messages (frames ++ later) = messages frames + messages later :=
  List.countP_append ..

theorem messages_cons (worker : Nat) (frame : Wire.Response) (later : List (Nat × Wire.Response)) :
    messages ((worker, frame) :: later) = frame.envelope?.isSome.toNat + messages later := by
  cases told : frame.envelope?.isSome <;> simp [messages, told, Nat.add_comm]

theorem numbered_append (seq : Nat) (frames later : List (Nat × Wire.Response)) :
    numbered seq (frames ++ later) =
      numbered seq frames ++ numbered (seq + messages frames) later := by
  induction frames generalizing seq with
  | nil => rfl
  | cons event frames induction =>
      obtain ⟨worker, frame⟩ := event
      simp only [List.cons_append, numbered, induction, messages_cons, List.append_assoc,
        Nat.add_assoc]

theorem seqs_numbered (seq : Nat) (frames : List (Nat × Wire.Response)) :
    (numbered seq frames).filterMap (·.2.seq?) = List.range' seq (messages frames) := by
  induction frames generalizing seq with
  | nil => rfl
  | cons event frames induction =>
      obtain ⟨worker, frame⟩ := event
      have first := frame.seq?_delivery? seq
      rw [numbered, List.filterMap_append, induction, messages_cons]
      cases brings : frame.delivery? seq with
      | none =>
          cases envelope : frame.envelope? with
          | none => simp
          | some => simp [brings, envelope] at first
      | some delivery =>
          cases envelope : frame.envelope? with
          | none =>
              simp only [brings, envelope, Option.bind_some, Option.map_none] at first
              simp [first]
          | some =>
              simp only [brings, envelope, Option.bind_some, Option.map_some] at first
              simp [first, List.range'_succ, Nat.add_comm 1]

theorem messages_single (worker : Nat) (frame? : Option Wire.Response) :
    messages (frame?.map (worker, ·)).toList = (frame?.bind (·.envelope?)).isSome.toNat := by
  cases frame? with
  | none => rfl
  | some frame => exact (messages_cons ..).trans (Nat.add_zero _)

theorem numbered_single (seq worker : Nat) (frame? : Option Wire.Response) :
    numbered seq (frame?.map (worker, ·)).toList =
      ((frame?.bind (·.delivery? seq)).map (worker, ·)).toList := by
  cases frame? with
  | none => rfl
  | some frame => exact List.append_nil _

section Single

variable {α : Type} (worker : Nat) (event? : Option α)

theorem filter_single_self :
    (event?.map (worker, ·)).toList.filter (·.1 = worker) = (event?.map (worker, ·)).toList := by
  cases event? <;> simp

theorem filter_single_other {other : Nat} (differs : worker ≠ other) :
    (event?.map (worker, ·)).toList.filter (·.1 = other) = [] := by
  cases event? <;> simp [differs]

end Single

theorem perm_of_filter {α : Type} [DecidableEq α] {events events' : List (Nat × α)}
    (same : ∀ index, events.filter (·.1 = index) = events'.filter (·.1 = index)) :
    events.Perm events' := by
  rw [List.perm_iff_count]
  intro event
  have counts := congrArg (List.count event) (same event.1)
  rwa [List.count_filter (by simp), List.count_filter (by simp)] at counts

namespace World

def brought? (made : Transition World Motion) : Option (Nat × Delivery) :=
  match made.label with
  | .part (.worker index) =>
      match made.before.workers[index]?, made.after.workers[index]? with
      | some worker, some worker' => (worker.brings? worker').map (index, ·)
      | _, _ => none
  | _ => none

def gateEvents (index : Nat) (made : Transition World Motion) : List GateEvent :=
  match made.label with
  | .part (.worker place) =>
      match made.before.workers[place]?, made.after.workers[place]? with
      | some worker, some worker' =>
          if place = index then worker.gateEvents made.before.shared made.after.shared worker'
          else []
      | _, _ => []
  | _ => []

def brought (past : List (Transition World Motion)) : List (Nat × Delivery) :=
  past.filterMap brought?

def atGates (index : Nat) (past : List (Transition World Motion)) : List GateEvent :=
  past.flatMap (gateEvents index)

def leaves (made : Transition World Motion) : List Deed :=
  made.before.shared.since made.after.shared

/-- Clients with workers, and the frames that are in the buffer at their start: workers alone, or
the workers of a session. -/
inductive Staffs (config : Config) (around : Surroundings) (gates : List Gate) :
    List Wire.Response → World → Prop where
  | pool (frames : List Wire.Response) (fed shutdown : Bool) :
      Staffs config around gates frames (ofWorkers config around gates frames fed shutdown)
  | session (records : Bool) : Staffs config around gates [] (ofSession config around records gates)

/-- What every history of a client with workers keeps. -/
structure Delivers (config : Config) (gates : List Gate) (frames : List Wire.Response)
    (start : World) (past : List (Transition World Motion)) (w : World) : Prop where
  chain : w.gates = gates
  settings : w.shared.flow = config.flowControl
  recording : w.shared.ledger.isSome = start.shared.ledger.isSome
  crew : w.workers.length = config.consumer.workers
  handled : Handled (taken past) (told past) (frames ++ stored past) w.shared.intake w.workers
  places : ∀ index, w.workers.length ≤ index →
    (taken past).filter (·.1 = index) = [] ∧ (brought past).filter (·.1 = index) = []
  received : w.shared.stats.received = messages (told past)
  brings : ∀ index, (numbered 1 (told past)).filter (·.1 = index) =
    (brought past).filter (·.1 = index) ++
      ((w.workers[index]?.bind Worker.pending?).map (index, ·)).toList
  passes : ∀ index, atGates index past ++
      w.workers[index]?.toList.flatMap (·.ahead start.shared.ledger.isSome) =
    ((brought past).filter (·.1 = index)).flatMap fun event =>
      passage start.shared.ledger.isSome gates event.2
  left : ∀ place, w.shared.deeds place =
    start.shared.deeds place ++ Deed.leftAt place (past.flatMap leaves)
  progress : Log.progress w.shared.log =
    (brought past).countP fun event => event.2.seq?.any (· % Worker.progressEvery = 0)

section Observing

variable (past : List (Transition World Motion)) (made : Transition World Motion)

theorem brought_append : brought (past ++ [made]) = brought past ++ (brought? made).toList :=
  filterMap_append_singleton ..

theorem atGates_append (index : Nat) :
    atGates index (past ++ [made]) = atGates index past ++ gateEvents index made := by
  simp [atGates]

end Observing

variable {config : Config} {around : Surroundings} {gates : List Gate}
  {frames : List Wire.Response} {past : List (Transition World Motion)} {start w w' : World}
  {motion : Motion}

theorem Staffs.begun (staffs : Staffs config around gates frames start) :
    start.gates = gates ∧ start.shared.flow = config.flowControl ∧
      start.workers = (List.range config.consumer.workers).map .start ∧
      start.shared.buffer.queue = frames ∧ start.shared.stats = {} ∧ start.shared.log = [] := by
  cases staffs with
  | pool => exact ⟨rfl, rfl, rfl, rfl, rfl, rfl⟩
  | session =>
      rw [ofSession_eq]
      exact ⟨rfl, rfl, rfl, rfl, rfl, rfl⟩

theorem delivers_start (staffs : Staffs config around gates frames start) :
    Delivers config gates frames start [] start := by
  obtain ⟨chain, settings, workers, queue, stats, log⟩ := staffs.begun
  have idle : ∀ worker ∈ start.workers, worker.stage = .idle := by
    rw [workers]
    intro worker member
    obtain ⟨id, _, rfl⟩ := List.mem_map.mp member
    rfl
  have handled :
      Handled [] [] start.shared.intake.buffer.queue start.shared.intake start.workers := by
    refine Handled.begin ?_ fun worker member => ?_
    · rw [Shared.intake, stats]
      rfl
    · simp [Worker.fetched?, Worker.counted?, idle worker member]
  refine ⟨chain, settings, rfl, ?_, ?_, fun _ _ => ⟨rfl, rfl⟩, ?_, ?_, ?_, ?_, ?_⟩
  · rw [workers, List.length_map, List.length_range]
  · rwa [← queue, show stored [] = [] from rfl, List.append_nil]
  · rw [stats]
    rfl
  · intro index
    cases present : start.workers[index]? with
    | none => rfl
    | some worker =>
        simp [Worker.pending?, idle worker (List.mem_of_getElem? present), told, numbered, brought]
  · intro index
    cases present : start.workers[index]? with
    | none => rfl
    | some worker =>
        simp [Worker.ahead, idle worker (List.mem_of_getElem? present), brought, atGates]
  · exact fun place => (List.append_nil _).symm
  · rw [log]
    rfl

theorem idle_of_apart (w w' : World) (apart : ∀ index, motion ≠ .part (.worker index)) :
    taken? ⟨w, motion, w'⟩ = none ∧ told? ⟨w, motion, w'⟩ = none ∧
      brought? ⟨w, motion, w'⟩ = none ∧ ∀ index, gateEvents index ⟨w, motion, w'⟩ = [] := by
  cases motion with
  | clock => exact ⟨rfl, rfl, rfl, fun _ => rfl⟩
  | part agent =>
      cases agent with
      | worker index => exact (apart index rfl).elim
      | session | publisher | outside | signal | task | pump | writer =>
          exact ⟨rfl, rfl, rfl, fun _ => rfl⟩

private theorem left_append
    (left : ∀ place, w.shared.deeds place =
      start.shared.deeds place ++ Deed.leftAt place (past.flatMap leaves))
    (leaves : Leaves w.shared w'.shared (w.shared.since w'.shared)) (place : Deed.Place) :
    w'.shared.deeds place = start.shared.deeds place ++
      Deed.leftAt place ((past ++ [(⟨w, motion, w'⟩ : Transition World Motion)]).flatMap
        World.leaves) := by
  rw [leaves place, left place]
  simp [World.leaves]

private theorem Delivers.elsewhere (delivers : Delivers config gates frames start past w)
    (apart : ∀ index, motion ≠ .part (.worker index)) (chain : w'.gates = w.gates)
    (settings : w'.shared.flow = w.shared.flow) (workers : w'.workers = w.workers)
    (unheard : (∀ index, motion ≠ .part (.worker index)) → Unheard w.shared w'.shared)
    (handled : Handled (taken past) (told past) (frames ++ stored (past ++ [⟨w, motion, w'⟩]))
      w'.shared.intake w.workers) :
    Delivers config gates frames start (past ++ [⟨w, motion, w'⟩]) w' := by
  have unheard := unheard apart
  obtain ⟨untaken, untold, unbrought, quiet⟩ := idle_of_apart w w' apart
  have taken' : taken (past ++ [⟨w, motion, w'⟩]) = taken past := by
    rw [taken_append, untaken, Option.toList_none, List.append_nil]
  have told' : told (past ++ [⟨w, motion, w'⟩]) = told past := by
    rw [told_append, untold, Option.toList_none, List.append_nil]
  have brought' : brought (past ++ [⟨w, motion, w'⟩]) = brought past := by
    rw [brought_append, unbrought, Option.toList_none, List.append_nil]
  refine ⟨chain.trans delivers.chain, settings.trans delivers.settings,
    unheard.recording.trans delivers.recording, ?_, ?_, ?_, ?_, ?_, ?_, ?_, ?_⟩
  · rw [workers]
    exact delivers.crew
  · rwa [taken', told', workers]
  · rw [taken', brought', workers]
    exact delivers.places
  · rw [told', unheard.received]
    exact delivers.received
  · rw [told', brought', workers]
    exact delivers.brings
  · intro index
    rw [atGates_append, quiet, List.append_nil, brought', workers]
    exact delivers.passes index
  · obtain ⟨_, leaves⟩ := unheard.leaves
    exact left_append delivers.left leaves.ofSince
  · rw [brought', unheard.progress]
    exact delivers.progress

private theorem Delivers.work {index : Nat} {worker worker' : Worker} {shared : Shared}
    (delivers : Delivers config gates frames start past w) (running : w.workers[index]? = some worker)
    (move : Worker.Move w.gates w.shared worker shared worker') :
    Delivers config gates frames start
      (past ++ [⟨w, .part (.worker index),
        { w with shared, workers := w.workers.set index worker' }⟩])
      { w with shared, workers := w.workers.set index worker' } := by
  obtain ⟨rfl, settings, recording, crew, handled, places, received, brings, passes, left,
    progress⟩ := delivers
  have present : (w.workers.set index worker')[index]? = some worker' :=
    getElem?_set_of_getElem? running
  have within : index < w.workers.length := (List.getElem?_eq_some_iff.mp running).1
  have kept : shared.flow = w.shared.flow := by
    obtain ⟨_, _, _, _, _, _, _, rfl⟩ := move.reach
    rfl
  refine ⟨rfl, kept.trans settings, move.recording.trans recording, ?_, ?_, ?_, ?_, ?_, ?_, ?_, ?_⟩
  · rw [List.length_set]
    exact crew
  · simp only [taken_append, told_append, stored_append, taken?, told?, stored?,
      Option.toList_none, List.append_nil, running, present, Option.bind_some]
    exact handled.step running move.turn.exchange
  · intro other outside
    rw [List.length_set] at outside
    have differs : index ≠ other := by omega
    simp only [taken_append, brought_append, taken?, brought?, running, present, Option.bind_some,
      List.filter_append, filter_single_other _ _ differs, List.append_nil]
    exact places other outside
  · simp only [told_append, told?, running, Option.bind_some, messages_append, messages_single]
    rw [← received]
    exact move.received
  · intro other
    simp only [told_append, told?, brought_append, brought?, running, present, Option.bind_some,
      numbered_append, numbered_single, List.filter_append, brings]
    by_cases same : index = other
    · subst same
      have brings := congrArg (List.map (index, ·)) move.brings
      simp only [List.map_append, ← Option.toList_map, received] at brings
      simp only [running, present, Option.bind_some, filter_single_self, List.append_assoc,
        Nat.add_comm 1]
      rw [brings]
    · simp only [filter_single_other _ _ same, List.getElem?_set_ne same, List.append_nil]
  · intro other
    simp only [atGates_append, gateEvents, brought_append, brought?, running, present,
      List.filter_append, List.flatMap_append, ← passes]
    by_cases same : index = other
    · subst same
      have events := move.gateEvents
      rw [recording] at events
      simp only [running, present, if_true, Option.toList_some, List.flatMap_singleton,
        filter_single_self, List.append_assoc]
      rw [← events]
      cases worker.brings? worker' <;> simp
    · simp only [same, if_false, filter_single_other _ _ same, List.getElem?_set_ne same,
        List.append_nil, List.flatMap_nil]
  · exact left_append left move.leaves.ofSince
  · simp only [brought_append, brought?, running, present, List.countP_append, ← progress]
    rw [move.progress]
    cases worker.brings? worker' with
    | none => rfl
    | some delivery =>
        cases round : delivery.seq?.any (· % Worker.progressEvery = 0) <;> simp [round]

theorem Move.unheard (move : Move w motion w') (apart : ∀ index, motion ≠ .part (.worker index)) :
    Unheard w.shared w'.shared := by
  cases move with
  | worker => exact absurd rfl (apart _)
  | session running moved => exact (Session.move_of_step moved).unheard
  | publisher running moved => exact (Publisher.move_of_step moved).unheard
  | task running moved => exact (SendTask.move_of_step moved).unheard
  | pump running moved => exact (Pump.move_of_step moved).unheard
  | @outside _ event _ planned due => cases event <;> exact .same rfl rfl
  | signal => exact .prints rfl rfl rfl rfl rfl rfl
  | writer present written => exact .write present written
  | clock => exact .same rfl rfl

theorem Move.delivers (move : Move w motion w')
    (delivers : Delivers config gates frames start past w) :
    Delivers config gates frames start (past ++ [⟨w, motion, w'⟩]) w' := by
  have handled := delivers.handled
  have settings := move.flow
  have unheard := move.unheard
  -- What but the pump moves puts nothing into the buffer.
  have unmoved (stored' : stored? ⟨w, motion, w'⟩ = none)
      (queue : w'.shared.intake.buffer.queue = w.shared.intake.buffer.queue)
      (tally : w'.shared.intake.tally = w.shared.intake.tally) :
      Handled (taken past) (told past) (frames ++ stored (past ++ [⟨w, motion, w'⟩]))
        w'.shared.intake w.workers := by
    rw [stored_append, stored', Option.toList_none, List.append_nil]
    exact handled.keep queue tally
  cases move with
  | worker running moved => exact delivers.work running (Worker.move_of_step moved)
  | session running moved =>
      refine delivers.elsewhere (by rintro _ ⟨⟩) rfl settings rfl unheard (unmoved rfl ?_ ?_)
      all_goals
        rcases (Session.move_of_step moved).intake_cases with same | same
        all_goals
          dsimp only
          rw [same]
  | publisher running moved =>
      have spared := (Publisher.move_of_step moved).spared
      exact delivers.elsewhere (by rintro _ ⟨⟩) rfl settings rfl unheard
        (unmoved rfl (congrArg (·.buffer.queue) spared.intake)
          (congrArg Intake.tally spared.intake))
  | task running moved =>
      have intake := (SendTask.move_of_step moved).intake
      exact delivers.elsewhere (by rintro _ ⟨⟩) rfl settings rfl unheard
        (unmoved rfl (congrArg (·.buffer.queue) intake) (congrArg Intake.tally intake))
  | pump running moved =>
      refine delivers.elsewhere (by rintro _ ⟨⟩) rfl settings rfl unheard ?_
      simp only [stored_append, stored?, running]
      rw [← List.append_assoc]
      exact handled.ofPump (Pump.move_of_step moved)
  | outside planned due =>
      rename_i event _
      cases event with
      | cancel | shutdown | addCredits =>
          exact delivers.elsewhere (by rintro _ ⟨⟩) rfl settings rfl unheard (unmoved rfl rfl rfl)
  | signal | writer | clock =>
      exact delivers.elsewhere (by rintro _ ⟨⟩) rfl settings rfl unheard (unmoved rfl rfl rfl)

theorem delivers_of_history (staffs : Staffs config around gates frames start)
    (history : History advance start past w) : Delivers config gates frames start past w := by
  induction history with
  | start => exact delivers_start staffs
  | next _ moved induction => exact (move_of_advance moved).delivers induction

end World

end Courier
