import Courier.Proofs.Publishing.Offers
import Courier.Proofs.World.Publishing

/-! Which attempts a client hands over to the sink, and which messages the sink accepts, one after
the other. They are told by what the sink sees: it notes every call, and whatever it accepts. -/

namespace Courier

theorem Session.Move.sink {s s' : Shared} {view : View} {session session' : Session}
    (move : Session.Move view s session s' session') (mode : view.mode = .publish)
    (quiet : session.Quiet) :
    s'.sink = s.sink := by
  cases move with
  | forgo mode' | subscribe mode' => cases mode.symm.trans mode'
  | withdraw | accept | refuse | unsubscribe | watch | lose | wait | rouse | part | tear | abandon =>
      exact quiet.elim
  | publish | interrupt | linger | halt | settle | depart | drain | stop | drained | joined => rfl

namespace World

def offer? (w : World) : Agent → Option Offer
  | .task place => w.tasks[place]?.bind SendTask.offer?
  | .publisher => w.publisher.bind Publisher.offer?
  | .session | .outside | .signal | .worker _ | .pump | .writer => none

def offered? (made : Transition World Motion) : Option Offer :=
  match made.label with
  | .part agent =>
      if made.before.shared.sink.calls.length < made.after.shared.sink.calls.length then
        made.after.offer? agent
      else none
  | .clock _ => none

def landed? (made : Transition World Motion) : Option Nat :=
  match made.label with
  | .part agent =>
      if made.before.shared.sink.accepted.length < made.after.shared.sink.accepted.length then
        (made.before.offer? agent).map (·.index)
      else none
  | .clock _ => none

def offers (past : List (Transition World Motion)) : List Offer := past.filterMap offered?

def attempts (past : List (Transition World Motion)) : List Nat := (offers past).map (·.index)

def landings (past : List (Transition World Motion)) : List Nat := past.filterMap landed?

variable {config : Config} {around : Surroundings} {past : List (Transition World Motion)}
  {start w w' : World} {motion : Motion} {shared : Shared}

theorem offers_append (past : List (Transition World Motion)) (made : Transition World Motion) :
    offers (past ++ [made]) = offers past ++ (offered? made).toList :=
  filterMap_append_singleton ..

theorem attempts_append (past : List (Transition World Motion)) (made : Transition World Motion) :
    attempts (past ++ [made]) = attempts past ++ (offered? made).toList.map (·.index) := by
  rw [attempts, offers_append, List.map_append]
  rfl

theorem landings_append (past : List (Transition World Motion)) (made : Transition World Motion) :
    landings (past ++ [made]) = landings past ++ (landed? made).toList :=
  filterMap_append_singleton ..

theorem offering_of_isSome {place : Nat} (held : (w.offer? (.task place)).isSome = true) :
    ∃ task, w.tasks[place]? = some task ∧ task.offer?.isSome = true := by
  obtain ⟨offer, held⟩ := Option.isSome_iff_exists.mp held
  obtain ⟨task, present, held⟩ := Option.bind_eq_some_iff.mp held
  exact ⟨task, present, Option.isSome_of_mem held⟩

structure Aside (w w' : World) : Prop where
  publication : w'.publication = w.publication
  publisher : w'.publisher = w.publisher
  tasks : w'.tasks = w.tasks
  sink : w'.shared.sink = w.shared.sink
  outlay : w'.shared.outlay = w.shared.outlay

theorem Move.publishing_cases {count base : Nat} (move : Move w motion w')
    (accounted : w.Accounted count base) :
    Aside w w' ∨ motion = .part .publisher ∨ ∃ place, motion = .part (.task place) := by
  cases move with
  | publisher => exact .inr (.inl rfl)
  | task => exact .inr (.inr ⟨_, rfl⟩)
  | session running moved =>
      obtain ⟨mode, quiet⟩ := accounted.session _ running
      have move := Session.move_of_step moved
      exact .inl ⟨rfl, rfl, rfl, move.sink mode quiet, (move.quiet mode quiet).1⟩
  | worker running moved =>
      have move := Worker.move_of_step moved
      obtain ⟨_, _, _, _, _, _, _, same⟩ := move.reach
      exact .inl ⟨rfl, rfl, rfl, same ▸ rfl, move.outlay⟩
  | pump running moved =>
      have move := Pump.move_of_step moved
      obtain ⟨_, _, _, _, same⟩ := move.reach
      exact .inl ⟨rfl, rfl, rfl, same ▸ rfl, move.outlay⟩
  | outside planned due =>
      rename_i event _
      cases event <;> exact .inl ⟨rfl, rfl, rfl, rfl, rfl⟩
  | signal | writer | clock => exact .inl ⟨rfl, rfl, rfl, rfl, rfl⟩

section Steps

theorem offered?_of_sink (same : w'.shared.sink = w.shared.sink) :
    offered? ⟨w, motion, w'⟩ = none := by
  cases motion with
  | part agent => simp [offered?, same]
  | clock now => rfl

theorem landed?_of_sink (same : w'.shared.sink = w.shared.sink) :
    landed? ⟨w, motion, w'⟩ = none := by
  cases motion with
  | part agent => simp [landed?, same]
  | clock now => rfl

variable {agent : Agent} {landed : Bool}

theorem offered?_of_exchange
    (exchange : Sink.Exchange w.shared.sink w'.shared.sink (w.offer? agent).isSome
      (w'.offer? agent).isSome landed) :
    offered? ⟨w, .part agent, w'⟩ =
      if (w.offer? agent).isSome then none else w'.offer? agent := by
  have calls := exchange.calls
  simp only [offered?, calls]
  cases (w.offer? agent).isSome with
  | true => simp
  | false => cases w'.offer? agent <;> simp

theorem landed?_of_exchange
    (exchange : Sink.Exchange w.shared.sink w'.shared.sink (w.offer? agent).isSome
      (w'.offer? agent).isSome landed) :
    landed? ⟨w, .part agent, w'⟩ = if landed then (w.offer? agent).map (·.index) else none := by
  have accepted := exchange.accepted
  simp only [landed?, accepted]
  cases landed <;> simp

private theorem length_offered
    (exchange : Sink.Exchange w.shared.sink w'.shared.sink (w.offer? agent).isSome
      (w'.offer? agent).isSome landed) :
    (offered? ⟨w, .part agent, w'⟩).toList.length =
      (!(w.offer? agent).isSome && (w'.offer? agent).isSome).toNat := by
  rw [offered?_of_exchange exchange]
  cases w.offer? agent <;> cases w'.offer? agent <;> rfl

private theorem length_landed
    (exchange : Sink.Exchange w.shared.sink w'.shared.sink (w.offer? agent).isSome
      (w'.offer? agent).isSome landed) :
    (landed? ⟨w, .part agent, w'⟩).toList.length = landed.toNat := by
  have present := exchange.present
  rw [landed?_of_exchange exchange]
  cases landed with
  | false => rfl
  | true =>
      obtain ⟨offer, held⟩ := Option.isSome_iff_exists.mp (present rfl)
      rw [held]
      rfl

variable {publisher publisher' : Publisher} {started : Option SendTask} {place : Nat}
  {task task' : SendTask}

theorem exchange_publisher (running : w.publisher = some publisher)
    (moved : publisher.step w.publication w.shared w.tasks = some (shared, publisher', started)) :
    Sink.Exchange w.shared.sink shared.sink (w.offer? .publisher).isSome publisher'.offer?.isSome
      (publisher.lands publisher') := by
  rw [offer?, running, Option.bind_some]
  exact (Publisher.move_of_step moved).exchange

theorem offered?_publisher (running : w.publisher = some publisher)
    (moved : publisher.step w.publication w.shared w.tasks = some (shared, publisher', started)) :
    offered? ⟨w, .part .publisher,
        { w with
          shared, publisher := some publisher', tasks := w.tasks ++ started.toList }⟩ =
      if publisher.offer?.isSome then none else publisher'.offer? := by
  rw [offered?_of_exchange (exchange_publisher running moved)]
  simp only [offer?, running, Option.bind_some]

theorem landed?_publisher (running : w.publisher = some publisher)
    (moved : publisher.step w.publication w.shared w.tasks = some (shared, publisher', started)) :
    landed? ⟨w, .part .publisher,
        { w with
          shared, publisher := some publisher', tasks := w.tasks ++ started.toList }⟩ =
      if publisher.lands publisher' then publisher.offer?.map (·.index) else none := by
  rw [landed?_of_exchange (exchange_publisher running moved)]
  simp only [offer?, running, Option.bind_some]

theorem exchange_task (running : w.tasks[place]? = some task)
    (moved : task.step w.shared = some (shared, task')) :
    Sink.Exchange w.shared.sink shared.sink (w.offer? (.task place)).isSome
      ({ w with shared, tasks := w.tasks.set place task' }.offer? (.task place)).isSome
      (task.lands task') := by
  have present : (w.tasks.set place task')[place]? = some task' :=
    getElem?_set_of_getElem? running
  simp only [offer?, running, present, Option.bind_some]
  exact (SendTask.move_of_step moved).exchange

theorem offered?_task (running : w.tasks[place]? = some task)
    (moved : task.step w.shared = some (shared, task')) :
    offered? ⟨w, .part (.task place), { w with shared, tasks := w.tasks.set place task' }⟩ =
      if task.offer?.isSome then none else task'.offer? := by
  have present : (w.tasks.set place task')[place]? = some task' :=
    getElem?_set_of_getElem? running
  rw [offered?_of_exchange (exchange_task running moved)]
  simp only [offer?, running, present, Option.bind_some]

theorem landed?_task (running : w.tasks[place]? = some task)
    (moved : task.step w.shared = some (shared, task')) :
    landed? ⟨w, .part (.task place), { w with shared, tasks := w.tasks.set place task' }⟩ =
      if task.lands task' then some task.index else none := by
  have present := (SendTask.move_of_step moved).exchange.present
  rw [landed?_of_exchange (exchange_task running moved)]
  simp only [offer?, running, Option.bind_some]
  cases lands : task.lands task' with
  | false => rfl
  | true =>
      obtain ⟨offer, held⟩ := Option.isSome_iff_exists.mp (present lands)
      simp [held, SendTask.index_of_offer? held]

end Steps

/-- What the sink has seen since it was `base` agrees with the steps, and it still has what the
parts have with it. -/
structure Engaged (base : Sink) (past : List (Transition World Motion)) (w : World) : Prop where
  calls : w.shared.sink.calls.length = base.calls.length + (attempts past).length
  accepted : w.shared.sink.accepted.length = base.accepted.length + (landings past).length
  inside : w.shared.sink.inside =
    base.inside + (w.offer? .publisher).isSome.toNat + w.tasks.countP (·.offer?.isSome)

private theorem Engaged.elsewhere {base : Sink} (engaged : Engaged base past w)
    (aside : Aside w w') : Engaged base (past ++ [⟨w, motion, w'⟩]) w' where
  calls := by
    rw [attempts_append, offered?_of_sink aside.sink, aside.sink]
    simpa using engaged.calls
  accepted := by
    rw [landings_append, landed?_of_sink aside.sink, aside.sink]
    simpa using engaged.accepted
  inside := by
    rw [aside.sink, aside.tasks, offer?, aside.publisher]
    exact engaged.inside

private theorem Engaged.exchange {base : Sink} {agent : Agent} {landed : Bool}
    (engaged : Engaged base past w)
    (exchange : Sink.Exchange w.shared.sink w'.shared.sink (w.offer? agent).isSome
      (w'.offer? agent).isSome landed)
    (inside : w'.shared.sink.inside =
      base.inside + (w'.offer? .publisher).isSome.toNat + w'.tasks.countP (·.offer?.isSome)) :
    Engaged base (past ++ [⟨w, .part agent, w'⟩]) w' where
  calls := by
    rw [exchange.calls, engaged.calls, attempts_append, List.length_append, List.length_map,
      length_offered exchange, Nat.add_assoc]
  accepted := by
    rw [exchange.accepted, engaged.accepted, landings_append, List.length_append,
      length_landed exchange, Nat.add_assoc]
  inside := inside

theorem Move.engaged {base : Sink} {count : Nat} (move : Move w motion w')
    (accounted : w.Accounted count base.published) (engaged : Engaged base past w) :
    Engaged base (past ++ [⟨w, motion, w'⟩]) w' := by
  have before := engaged.inside
  rcases move.publishing_cases accounted with aside | rfl | ⟨place, rfl⟩
  · exact engaged.elsewhere aside
  · cases move with
    | publisher running moved =>
        rename_i publisher publisher' shared started
        have exchange := exchange_publisher running moved
        have fresh : started.toList.countP (·.offer?.isSome) = 0 := by
          rcases (Publisher.move_of_step moved).started_cases with rfl | ⟨_, _, _, _, _, rfl⟩ <;> rfl
        have inside := exchange.inside (by omega)
        refine engaged.exchange exchange ?_
        simp only [offer?, Option.bind_some, List.countP_append] at before inside ⊢
        omega
  · cases move with
    | task running moved =>
        rename_i task task' shared
        have present : (w.tasks.set place task')[place]? = some task' :=
          getElem?_set_of_getElem? running
        have exchange := exchange_task running moved
        have counted := countP_set_add (fun task : SendTask => task.offer?.isSome) running task'
        have covered : task.offer?.isSome.toNat ≤ w.tasks.countP (·.offer?.isSome) := by
          cases held : task.offer?.isSome with
          | false => exact Nat.zero_le _
          | true => exact List.countP_pos_iff.mpr ⟨task, List.mem_of_getElem? running, held⟩
        have inside := exchange.inside
        simp only [offer?, running, present, Option.bind_some] at inside before
        have inside := inside (by omega)
        refine engaged.exchange exchange ?_
        simp only [offer?]
        omega

theorem engaged_of_history (publishes : start.Publishes config around)
    (history : History advance start past w) :
    Engaged around.sink past w := by
  induction history with
  | start =>
      obtain ⟨shared, tasks, publisher⟩ := publishes.parts
      have none : (start.offer? .publisher).isSome = false := by
        rw [offer?, publisher, Option.bind_some, Publisher.start]
        split <;> rfl
      refine ⟨?_, ?_, ?_⟩
      · rw [shared]
        rfl
      · rw [shared]
        rfl
      · rw [none, shared, tasks]
        rfl
  | next history moved induction =>
      exact (move_of_advance moved).engaged (accounted_of_history publishes history) induction

end World

end Courier
