import Courier.Client
import Courier.Proofs.Ledger.Deliveries
import Courier.Proofs.Ledger.Dues
import Courier.Proofs.World.Aftermath
import Courier.Proofs.World.Receiving

/-! What the ledger of a session holds. At every moment what is due is in it or is owed by a part,
and when the session has ended there is no part left that owes anything. -/

namespace Courier

namespace Session

/-- What a session has with the sink is no message. -/
def Bears : Session → Prop
  | .subscribing transit | .unsubscribing transit _ => transit.command.payload? = none
  | _ => True

theorem Move.deposit {view : View} {s s' : Shared} {session session' : Session}
    (move : Move view s session s' session') (bears : session.Bears) :
    s'.deposit = s.deposit ∧ session'.Bears := by
  have quiet (command : Command) (silent : command.payload? = none) :
      (s.settle command .accepted).deposit = s.deposit := by
    rw [Shared.deposit_accepted, silent, Option.toList_none, List.append_nil]
  cases move with
  | subscribe | unsubscribe => exact ⟨rfl, rfl⟩
  | accept | part => exact ⟨quiet _ bears, trivial⟩
  | joined | drained =>
      refine ⟨rfl, ?_⟩
      unfold finish
      split <;> trivial
  | publish | forgo | withdraw | refuse | watch | lose | wait | rouse | tear | abandon | interrupt
  | linger | halt | settle | depart | drain | stop => exact ⟨rfl, trivial⟩

end Session

namespace Pump

theorem Move.deposit {s s' : Shared} {pump pump' : Pump} (move : Move s pump s' pump') :
    s'.deposit = s.deposit := by
  cases move <;> rfl

end Pump

namespace World

def decoded? (made : Transition World Motion) : Option Envelope :=
  (told? made).bind (·.2.envelope?)

def decoded (past : List (Transition World Motion)) : List Envelope := past.filterMap decoded?

def found? (made : Transition World Motion) : Option Delivery :=
  (told? made).bind (·.2.delivery? (made.before.shared.stats.received + 1))

def found (past : List (Transition World Motion)) : List Delivery := past.filterMap found?

theorem found_append (past : List (Transition World Motion)) (made : Transition World Motion) :
    found (past ++ [made]) = found past ++ (found? made).toList :=
  filterMap_append_singleton ..

theorem envelopes_found (past : List (Transition World Motion)) :
    (found past).filterMap Delivery.envelope? = decoded past := by
  rw [found, decoded, List.filterMap_filterMap]
  congr 1
  funext made
  rw [found?, decoded?, Option.bind_assoc]
  simp only [Wire.Response.envelope?_delivery?]

theorem found?_worker {w : World} {index : Nat} {worker : Worker}
    (running : w.workers[index]? = some worker) (after : World) :
    found? ⟨w, .part (.worker index), after⟩ = worker.finds? w.shared := by
  simp only [found?, told?, running, Option.bind_some, Worker.finds?, Option.bind_map]
  rfl

def owed (w : World) : List String :=
  w.publisher.toList.flatMap (·.owed w.publication) ++
    (w.tasks.flatMap (·.owed w.publication) ++ w.workers.flatMap (·.owed w.gates))

structure Bears (w : World) : Prop where
  session : ∀ session, w.session = some session → session.Bears
  publisher : ∀ publisher, w.publisher = some publisher → publisher.Bears
  tasks : ∀ task ∈ w.tasks, task.Bears w.publication

variable {config : Config} {around : Surroundings} {records : Bool} {gates : List Gate}
  {past : List (Transition World Motion)} {w w' : World} {motion : Motion}

theorem Move.bears (move : Move w motion w') (bears : w.Bears) : w'.Bears := by
  obtain ⟨sessions, publishers, sends⟩ := bears
  cases move with
  | session running moved =>
      refine ⟨?_, publishers, sends⟩
      rintro session' ⟨⟩
      exact ((Session.move_of_step moved).deposit (sessions _ running)).2
  | publisher running moved =>
      have move := Publisher.move_of_step moved
      refine ⟨sessions, ?_, ?_⟩
      · rintro publisher' ⟨⟩
        exact move.bears
      · intro task member
        rcases List.mem_append.mp member with before | fresh
        · exact sends task before
        · exact (move.launched task (Option.mem_toList.mp fresh)).1
  | task running moved =>
      refine ⟨sessions, publishers, ?_⟩
      intro other member
      rcases List.mem_or_eq_of_mem_set member with before | rfl
      · exact sends other before
      · exact (SendTask.move_of_step moved).bears (sends _ (List.mem_of_getElem? running))
  | worker | pump | outside | signal | writer | clock => exact ⟨sessions, publishers, sends⟩

/-- The part that moves owed some lines and owes others now, and all others owe what they owed. -/
theorem Move.deposit (move : Move w motion w') (bears : w.Bears)
    (kept : w.shared.deposit.header.isSome = true) :
    ∃ owed owed' landed,
      Deposit.Step w.publication w.gates w.shared.deposit w'.shared.deposit owed owed' landed
        (found? ⟨w, motion, w'⟩).toList ∧
      ∀ line, (w'.owed ++ owed).count line = (w.owed ++ owed').count line := by
  cases move with
  | session running moved =>
      have move := Session.move_of_step moved
      exact ⟨[], [], [], .same (move.deposit (bears.session _ running)).1 rfl, fun _ => rfl⟩
  | publisher running moved =>
      rename_i publisher publisher' shared started
      have move := Publisher.move_of_step moved
      obtain ⟨landed, step⟩ := move.deposit (bears.publisher _ running) kept
      refine ⟨_, _, landed, step, ?_⟩
      have fresh : started.toList.flatMap (·.owed w.publication) = [] := by
        rw [List.flatMap_eq_nil_iff]
        intro task member
        exact (move.launched task (Option.mem_toList.mp member)).2
      intro line
      simp only [owed, running, Option.toList_some, List.flatMap_singleton, List.flatMap_append,
        fresh, List.append_nil, List.count_append]
      omega
  | task running moved =>
      rename_i task task' shared
      have member := List.mem_of_getElem? running
      obtain ⟨landed, step⟩ :=
        (SendTask.move_of_step moved).deposit (bears.tasks _ member) kept
      refine ⟨_, _, landed, step, ?_⟩
      intro line
      have others := count_flatMap_set_add (·.owed w.publication) running task' line
      simp only [owed, List.count_append]
      omega
  | worker running moved =>
      rename_i worker worker' shared
      have step := (Worker.move_of_step moved).deposit (p := w.publication) kept
      refine ⟨worker.owed w.gates, worker'.owed w.gates, [], ?_, ?_⟩
      · rw [found?_worker running]
        exact step
      · intro line
        have others := count_flatMap_set_add (·.owed w.gates) running worker' line
        simp only [owed, List.count_append]
        omega
  | pump running moved =>
      exact ⟨[], [], [], .same (Pump.move_of_step moved).deposit rfl, fun _ => rfl⟩
  | outside planned due =>
      rename_i event _
      refine ⟨[], [], [], .same ?_ rfl, fun _ => rfl⟩
      cases event <;> rfl
  | writer present written =>
      exact ⟨[], [], [], .same (Shared.deposit_write present written) rfl, fun _ => rfl⟩
  | signal | clock => exact ⟨[], [], [], .same rfl rfl, fun _ => rfl⟩

/-- Whatever is due by now is in the ledger or owed. The sink had accepted `base` before. -/
structure Recorded (header : String) (base : List (List UInt8))
    (past : List (Transition World Motion)) (w : World) : Prop where
  bears : w.Bears
  header : w.shared.deposit.header = some header
  balanced : ∃ landed,
    Balanced w.publication w.gates base w.shared.deposit w.owed landed (found past)

variable {header : String}

theorem owed_ofSession (config : Config) (around : Surroundings) (records : Bool)
    (gates : List Gate) :
    (ofSession config around records gates).owed = [] := by
  rw [ofSession_eq]
  simp only [owed, List.append_eq_nil_iff, List.flatMap_eq_nil_iff]
  refine ⟨?_, List.forall_mem_nil _, ?_⟩
  · intro publisher running
    cases mode : config.mode with
    | subscribe => simp [mode] at running
    | publish =>
        simp only [mode, Option.toList_some, List.mem_singleton] at running
        exact running ▸ Publisher.owed_start _ _
  · intro worker member
    obtain ⟨id, _, rfl⟩ := List.mem_map.mp member
    rfl

theorem recorded_start (kept : around.ledger = some (.create header)) :
    Recorded header around.sink.payloads [] (ofSession config around records gates) := by
  have deposit : (Shared.start config around).deposit =
      ⟨some header, [], around.sink.payloads, 0⟩ := by
    simp [Shared.deposit, Shared.start, kept, Ledger.create, Ledger.entries]
  have owes := owed_ofSession config around records gates
  rw [ofSession_eq] at owes ⊢
  refine ⟨⟨?_, ?_, List.forall_mem_nil _⟩, congrArg Deposit.header deposit, [], ?_⟩
  · rintro session ⟨⟩
    trivial
  · intro publisher running
    cases mode : config.mode with
    | subscribe => simp [mode] at running
    | publish =>
        simp only [mode, Option.some.injEq] at running
        exact running ▸ Publisher.bears_start _ _
  · rw [owes, deposit]
    exact ⟨(List.append_nil _).symm, rfl, fun _ => rfl⟩

theorem Move.fixed (move : Move w motion w') :
    w'.publication = w.publication ∧ w'.gates = w.gates := by
  cases move <;> exact ⟨rfl, rfl⟩

theorem Move.recorded {base : List (List UInt8)} (move : Move w motion w')
    (recorded : Recorded header base past w) :
    Recorded header base (past ++ [⟨w, motion, w'⟩]) w' := by
  obtain ⟨bears, kept, landed, balanced⟩ := recorded
  obtain ⟨owed, owed', landed', step, others⟩ := move.deposit bears (kept ▸ rfl)
  obtain ⟨publication, gates⟩ := move.fixed
  refine ⟨move.bears bears, step.header.trans kept, landed ++ landed', ?_⟩
  rw [publication, gates, found_append]
  exact balanced.step step others

theorem recorded_of_history (kept : around.ledger = some (.create header))
    (history : History advance (ofSession config around records gates) past w) :
    Recorded header around.sink.payloads past w := by
  induction history with
  | start => exact recorded_start kept
  | next _ moved induction => exact (move_of_advance moved).recorded induction

theorem fixed_of_history {start : World} (history : History advance start past w) :
    w.publication = start.publication ∧ w.gates = start.gates := by
  induction history with
  | start => exact ⟨rfl, rfl⟩
  | next _ moved induction =>
      obtain ⟨publication, gates⟩ := (move_of_advance moved).fixed
      exact ⟨publication.trans induction.1, gates.trans induction.2⟩

theorem owed_of_ended {result : Except StreamError Session.Report}
    (history : History advance (ofSession config around records gates) past w)
    (ended : w.session = some (.ended result)) :
    w.owed = [] := by
  obtain ⟨reported, done⟩ := published_of_ended history ended
  obtain ⟨_, stopped, _⟩ := (governed_of_history history).orderly _ ended
  rw [owed, List.append_eq_nil_iff, List.append_eq_nil_iff]
  refine ⟨?_, ?_, ?_⟩
  · rw [List.flatMap_eq_nil_iff]
    intro publisher member
    obtain ⟨report, stage⟩ := reported publisher (Option.mem_toList.mp member)
    exact Publisher.owed_of_ended stage
  · rw [List.flatMap_eq_nil_iff]
    intro task member
    exact SendTask.owed_of_ended (done task member)
  · rw [List.flatMap_eq_nil_iff]
    intro worker member
    exact Worker.owed_of_stopped (List.all_eq_true.mp stopped worker member)

end World

end Courier
