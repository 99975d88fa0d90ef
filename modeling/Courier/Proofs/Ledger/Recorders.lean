import Courier.Ledger
import Courier.Proofs.History
import Courier.Proofs.Text.Utf8

/-! A ledger, the recorders that lines are queued through, and the writer that moves them to the file.
What was recorded is in the file, behind the header and in the order in which it was recorded, as soon
as the ledger is closed. -/

namespace Courier

namespace Ledger

theorem bytesOf_content (ledger : Ledger) :
    Text.bytesOf ledger.content =
      Text.bytesOf (ledger.header ++ "\n") ++
        ledger.lines.flatMap fun line => Text.bytesOf (line ++ "\n") := by
  simp only [content, Text.bytesOf, String.toList_join, List.map_cons, List.flatMap_cons,
    Text.encode_append, List.flatMap_map]
  congr 1
  induction ledger.lines with
  | nil => rfl
  | cons line lines induction =>
      rw [List.flatMap_cons, Text.encode_append, induction, List.flatMap_cons]

theorem eq_of_write? {ledger ledger' : Ledger} {line : String} {queue : List String}
    (filled : ledger.queue = line :: queue) (written : ledger.write? = some ledger') :
    ledger' = { ledger with queue, lines := ledger.lines ++ [line] } := by
  rw [write?, filled] at written
  exact (Option.some.inj written).symm

theorem eq_of_record? {ledger ledger' : Ledger} {line : String}
    (recorded : ledger.record? line = some ledger') :
    ledger' = { ledger with queue := ledger.queue ++ [line] } :=
  (Option.some.inj (Option.ite_none_right_eq_some.mp recorded).2).symm

theorem bytesOf_content_append (ledger : Ledger) (line : String) :
    Text.bytesOf { ledger with lines := ledger.lines ++ [line] }.content =
      Text.bytesOf ledger.content ++ Text.bytesOf (line ++ "\n") := by
  simp [bytesOf_content]

theorem drain_record {ledger : Ledger} (room : ledger.queue.length ≤ queueDepth) (line : String) :
    (ledger.record line).queue.length ≤ queueDepth ∧
      (ledger.record line).drain =
        { ledger.drain with lines := ledger.drain.lines ++ [line] } := by
  unfold record
  by_cases free : ledger.queue.length < queueDepth
  · rw [record?, if_pos free]
    refine ⟨?_, by simp [drain]⟩
    simpa using Nat.succ_le_of_lt free
  · -- The line that the writer takes makes the room.
    rw [record?, if_neg free]
    cases filled : ledger.queue with
    | nil => exact absurd (by rw [filled]; decide) free
    | cons first queue =>
        have free' : queue.length < queueDepth := by
          rw [filled] at room
          exact room
        simp only [write?, filled, record?, free', if_true, Option.getD_some]
        refine ⟨?_, by simp [drain, filled]⟩
        simpa using Nat.succ_le_of_lt free'

theorem drain_records (lines : List String) {ledger : Ledger}
    (room : ledger.queue.length ≤ queueDepth) :
    (lines.foldl record ledger).drain =
      { ledger.drain with lines := ledger.drain.lines ++ lines } := by
  induction lines generalizing ledger with
  | nil => simp
  | cons line lines induction =>
      obtain ⟨room', recorded⟩ := drain_record room line
      rw [List.foldl_cons, induction room', recorded]
      simp

end Ledger

inductive Setup where
  | found
  /-- What the file held is gone, and the header comes next. -/
  | cut
  | ready
  deriving DecidableEq

structure Office where
  setup : Setup
  ledger : Ledger
  /-- For each recorder that was handed out whether it is still there. -/
  recorders : List Bool
  file : List UInt8
  /-- What the writer holds that is not in the file yet. -/
  hand : List UInt8
  /-- Whether the ledger is being closed. Its own recorder is gone then. -/
  closing : Bool
  closed : Option Nat

namespace Office

def create (old : List UInt8) (header : String) : Office where
  setup := .found
  ledger := .create header
  recorders := []
  file := old
  hand := []
  closing := false
  closed := none

/-- Whether lines may still come. -/
def isOpen (o : Office) : Bool := !o.closing || o.recorders.any id

inductive Act where
  | cut
  | open
  | handOut
  | clone (index : Nat)
  | drop (index : Nat)
  /-- A line is recorded. A recorder waits until there is room in the queue. -/
  | record (index : Nat) (line : String)
  | take
  | write (count : Nat)
  | close
  | stop
  | finish
  deriving DecidableEq

def step (o : Office) : Act → Option Office
  | .cut =>
      if o.setup = .found then
        some { o with
          setup := .cut
          file := []
          hand := Text.bytesOf (o.ledger.header ++ "\n") }
      else none
  | .open => if o.setup = .cut ∧ o.hand = [] then some { o with setup := .ready } else none
  | .handOut =>
      if o.setup = .ready ∧ o.closing = false then
        some { o with recorders := o.recorders ++ [true] }
      else none
  | .clone index =>
      if o.recorders[index]? = some true then
        some { o with recorders := o.recorders ++ [true] }
      else none
  | .drop index =>
      if o.recorders[index]? = some true then
        some { o with recorders := o.recorders.set index false }
      else none
  | .record index line =>
      if o.recorders[index]? = some true then
        -- Where nobody writes any more, the line is discarded.
        if o.ledger.writing then (o.ledger.record? line).map fun ledger => { o with ledger }
        else some o
      else none
  | .take =>
      match o.hand, o.ledger.queue with
      | [], line :: _ =>
          o.ledger.write?.map fun ledger =>
            { o with ledger, hand := Text.bytesOf (line ++ "\n") }
      | _, _ => none
  | .write count =>
      if 0 < count ∧ count ≤ o.hand.length then
        some { o with file := o.file ++ o.hand.take count, hand := o.hand.drop count }
      else none
  | .close =>
      if o.setup = .ready ∧ o.closing = false then some { o with closing := true } else none
  | .stop =>
      if o.ledger.writing ∧ o.hand = [] ∧ o.ledger.queue = [] ∧ o.isOpen = false then
        some { o with ledger := o.ledger.stop }
      else none
  | .finish =>
      if o.closing ∧ o.ledger.writing = false ∧ o.closed = none then
        some { o with closed := some o.ledger.lines.length }
      else none

def recorded? (made : Transition Office Act) : Option (Nat × String) :=
  match made.label with
  | .record index line => some (index, line)
  | _ => none

def recorded (past : List (Transition Office Act)) : List (Nat × String) :=
  past.filterMap recorded?

/-- The lines that were recorded through one recorder, in order. -/
def recordedBy (past : List (Transition Office Act)) (index : Nat) : List String :=
  ((recorded past).filter (·.1 = index)).map (·.2)

/-- Each of the lines comes from one of the sequences, and those of one sequence stand in its order. -/
def Interleaves (sequences : Nat → List String) (lines : List String) : Prop :=
  ∃ sources : List Nat, sources.length = lines.length ∧
    ∀ index, ((sources.zip lines).filter (·.1 = index)).map (·.2) = sequences index

theorem recorded_append (past : List (Transition Office Act)) (made : Transition Office Act) :
    recorded (past ++ [made]) = recorded past ++ (recorded? made).toList :=
  filterMap_append_singleton ..

theorem interleaves_recorded (past : List (Transition Office Act)) :
    Interleaves (recordedBy past) ((recorded past).map (·.2)) := by
  refine ⟨(recorded past).map (·.1), by simp, fun index => ?_⟩
  rw [recordedBy, List.zip_map', List.map_id'' (fun _ => rfl)]

/-- What holds between the steps. The writer's hand counts as written. -/
structure Kept (header : String) (past : List (Transition Office Act)) (o : Office) : Prop where
  fresh : o.setup ≠ .ready →
    o.ledger = .create header ∧ o.recorders = [] ∧ o.closing = false
  header : o.ledger.header = header
  order : o.ledger.lines ++ o.ledger.queue = (recorded past).map (·.2)
  file : o.setup ≠ .found → o.file ++ o.hand = Text.bytesOf o.ledger.content
  writing : o.isOpen = true → o.ledger.writing = true
  rest : o.ledger.writing = false → o.hand = [] ∧ o.ledger.queue = []
  closed : ∀ count, o.closed = some count →
    o.ledger.writing = false ∧ count = o.ledger.lines.length

variable {header : String} {past : List (Transition Office Act)} {o o' : Office} {act : Act}

theorem kept_create (old : List UInt8) (header : String) : Kept header [] (create old header) where
  fresh _ := ⟨rfl, rfl, rfl⟩
  header := rfl
  order := rfl
  file := absurd rfl
  writing _ := rfl
  rest stopped := by cases stopped
  closed _ finished := by cases finished

theorem isOpen_of_recorder {index : Nat} (present : o.recorders[index]? = some true) :
    o.isOpen = true := by
  have member := List.mem_of_getElem? present
  simp only [isOpen, Bool.or_eq_true, List.any_eq_true]
  exact .inr ⟨true, member, rfl⟩

theorem Kept.ready (kept : Kept header past o) {index : Nat}
    (present : o.recorders[index]? = some true) : o.setup = .ready := by
  refine Decidable.byContradiction fun unready => ?_
  rw [(kept.fresh unready).2.1] at present
  cases present

private theorem Kept.unrecorded (kept : Kept header past o) (silent : recorded? ⟨o, act, o'⟩ = none)
    (fresh : o'.setup ≠ .ready → o.setup ≠ .ready ∧ o'.recorders = [] ∧ o'.closing = false)
    (ledger : o'.ledger = o.ledger)
    (file : o'.setup ≠ .found → o'.file ++ o'.hand = Text.bytesOf o.ledger.content)
    (hand : o.ledger.writing = false → o'.hand = []) (isOpen : o'.isOpen = true → o.isOpen = true)
    (closed : o'.closed = o.closed) : Kept header (past ++ [⟨o, act, o'⟩]) o' where
  fresh unready := ⟨ledger ▸ (kept.fresh (fresh unready).1).1, (fresh unready).2⟩
  header := ledger ▸ kept.header
  order := by rw [recorded_append, silent, ledger, kept.order]; simp
  file := ledger ▸ file
  writing later := ledger ▸ kept.writing (isOpen later)
  rest stopped := by
    rw [ledger] at stopped ⊢
    exact ⟨hand stopped, (kept.rest stopped).2⟩
  closed := by rw [closed, ledger]; exact kept.closed

theorem Kept.step (kept : Kept header past o) (moved : o.step act = some o') :
    Kept header (past ++ [⟨o, act, o'⟩]) o' := by
  cases act with
  | cut =>
      obtain ⟨found, same⟩ := Option.ite_none_right_eq_some.mp moved
      cases same
      have unready : o.setup ≠ .ready := by simp [found]
      obtain ⟨new, recorders, active⟩ := kept.fresh unready
      refine kept.unrecorded rfl (fun _ => ⟨unready, recorders, active⟩) rfl (fun _ => ?_)
        (fun stopped => ?_) id rfl
      · simp [new, Ledger.create, Ledger.bytesOf_content]
      · rw [new] at stopped
        cases stopped
  | «open» =>
      obtain ⟨⟨cut, -⟩, same⟩ := Option.ite_none_right_eq_some.mp moved
      cases same
      exact kept.unrecorded rfl (absurd rfl) rfl (fun _ => kept.file (by simp [cut]))
        (fun stopped => (kept.rest stopped).1) id rfl
  | handOut =>
      obtain ⟨⟨ready, active⟩, same⟩ := Option.ite_none_right_eq_some.mp moved
      cases same
      exact kept.unrecorded rfl (absurd ready) rfl kept.file
        (fun stopped => (kept.rest stopped).1) (fun _ => by simp [isOpen, active]) rfl
  | clone index =>
      obtain ⟨present, same⟩ := Option.ite_none_right_eq_some.mp moved
      cases same
      exact kept.unrecorded rfl (absurd (kept.ready present)) rfl kept.file
        (fun stopped => (kept.rest stopped).1) (fun _ => isOpen_of_recorder present) rfl
  | drop index =>
      obtain ⟨present, same⟩ := Option.ite_none_right_eq_some.mp moved
      cases same
      exact kept.unrecorded rfl (absurd (kept.ready present)) rfl kept.file
        (fun stopped => (kept.rest stopped).1) (fun _ => isOpen_of_recorder present) rfl
  | record index line =>
      obtain ⟨present, moved⟩ := Option.ite_none_right_eq_some.mp moved
      -- As long as a recorder is there, the writer works, and no line is discarded.
      have writing := kept.writing (isOpen_of_recorder present)
      rw [if_pos writing, Option.map_eq_some_iff] at moved
      obtain ⟨ledger, queued, rfl⟩ := moved
      cases Ledger.eq_of_record? queued
      refine ⟨absurd (kept.ready present), kept.header, ?_, kept.file, fun _ => writing,
        fun stopped => ?_, kept.closed⟩
      · rw [recorded_append, List.map_append, ← kept.order]
        exact (List.append_assoc ..).symm
      · cases writing.symm.trans stopped
  | take =>
      simp only [Office.step] at moved
      split at moved
      case h_2 => cases moved
      case h_1 line queue empty filled =>
        rw [Option.map_eq_some_iff] at moved
        obtain ⟨ledger, written, rfl⟩ := moved
        cases Ledger.eq_of_write? filled written
        have ready : o.setup = .ready := Decidable.byContradiction fun unready => by
          rw [(kept.fresh unready).1] at filled
          cases filled
        have file := kept.file (by simp [ready])
        rw [empty, List.append_nil] at file
        have stays : o.ledger.writing = false → False := fun stopped => by
          simp [(kept.rest stopped).2] at filled
        refine ⟨absurd ready, kept.header, ?_, fun _ => ?_, kept.writing,
          fun stopped => (stays stopped).elim,
          fun count finished => (stays (kept.closed count finished).1).elim⟩
        · rw [recorded_append, List.map_append, ← kept.order, filled]
          simp [recorded?]
        · rw [file]
          exact (Ledger.bytesOf_content_append { o.ledger with queue } line).symm
  | write count =>
      obtain ⟨⟨-, -⟩, same⟩ := Option.ite_none_right_eq_some.mp moved
      cases same
      refine kept.unrecorded rfl (fun unready => ⟨unready, (kept.fresh unready).2⟩) rfl
        (fun cut => ?_) (fun stopped => by simp [(kept.rest stopped).1]) id rfl
      rw [List.append_assoc, List.take_append_drop]
      exact kept.file cut
  | close =>
      obtain ⟨⟨ready, active⟩, same⟩ := Option.ite_none_right_eq_some.mp moved
      cases same
      exact kept.unrecorded rfl (absurd ready) rfl kept.file
        (fun stopped => (kept.rest stopped).1) (fun _ => by simp [isOpen, active]) rfl
  | stop =>
      obtain ⟨⟨writing, hand, queue, shut⟩, same⟩ := Option.ite_none_right_eq_some.mp moved
      cases same
      have ready : o.setup = .ready := Decidable.byContradiction fun unready => by
        simp [isOpen, (kept.fresh unready).2.2] at shut
      refine ⟨absurd ready, kept.header, ?_, kept.file, fun later => ?_, fun _ => ⟨hand, queue⟩,
        fun count finished => ⟨rfl, (kept.closed count finished).2⟩⟩
      · rw [recorded_append, List.map_append, ← kept.order]
        exact (List.append_nil _).symm
      · cases shut.symm.trans later
  | finish =>
      obtain ⟨⟨-, stopped, -⟩, same⟩ := Option.ite_none_right_eq_some.mp moved
      cases same
      refine ⟨kept.fresh, kept.header, ?_, kept.file, kept.writing, kept.rest,
        fun count finished => ?_⟩
      · rw [recorded_append, List.map_append, ← kept.order]
        exact (List.append_nil _).symm
      · exact ⟨stopped, (Option.some.inj finished).symm⟩

theorem kept_of_history {old : List UInt8}
    (history : History step (create old header) past o) : Kept header past o := by
  induction history with
  | start => exact kept_create old header
  | next _ moved induction => exact induction.step moved

theorem Kept.settled (kept : Kept header past o) {count : Nat} (finished : o.closed = some count) :
    o.ledger.lines = (recorded past).map (·.2) ∧ o.file = Text.bytesOf o.ledger.content ∧
      o.ledger.lines.length = count := by
  obtain ⟨stopped, same⟩ := kept.closed count finished
  obtain ⟨hand, queue⟩ := kept.rest stopped
  -- Before the header is written, the writer has not stopped.
  have ready : o.setup = .ready := Decidable.byContradiction fun unready => by
    rw [(kept.fresh unready).1] at stopped
    cases stopped
  have order := kept.order
  have file := kept.file (by simp [ready])
  rw [queue, List.append_nil] at order
  rw [hand, List.append_nil] at file
  exact ⟨order, file, same.symm⟩

theorem file_eq_records {old : List UInt8} (history : History step (create old header) past o)
    {count : Nat} (finished : o.closed = some count) :
    o.file = Text.bytesOf
      (((recorded past).map (·.2)).foldl Ledger.record (.create header)).drain.content := by
  have kept := kept_of_history history
  obtain ⟨order, file, -⟩ := kept.settled finished
  have empty : (Ledger.create header).queue.length ≤ Ledger.queueDepth := Nat.zero_le _
  rw [file, Ledger.bytesOf_content, Ledger.bytesOf_content, Ledger.drain_records _ empty, order,
    kept.header]
  rfl

/-- While something is queued or not in the file yet, the writer goes on. With the recorders gone
and nothing left to write it stops, and closing returns. -/
theorem closed_of_stuck (stuck : ∀ act, o.step act = none) :
    o.closed.isSome = true := by
  have hand : o.hand = [] := by
    have waits := stuck (.write o.hand.length)
    simpa [step] using waits
  have ready : o.setup = .ready := by
    have begins := stuck .cut
    have opens := stuck .open
    cases found : o.setup with
    | found => simp [step, found] at begins
    | cut => simp [step, found, hand] at opens
    | ready => rfl
  have closing : o.closing = true := by
    have waits := stuck .close
    simpa [step, ready] using waits
  have dropped : ∀ recorder ∈ o.recorders, recorder = false := by
    intro recorder member
    obtain ⟨index, found⟩ := List.getElem?_of_mem member
    have waits := stuck (.drop index)
    cases recorder with
    | false => rfl
    | true => simp [step, found] at waits
  have queue : o.ledger.queue = [] := by
    have waits := stuck .take
    cases filled : o.ledger.queue with
    | nil => rfl
    | cons line queue => simp [step, hand, filled, Ledger.write?] at waits
  have stopped : o.ledger.writing = false := by
    have waits := stuck .stop
    have shut : o.isOpen = false := by simpa [isOpen, closing] using dropped
    simpa [step, hand, queue, shut] using waits
  have waits := stuck .finish
  simpa [step, closing, stopped, Option.isSome_iff_ne_none] using waits

/-- When closing returns, the file holds the header and as many lines as it says. They are those that
were recorded, with the lines of each recorder in their order, whatever the file held before, and
however many lines came and whoever still recorded when the ledger was to be closed. Nothing but a
recorder that is kept holds the return up. -/
theorem recorded_in_file {old : List UInt8}
    (history : History step (create old header) past o) :
    (∀ count, o.closed = some count → ∃ lines : List String, lines.length = count ∧
      o.file = Text.bytesOf (header ++ "\n") ++
        lines.flatMap (fun line => Text.bytesOf (line ++ "\n")) ∧
      Interleaves (recordedBy past) lines) ∧
      ((∀ act, o.step act = none) → o.closed.isSome = true) := by
  have kept := kept_of_history history
  refine ⟨fun count finished => ?_, closed_of_stuck⟩
  obtain ⟨order, file, same⟩ := kept.settled finished
  refine ⟨o.ledger.lines, same, ?_, ?_⟩
  · rw [file, Ledger.bytesOf_content, kept.header]
  · rw [order]
    exact interleaves_recorded past

private def lateActs : List Act :=
  [.cut, .write 2, .open, .handOut, .clone 0, .record 1 "b", .take, .record 0 "a", .close, .write 1,
    .write 1, .record 1 "c", .drop 1, .take, .write 2, .drop 0, .take, .write 2, .stop, .finish]

/-- The ledger is to be closed while both recorders are kept, and a line comes after that. -/
theorem recorded_in_file_where_late :
    ∃ past o, History step (create [7, 7, 7] "h") past o ∧ o.closed = some 3 ∧
      recordedBy past 0 = ["a"] ∧ recordedBy past 1 = ["b", "c"] ∧
        ∃ lines : List String, lines.length = 3 ∧
          o.file = Text.bytesOf ("h" ++ "\n") ++
            lines.flatMap (fun line => Text.bytesOf (line ++ "\n")) ∧
          Interleaves (recordedBy past) lines := by
  have run : (replay step (create [7, 7, 7] "h") lateActs).map
      (fun (past, o) => (o.closed, recordedBy past 0, recordedBy past 1)) =
        some (some 3, ["a"], ["b", "c"]) := by
    decide +kernel
  obtain ⟨⟨past, o⟩, replayed, facts⟩ := Option.map_eq_some_iff.mp run
  simp only [Prod.mk.injEq] at facts
  obtain ⟨closed, first, second⟩ := facts
  have history := History.ofReplay replayed
  exact ⟨past, o, history, closed, first, second, (recorded_in_file history).1 3 closed⟩

end Office

end Courier
