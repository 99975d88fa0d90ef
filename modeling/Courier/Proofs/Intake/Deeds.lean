import Courier.Proofs.Ledger.Balance

/-! What gates leave behind of what they do: lines on the console, in the log and in the ledger, and
what they keep. It is read off the state that the parts share, whoever wrote it there. -/

namespace Courier

def Console.Line.deed? : Console.Line → Option Deed
  | .received seq _ message => some (.print seq message)
  | .subscribed _ | .ledgerFlushed | .interrupted => none

def Log.Entry.deed? : Log.Entry → Option Deed
  | .traceReceived trace => some (.log trace)
  | _ => none

namespace Deed

inductive Place where
  | console
  | log
  | ledger
  | shelf
  deriving DecidableEq

def Place.all : List Place := [.console, .log, .ledger, .shelf]

def place? : Deed → Option Place
  | .print .. => some .console
  | .log _ => some .log
  | .record _ => some .ledger
  | .keep _ => some .shelf
  | .rest _ => none

def leftAt (place : Place) (deeds : List Deed) : List Deed := deeds.filter (·.place? = some place)

@[simp] theorem leftAt_nil (place : Place) : Deed.leftAt place [] = [] := rfl

@[simp] theorem leftAt_append (place : Place) (deeds later : List Deed) :
    Deed.leftAt place (deeds ++ later) = Deed.leftAt place deeds ++ Deed.leftAt place later :=
  List.filter_append ..

@[simp] theorem leftAt_singleton (place : Place) (deed : Deed) :
    Deed.leftAt place [deed] = if deed.place? = some place then [deed] else [] := by
  simp [Deed.leftAt, List.filter_cons]

theorem leftAt_leftAt (place other : Place) (deeds : List Deed) :
    Deed.leftAt place (Deed.leftAt other deeds) =
      if other = place then Deed.leftAt place deeds else [] := by
  simp only [leftAt, List.filter_filter]
  split
  case isTrue same => simp [same]
  case isFalse differs =>
      rw [List.filter_eq_nil_iff]
      rintro deed - both
      simp only [Bool.and_eq_true, decide_eq_true_eq] at both
      exact differs (Option.some.inj (both.2.symm.trans both.1))

theorem leftAt_records (place : Place) (lines : List String) :
    Deed.leftAt place (lines.map .record) = if place = .ledger then lines.map .record else [] := by
  cases place <;> simp [Deed.leftAt, place?]

/-- A line for the ledger comes to nothing where there is none. -/
def isSeen (recording : Bool) : Deed → Bool
  | .record _ => recording
  | .print .. | .log _ | .keep _ | .rest _ => true

end Deed

namespace Shared

def deeds (s : Shared) : Deed.Place → List Deed
  | .console => s.console.filterMap Console.Line.deed?
  | .log => s.log.filterMap Log.Entry.deed?
  | .ledger => (s.ledger.elim [] Ledger.entries).map .record
  | .shelf => s.kept.map .keep

/-- What was done from one state to a later one. -/
def since (s s' : Shared) : List Deed :=
  Deed.Place.all.flatMap fun place => (s'.deeds place).drop (s.deeds place).length

end Shared

/-- What is left in the later state is what was left before and what was done. -/
def Leaves (s s' : Shared) (done : List Deed) : Prop :=
  ∀ place, s'.deeds place = s.deeds place ++ Deed.leftAt place done

namespace Leaves

variable {s s' : Shared} {done : List Deed}

theorem refl (s : Shared) : Leaves s s [] := fun _ => (List.append_nil _).symm

theorem nothing
    (console : s'.console.filterMap Console.Line.deed? = s.console.filterMap Console.Line.deed?)
    (log : s'.log.filterMap Log.Entry.deed? = s.log.filterMap Log.Entry.deed?)
    (ledger : s'.ledger.elim [] Ledger.entries = s.ledger.elim [] Ledger.entries)
    (kept : s'.kept = s.kept) : Leaves s s' [] := by
  intro place
  cases place <;> simp [Shared.deeds, console, log, ledger, kept]

theorem recordLine {line : String} (recorded : s.recordLine? line = some s') :
    Leaves s s' (if s.ledger.isSome then [.record line] else []) ∧
      s'.ledger.isSome = s.ledger.isSome := by
  unfold Shared.recordLine? at recorded
  split at recorded
  case h_1 absent =>
      cases recorded
      rw [absent]
      exact ⟨.refl s, rfl⟩
  case h_2 ledger present =>
      simp only [Ledger.record?, Option.map_eq_some_iff] at recorded
      obtain ⟨ledger', recorded, rfl⟩ := recorded
      split at recorded
      case isFalse => cases recorded
      case isTrue =>
          cases recorded
          refine ⟨fun place => ?_, present ▸ rfl⟩
          cases place <;>
            simp [Shared.deeds, present, Ledger.entries, Deed.place?]

theorem since_eq (leaves : Leaves s s' done) :
    s.since s' = Deed.Place.all.flatMap fun place => Deed.leftAt place done := by
  rw [Shared.since]
  congr 1
  funext place
  rw [leaves place, List.drop_left]

theorem leftAt_since (leaves : Leaves s s' done) (place : Deed.Place) :
    Deed.leftAt place (s.since s') = Deed.leftAt place done := by
  rw [leaves.since_eq]
  cases place <;> simp [Deed.Place.all, Deed.leftAt_leftAt]

theorem ofSince (leaves : Leaves s s' done) : Leaves s s' (s.since s') := by
  intro place
  rw [leaves.leftAt_since, ← leaves]

theorem since_toList {deed? : Option Deed} (leaves : Leaves s s' deed?.toList) :
    s.since s' = (deed?.filter (·.place?.isSome)).toList := by
  rw [leaves.since_eq]
  cases deed? with
  | none => rfl
  | some deed => cases deed <;> rfl

theorem since_records {lines : List String} (leaves : Leaves s s' (lines.map .record)) :
    s.since s' = lines.map .record := by
  simp [leaves.since_eq, Deed.Place.all, Deed.leftAt_records]

end Leaves

end Courier
