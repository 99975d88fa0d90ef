/-! Histories of a system that moves in steps. The steps are kept in order, each with the state
before it and after it, so that what happened can be read off them. -/

namespace Courier

structure Transition (σ α : Type) where
  before : σ
  label : α
  after : σ

/-- `History step start past state`: the steps `past` lead from `start` to `state`. -/
inductive History {σ α : Type} (step : σ → α → Option σ) (start : σ) :
    List (Transition σ α) → σ → Prop where
  | start : History step start [] start
  | next {past : List (Transition σ α)} {before after : σ} {label : α}
      (history : History step start past before)
      (moved : step before label = some after) :
      History step start (past ++ [⟨before, label, after⟩]) after

/-- The steps that given labels lead to, if they all can be made. -/
def replay {σ α : Type} (step : σ → α → Option σ) (state : σ) :
    List α → Option (List (Transition σ α) × σ)
  | [] => some ([], state)
  | label :: labels =>
      match step state label with
      | none => none
      | some after =>
          (replay step after labels).map fun (past, final) =>
            (⟨state, label, after⟩ :: past, final)

theorem filterMap_append_singleton {α β : Type} (seen? : α → Option β) (past : List α)
    (made : α) : (past ++ [made]).filterMap seen? = past.filterMap seen? ++ (seen? made).toList := by
  cases seen : seen? made <;> simp [seen]

namespace History

variable {σ α : Type} {step : σ → α → Option σ} {start : σ}

theorem moved_of_mem {past : List (Transition σ α)} {state : σ}
    (history : History step start past state) {made : Transition σ α} (member : made ∈ past) :
    step made.before made.label = some made.after := by
  induction history with
  | start => cases member
  | next _ moved induction =>
      rcases List.mem_append.mp member with earlier | last
      · exact induction earlier
      · cases List.mem_singleton.mp last
        exact moved

theorem before_of_append {earlier later : List (Transition σ α)} {made : Transition σ α}
    {state : σ} (history : History step start (earlier ++ made :: later) state) :
    History step start earlier made.before := by
  generalize same : earlier ++ made :: later = past at history
  induction history generalizing later with
  | start => simp at same
  | next history moved induction =>
      rcases List.eq_nil_or_concat later with rfl | ⟨later, last, rfl⟩
      · obtain ⟨rfl, last⟩ := List.append_inj' same rfl
        cases List.singleton_inj.mp last
        exact history
      · rw [List.concat_eq_append, ← List.cons_append, ← List.append_assoc] at same
        exact induction (List.append_inj' same rfl).1

theorem after_of_append {earlier later : List (Transition σ α)} {made : Transition σ α}
    {state : σ} (history : History step start (earlier ++ made :: later) state) :
    History step made.after later state := by
  generalize same : earlier ++ made :: later = past at history
  induction history generalizing later with
  | start => simp at same
  | next history moved induction =>
      rcases List.eq_nil_or_concat later with rfl | ⟨later, last, rfl⟩
      · cases List.singleton_inj.mp (List.append_inj' same rfl).2
        exact .start
      · rw [List.concat_eq_append, ← List.cons_append, ← List.append_assoc] at same
        obtain ⟨front, final⟩ := List.append_inj' same rfl
        rw [List.concat_eq_append, List.singleton_inj.mp final]
        exact (induction front).next moved

theorem through_of_append {earlier later : List (Transition σ α)} {made : Transition σ α}
    {state : σ} (history : History step start (earlier ++ made :: later) state) :
    History step start (earlier ++ [made]) made.after :=
  history.before_of_append.next
    (history.moved_of_mem (List.mem_append_right _ List.mem_cons_self))

theorem append {past later : List (Transition σ α)} {state final : σ}
    (history : History step start past state) (further : History step state later final) :
    History step start (past ++ later) final := by
  induction further with
  | start =>
      rw [List.append_nil]
      exact history
  | next _ moved induction =>
      rw [← List.append_assoc]
      exact induction.next moved

theorem ofReplay {past : List (Transition σ α)} {state : σ} {labels : List α}
    (replayed : replay step start labels = some (past, state)) :
    History step start past state := by
  induction labels generalizing start past with
  | nil =>
      cases replayed
      exact .start
  | cons label labels induction =>
      simp only [replay] at replayed
      cases moved : step start label with
      | none => simp [moved] at replayed
      | some after =>
          simp only [moved, Option.map_eq_some_iff, Prod.exists] at replayed
          obtain ⟨rest, last, replayed, same⟩ := replayed
          cases same
          exact (History.start.next moved).append (induction replayed)

end History

end Courier
