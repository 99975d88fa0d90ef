import Courier.Proofs.World.Orders

/-! When a client is cancelled from outside, by what was planned or by a signal, and what happened
before that. -/

namespace Courier

def Session.isDriving : Session → Bool
  | .starting | .subscribing _ | .listening | .watching | .waiting | .publishing => true
  | _ => false

theorem Session.Move.driving {view : View} {s s' : Shared} {session session' : Session}
    (move : Session.Move view s session s' session') (driving : session'.isDriving = true) :
    session.isDriving = true ∧ s'.cancelled = s.cancelled := by
  cases move with
  | publish | subscribe | accept | watch | wait | rouse => exact ⟨rfl, rfl⟩
  | forgo | withdraw | refuse | unsubscribe | lose | part | tear | abandon | interrupt | linger
  | halt | settle | depart | drain | stop | drained | joined => cases driving

namespace World

def cancels (made : Transition World Motion) : Bool :=
  match made.label with
  | .part .signal => true
  | .part .outside => made.before.outside.head?.map (·.2) = some .cancel
  | _ => false

def Undisturbed (around : Surroundings) (past : List (Transition World Motion)) : Prop :=
  around.cancelled = false ∧ ∀ made ∈ past, cancels made = false

/-- It was from outside that the client was cancelled, while its session was driving the mode. -/
def Disturbed (around : Surroundings) (past : List (Transition World Motion)) : Prop :=
  around.cancelled = true ∨
    ∃ made ∈ past, cancels made = true ∧ made.before.shared.cancelled = false ∧
      ∃ session, made.before.session = some session ∧ session.isDriving = true

def HappenedFirst (around : Surroundings) (event : Transition World Motion → Prop)
    (past : List (Transition World Motion)) : Prop :=
  ∃ earlier made later,
    past = earlier ++ made :: later ∧ event made ∧ Undisturbed around earlier

variable {around : Surroundings} {past : List (Transition World Motion)}
  {made : Transition World Motion} {event : Transition World Motion → Prop}

theorem Move.cancelled_of_cancels {w w' : World} {motion : Motion} (move : Move w motion w')
    (cancels : World.cancels ⟨w, motion, w'⟩ = true) :
    w'.shared.cancelled = true := by
  cases move with
  | signal => rfl
  | outside planned due =>
      rename_i event _
      cases event with
      | cancel => rfl
      | shutdown | addCredits => simp [World.cancels, planned] at cancels
  | session | publisher | task | worker | pump | writer | clock => cases cancels

theorem Move.cancels_of_cancelled {w w' : World} {motion : Motion} (move : Move w motion w')
    (elsewhere : motion ≠ .part .session) (active : w.shared.cancelled = false)
    (cancelled : w'.shared.cancelled = true) :
    World.cancels ⟨w, motion, w'⟩ = true := by
  have never {shared : Shared} (same : shared.orders = w.shared.orders) :
      shared.cancelled ≠ true := by
    have kept : shared.cancelled = w.shared.cancelled := congrArg Orders.cancelled same
    rw [kept, active]
    exact Bool.false_ne_true
  cases move with
  | session => exact (elsewhere rfl).elim
  | publisher running moved =>
      exact (never (Publisher.move_of_step moved).orders cancelled).elim
  | task running moved => exact (never (SendTask.move_of_step moved).orders cancelled).elim
  | worker running moved => exact (never (Worker.move_of_step moved).orders cancelled).elim
  | pump running moved => exact (never (Pump.move_of_step moved).orders cancelled).elim
  | outside planned due =>
      rename_i event _
      cases event with
      | cancel => simp [World.cancels, planned]
      | shutdown | addCredits => cases active.symm.trans cancelled
  | signal => rfl
  | writer | clock => cases active.symm.trans cancelled

theorem Disturbed.not_undisturbed (disturbed : Disturbed around past) :
    ¬Undisturbed around past := by
  rintro ⟨active, quiet⟩
  rcases disturbed with cancelled | ⟨made, member, cancels, _⟩
  · cases active.symm.trans cancelled
  · cases (quiet made member).symm.trans cancels

theorem Disturbed.append (disturbed : Disturbed around past) (made : Transition World Motion) :
    Disturbed around (past ++ [made]) := by
  rcases disturbed with cancelled | ⟨earlier, member, rest⟩
  · exact .inl cancelled
  · exact .inr ⟨earlier, List.mem_append_left _ member, rest⟩

theorem undisturbed_append :
    Undisturbed around (past ++ [made]) ↔ Undisturbed around past ∧ cancels made = false := by
  simp only [Undisturbed, List.forall_mem_append, List.forall_mem_singleton, and_assoc]

theorem happenedFirst_append :
    HappenedFirst around event (past ++ [made]) ↔
      HappenedFirst around event past ∨ (event made ∧ Undisturbed around past) := by
  constructor
  · rintro ⟨earlier, first, later, same, happened, quiet⟩
    rcases List.eq_nil_or_concat later with rfl | ⟨later, last, rfl⟩
    · obtain ⟨rfl, last⟩ := List.append_inj' same rfl
      rw [List.singleton_inj.mp last]
      exact .inr ⟨happened, quiet⟩
    · rw [List.concat_eq_append, ← List.cons_append, ← List.append_assoc] at same
      obtain ⟨same, _⟩ := List.append_inj' same rfl
      exact .inl ⟨earlier, first, later, same, happened, quiet⟩
  · rintro (⟨earlier, first, later, rfl, happened, quiet⟩ | ⟨happened, quiet⟩)
    · exact ⟨earlier, first, later ++ [made], by simp, happened, quiet⟩
    · exact ⟨past, made, [], rfl, happened, quiet⟩

end World

end Courier
