import Courier.Config.Validation
import Courier.Proofs.Credits.Traffic
import Courier.Proofs.Places
import Courier.Proofs.World.Motion

/-! Credits are neither made nor lost, but for those that do not fit into the pool. One step keeps
the balance of the pool, of the attempts that hold a credit and of what was added; so does a
history. -/

namespace Courier

theorem Config.initialCredits_le_of_fits {config : Config} (fits : config.lowCeiling? = none)
    {ceiling : Nat} (limited : config.flowControl.maxCredits = some ceiling) :
    config.flowControl.initialCredits ≤ ceiling := by
  simpa [lowCeiling?, limited] using fits

namespace CreditEvent

/-- The credits that are added and do not fit into the pool. -/
def loss (flow : Config.FlowControl) (pool : CreditPool) (event : CreditEvent) : Nat :=
  (event.addition? flow).elim 0 fun amount => pool.available + amount - pool.limit

variable {flow : Config.FlowControl} {pool pool' : CreditPool} {event : CreditEvent}

theorem after?_ceiling (changed : event.after? flow pool = some pool') :
    pool'.ceiling = pool.ceiling := by
  cases event with
  | taken => exact ((CreditPool.take?_eq_some_iff pool pool').mp changed).2.symm
  | none | returned | earned | granted =>
      cases changed
      rfl

theorem after?_available (changed : event.after? flow pool = some pool') :
    pool'.available + (if event = .taken then 1 else 0) + event.loss flow pool =
      pool.available + (event.addition? flow).getD 0 := by
  cases event with
  | taken =>
      have taken := ((CreditPool.take?_eq_some_iff pool pool').mp changed).1
      simp [loss, addition?, taken]
  | none =>
      cases changed
      simp [loss, addition?]
  | returned | earned | granted =>
      cases changed
      simp only [CreditPool.add, loss, addition?, reduceCtorEq, if_false, Option.elim_some,
        Option.getD_some]
      omega

end CreditEvent

theorem Sending.creditEvent_holdsCredit (m m' : Sending) :
    m'.holdsCredit.toNat +
        (if m.creditEvent m' = .returned ∨ m.creditEvent m' = .earned then 1 else 0) =
      m.holdsCredit.toNat + (if m.creditEvent m' = .taken then 1 else 0) := by
  cases held : m.holdsCredit with
  | true =>
      cases held' : m'.holdsCredit with
      | true => simp [creditEvent, held, held']
      | false =>
          by_cases rewarded : m'.stage = .rewarded
          · simp [creditEvent, held, held', rewarded]
          · simp [creditEvent, held, held', rewarded]
  | false =>
      cases held' : m'.holdsCredit with
      | true => simp [creditEvent, held, held']
      | false => simp [creditEvent, held, held']

namespace Traffic

variable {t t' : Traffic} {act : Act}

theorem credits_of_step (moved : t.step act = some t') :
    (eventOf ⟨t, act, t'⟩).after? t.shared.flow t.shared.credits = some t'.shared.credits ∧
      t'.shared.flow = t.shared.flow ∧
      t'.holding +
          (if eventOf ⟨t, act, t'⟩ = .returned ∨ eventOf ⟨t, act, t'⟩ = .earned then 1 else 0) =
        t.holding + (if eventOf ⟨t, act, t'⟩ = .taken then 1 else 0) := by
  cases act with
  | call topic payload index =>
      cases moved
      refine ⟨rfl, rfl, ?_⟩
      simp [holding, eventOf, Sending.start, Sending.holdsCredit]
  | grant amount =>
      cases moved
      exact ⟨rfl, rfl, rfl⟩
  | elsewhere shared =>
      simp only [step] at moved
      split at moved
      case isTrue same =>
          cases moved
          refine ⟨?_, same.2, rfl⟩
          simp only [eventOf, CreditEvent.after?, same.1]
      case isFalse => cases moved
  | advance place =>
      simp only [step] at moved
      cases present : t.sends[place]? with
      | none => simp [present] at moved
      | some m =>
          simp only [present, Option.map_eq_some_iff, Prod.exists] at moved
          obtain ⟨shared, m', moved, same⟩ := moved
          cases same
          have event : eventOf ⟨t, .advance place, ⟨shared, t.sends.set place m'⟩⟩ =
              m.creditEvent m' := by
            simp only [eventOf, present, getElem?_set_of_getElem? present]
          have changed := (Sending.move_of_step moved).credits
          have held := Sending.creditEvent_holdsCredit m m'
          have counted := countP_set_add Sending.holdsCredit present m'
          rw [event]
          refine ⟨changed.1, changed.2, ?_⟩
          simp only [holding]
          omega

def clipped (made : Transition Traffic Act) : Nat :=
  (eventOf made).loss made.before.shared.flow made.before.shared.credits

/-- The credits that were added and did not fit into the pool. -/
def lost (past : List (Transition Traffic Act)) : Nat :=
  past.foldl (fun total made => total + clipped made) 0

private theorem lost_eq_zero {past : List (Transition Traffic Act)}
    (unclipped : ∀ made ∈ past, clipped made = 0) :
    lost past = 0 := by
  unfold lost
  induction past with
  | nil => rfl
  | cons made past induction =>
      obtain ⟨none, rest⟩ := List.forall_mem_cons.mp unclipped
      rw [List.foldl_cons, none]
      exact induction rest

structure Balanced (flow : Config.FlowControl) (past : List (Transition Traffic Act))
    (t : Traffic) : Prop where
  settings : t.shared.flow = flow
  ceiling : t.shared.credits.ceiling = flow.maxCredits
  bounded : ∀ ceiling, flow.maxCredits = some ceiling → t.shared.credits.available ≤ ceiling
  balance : t.shared.credits.available + t.holding + succeeded past + lost past =
    flow.initialCredits + granted past + succeeded past * flow.creditIncrement

theorem balanced_start (config : Config) (around : Surroundings)
    (fits : config.lowCeiling? = none) :
    Balanced config.flowControl [] (start config around) where
  settings := rfl
  ceiling := rfl
  bounded := fun _ limited => Config.initialCredits_le_of_fits fits limited
  balance := by simp [start, Shared.start, holding, succeeded, lost, granted]

private theorem after?_bounded {flow : Config.FlowControl} {pool pool' : CreditPool}
    {event : CreditEvent} {ceiling : Nat}
    (changed : event.after? flow pool = some pool') (limited : pool.ceiling = some ceiling)
    (bounded : pool.available ≤ ceiling) :
    pool'.available ≤ ceiling := by
  have limit : pool.limit ≤ ceiling := by
    simp only [CreditPool.limit, limited, Option.elim_some]
    exact Nat.min_le_right ..
  cases event with
  | none =>
      cases changed
      exact bounded
  | taken =>
      have taken := ((CreditPool.take?_eq_some_iff pool pool').mp changed).1
      omega
  | returned | earned | granted =>
      cases changed
      exact Nat.le_trans (CreditPool.add_le_limit ..) limit

theorem Balanced.next {flow : Config.FlowControl} {past : List (Transition Traffic Act)}
    (balanced : Balanced flow past t) (moved : t.step act = some t') :
    Balanced flow (past ++ [⟨t, act, t'⟩]) t' := by
  obtain ⟨changed, settings, held⟩ := credits_of_step moved
  refine ⟨settings.trans balanced.settings, ?_, ?_, ?_⟩
  · exact (CreditEvent.after?_ceiling changed).trans balanced.ceiling
  · intro ceiling limited
    exact after?_bounded changed (balanced.ceiling.trans limited)
      (balanced.bounded ceiling limited)
  · have available := CreditEvent.after?_available changed
    have balance := balanced.balance
    rw [balanced.settings] at available
    simp only [succeeded, lost, granted, List.countP_append, List.countP_singleton,
      List.foldl_append, List.foldl_cons, List.foldl_nil, clipped, balanced.settings] at balance ⊢
    cases event : eventOf ⟨t, act, t'⟩ with
    | none | taken | returned | earned | granted =>
        simp [event, CreditEvent.addition?, CreditEvent.grant, Nat.add_mul]
          at available held balance ⊢
        omega

theorem balanced_of_history {config : Config} {around : Surroundings}
    (fits : config.lowCeiling? = none) {past : List (Transition Traffic Act)}
    (history : History step (start config around) past t) :
    Balanced config.flowControl past t := by
  induction history with
  | start => exact balanced_start config around fits
  | next _ moved induction => exact induction.next moved

private theorem clipped_of_hasRoom {flow : Config.FlowControl} {made : Transition Traffic Act}
    (settings : made.before.shared.flow = flow)
    (ceiling : made.before.shared.credits.ceiling = flow.maxCredits)
    (roomy : hasRoom flow made = true) :
    clipped made = 0 := by
  subst settings
  unfold clipped CreditEvent.loss
  unfold hasRoom at roomy
  cases added : (eventOf made).addition? made.before.shared.flow with
  | none => rfl
  | some amount =>
      simp only [added, Option.all_some, Bool.and_eq_true, decide_eq_true_eq] at roomy
      obtain ⟨countable, allowed⟩ := roomy
      simp only [Option.elim_some, CreditPool.limit, ceiling, CreditPool.maximum_eq]
      cases limited : made.before.shared.flow.maxCredits with
      | none =>
          simp only [Option.elim_none]
          omega
      | some ceiling =>
          simp only [limited, Option.all_some, decide_eq_true_eq] at allowed
          simp only [Option.elim_some]
          omega

/-- Whatever the sends and the consumers do, and in whatever order, the credits in the pool, those
that attempts hold and those of the attempts that succeeded are no more than there were at the start
and were added since. Where there was room for every addition they are exactly as many. -/
theorem credits_conserved (config : Config) (around : Surroundings)
    (fits : config.lowCeiling? = none) {past : List (Transition Traffic Act)}
    (history : History step (start config around) past t) :
    t.shared.credits.available + t.holding + succeeded past ≤
        config.flowControl.initialCredits + granted past +
          succeeded past * config.flowControl.creditIncrement ∧
      ((∀ made ∈ past, hasRoom config.flowControl made = true) →
        t.shared.credits.available + t.holding + succeeded past =
          config.flowControl.initialCredits + granted past +
            succeeded past * config.flowControl.creditIncrement) ∧
      (∀ ceiling, config.flowControl.maxCredits = some ceiling →
        t.shared.credits.available ≤ ceiling) ∧
      ∀ made ∈ past, eventOf made = .taken →
        made.before.shared.credits.available = made.after.shared.credits.available + 1 := by
  have balanced := balanced_of_history fits history
  refine ⟨?_, ?_, balanced.bounded, ?_⟩
  · rw [← balanced.balance]
    exact Nat.le_add_right ..
  · intro roomy
    have unclipped : ∀ made ∈ past, clipped made = 0 := by
      intro made member
      obtain ⟨earlier, later, rfl⟩ := List.append_of_mem member
      have before := balanced_of_history fits history.before_of_append
      exact clipped_of_hasRoom before.settings before.ceiling (roomy made member)
    rw [← balanced.balance, lost_eq_zero unclipped]
    rfl
  · intro made member taken
    have changed := (credits_of_step (history.moved_of_mem member)).1
    rw [taken] at changed
    exact ((CreditPool.take?_eq_some_iff ..).mp changed).1

private def holdingUpTo (ceiling : Nat) : Config :=
  { topic := "news"
    flowControl := { initialCredits := 1, creditIncrement := 2, maxCredits := some ceiling } }

private def undisturbed : Surroundings := .alone .accepting (.ofScript [] false)

private def busyActs : List Act :=
  [.call "news" [1] 0, .advance 0, .advance 0, .grant 3, .advance 0, .advance 0, .advance 0,
   .call "news" [2] 1, .advance 1]

/-- Up to five credits, there is room for all of them. Up to two, some are lost. -/
theorem credits_conserved_where_scarce :
    (∃ past t, History step (start (holdingUpTo 5) undisturbed) past t ∧
      (∀ made ∈ past, hasRoom (holdingUpTo 5).flowControl made = true) ∧
      t.shared.credits.available + 1 + 1 = 1 + 3 + 1 * 2) ∧
    ∃ past t, History step (start (holdingUpTo 2) undisturbed) past t ∧
      t.shared.credits.available + 1 + 1 ≤ 1 + 3 + 1 * 2 ∧
      t.shared.credits.available ≤ 2 ∧ t.shared.credits.available + 1 + 1 ≠ 1 + 3 + 1 * 2 := by
  have course (ceiling : Nat) (roomy : Bool)
      (same : (replay step (start (holdingUpTo ceiling) undisturbed) busyActs).map
        (fun (past, t) => (t.holding, succeeded past, granted past,
          past.all (hasRoom (holdingUpTo ceiling).flowControl))) = some (1, 1, 3, roomy)) :
      ∃ past t, History step (start (holdingUpTo ceiling) undisturbed) past t ∧
        t.holding = 1 ∧ succeeded past = 1 ∧ granted past = 3 ∧
          past.all (hasRoom (holdingUpTo ceiling).flowControl) = roomy := by
    obtain ⟨⟨past, t⟩, replayed, counts⟩ := Option.map_eq_some_iff.mp same
    simp only [Prod.mk.injEq] at counts
    exact ⟨past, t, History.ofReplay replayed, counts⟩
  obtain ⟨past, t, history, holding, succeeded, granted, roomy⟩ := course 5 true (by decide)
  obtain ⟨past', t', history', holding', succeeded', granted', _⟩ := course 2 false (by decide)
  have conserved := credits_conserved (holdingUpTo 5) undisturbed rfl history
  have conserved' := credits_conserved (holdingUpTo 2) undisturbed rfl history'
  rw [holding, succeeded, granted] at conserved
  rw [holding', succeeded', granted'] at conserved'
  have roomy := List.all_eq_true.mp roomy
  have bounded := conserved'.2.2.1 2 rfl
  exact ⟨⟨past, t, history, roomy, conserved.2.1 roomy⟩, past', t', history', conserved'.1, bounded,
    by omega⟩

end Traffic

end Courier
