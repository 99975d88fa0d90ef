import Courier.Proofs.Credits.Conservation

/-! A pool of credits never runs dry for good. It is empty only while an attempt holds a credit, and
an attempt that gives its credit up leaves the pool with one, however low the ceiling is. -/

namespace Courier

theorem CreditPool.limit_pos {pool : CreditPool}
    (room : ∀ ceiling, pool.ceiling = some ceiling → 0 < ceiling) :
    0 < pool.limit := by
  have maximum : 0 < CreditPool.maximum := by decide
  cases ceiling : pool.ceiling with
  | none =>
      simp only [limit, ceiling, Option.elim_none]
      exact maximum
  | some most =>
      simp only [limit, ceiling, Option.elim_some]
      exact Nat.lt_min.mpr ⟨maximum, room most ceiling⟩

theorem CreditEvent.after?_pos {flow : Config.FlowControl} {pool pool' : CreditPool}
    {event : CreditEvent} (changed : event.after? flow pool = some pool')
    (room : 0 < pool.limit) (rewarded : 0 < flow.creditIncrement)
    (released : event = .returned ∨ event = .earned) :
    0 < pool'.available := by
  rcases released with rfl | rfl
  · cases changed
    exact Nat.lt_min.mpr ⟨Nat.succ_pos _, room⟩
  · cases changed
    exact Nat.lt_min.mpr ⟨Nat.add_pos_right _ rewarded, room⟩

theorem CreditEvent.after?_pos_of_pos {flow : Config.FlowControl} {pool pool' : CreditPool}
    {event : CreditEvent} (changed : event.after? flow pool = some pool')
    (room : 0 < pool.limit) (kept : event ≠ .taken) (available : 0 < pool.available) :
    0 < pool'.available := by
  cases event with
  | none =>
      cases changed
      exact available
  | taken => exact absurd rfl kept
  | returned | earned | granted =>
      cases changed
      exact Nat.lt_min.mpr ⟨Nat.add_pos_left available _, room⟩

namespace Traffic

variable {config : Config} {around : Surroundings} {t t' : Traffic} {act : Act}
  {past : List (Transition Traffic Act)}

private theorem credits_somewhere_next (room : 0 < t.shared.credits.limit)
    (rewarded : 0 < t.shared.flow.creditIncrement) (moved : t.step act = some t')
    (somewhere : 0 < t.shared.credits.available + t.holding) :
    0 < t'.shared.credits.available + t'.holding := by
  obtain ⟨changed, _, held⟩ := credits_of_step moved
  by_cases released : eventOf ⟨t, act, t'⟩ = .returned ∨ eventOf ⟨t, act, t'⟩ = .earned
  · have available := CreditEvent.after?_pos changed room rewarded released
    omega
  · rw [if_neg released] at held
    by_cases taken : eventOf ⟨t, act, t'⟩ = .taken
    · rw [if_pos taken] at held
      omega
    · rw [if_neg taken] at held
      rcases Nat.eq_zero_or_pos t.shared.credits.available with empty | available
      · omega
      · have available := CreditEvent.after?_pos_of_pos changed room taken available
        omega

private theorem limit_pos_of_balanced (fits : config.lowCeiling? = none)
    (begun : 1 ≤ config.flowControl.initialCredits)
    (balanced : Balanced config.flowControl past t) :
    0 < t.shared.credits.limit := by
  apply CreditPool.limit_pos
  intro ceiling limited
  exact Nat.lt_of_lt_of_le begun
    (Config.initialCredits_le_of_fits fits (balanced.ceiling.symm.trans limited))

theorem credits_somewhere (fits : config.lowCeiling? = none)
    (begun : 1 ≤ config.flowControl.initialCredits)
    (rewarded : 1 ≤ config.flowControl.creditIncrement)
    (history : History step (start config around) past t) :
    0 < t.shared.credits.available + t.holding := by
  induction history with
  | start => exact Nat.add_pos_left begun _
  | next history moved induction =>
      have balanced := balanced_of_history fits history
      exact credits_somewhere_next (limit_pos_of_balanced fits begun balanced)
        (balanced.settings ▸ rewarded) moved induction

end Traffic

namespace Sending

variable {s s' : Shared} {m m' : Sending}

theorem creditEvent_of_released (held : m.holdsCredit = true) (released : m'.holdsCredit = false) :
    m.creditEvent m' = .returned ∨ m.creditEvent m' = .earned := by
  by_cases rewarded : m'.stage = .rewarded
  · exact .inr (by simp [creditEvent, held, released, rewarded])
  · exact .inl (by simp [creditEvent, held, released, rewarded])

theorem transit_of_held_of_stuck (held : m.holdsCredit = true) (stuck : m.step s = none) :
    ∃ transit, m.stage = .transit transit ∧ transit.reply? s.now = none := by
  cases stage : m.stage with
  | transit transit =>
      refine ⟨transit, rfl, ?_⟩
      cases replied : transit.reply? s.now with
      | none => rfl
      | some reply =>
          cases cancelled : s.cancelled <;>
            simp [step, stage, replied, cancelled] at stuck
  | charged | accepted | refused => simp [step, stage] at stuck
  | counted => cases cancelled : s.cancelled <;> simp [step, stage, cancelled] at stuck
  | wanting | looking | starved | rewarded | refunded | resting | ended =>
      simp [holdsCredit, stage] at held

end Sending

namespace Traffic

/-- When no credit is left in the pool, some attempt holds one. No attempt that does waits for a
credit, and when it gives its own up there is one in the pool, so that no state is reached in which
all sends wait for a credit that nobody hands back. -/
theorem held_of_no_credits (config : Config) (around : Surroundings)
    (fits : config.lowCeiling? = none) (begun : 1 ≤ config.flowControl.initialCredits)
    (rewarded : 1 ≤ config.flowControl.creditIncrement)
    {past : List (Transition Traffic Act)} {t : Traffic}
    (history : History step (start config around) past t) :
    (t.shared.credits.available = 0 → ∃ m ∈ t.sends, m.holdsCredit = true) ∧
      ∀ m ∈ t.sends, m.holdsCredit = true →
        (m.step t.shared = none →
          ∃ transit, m.stage = .transit transit ∧ transit.reply? t.shared.now = none) ∧
        ∀ s' m', m.step t.shared = some (s', m') → m'.holdsCredit = false →
          0 < s'.credits.available := by
  have balanced := balanced_of_history fits history
  have room := limit_pos_of_balanced fits begun balanced
  refine ⟨?_, ?_⟩
  · intro empty
    have somewhere := credits_somewhere fits begun rewarded history
    rw [empty, Nat.zero_add] at somewhere
    exact List.countP_pos_iff.mp somewhere
  · intro m _ held
    refine ⟨Sending.transit_of_held_of_stuck held, ?_⟩
    intro s' m' moved released
    exact CreditEvent.after?_pos (Sending.move_of_step moved).credits.1 room
      (balanced.settings ▸ rewarded) (Sending.creditEvent_of_released held released)

private def single : Config :=
  { topic := "news"
    flowControl := { initialCredits := 1, creditIncrement := 1, maxCredits := some 1 } }

private def unanswered : Surroundings :=
  .alone (.start (fun _ _ => none) fun _ => ⟨0, none⟩) (.ofScript [] false)

theorem held_of_no_credits_where_single :
    ∃ past t, History step (start single unanswered) past t ∧
      t.shared.credits.available = 0 ∧ t.sends.length = 2 ∧
        ∃ m ∈ t.sends, m.holdsCredit = true := by
  have counts : (replay step (start single unanswered)
      [.call "news" [1] 0, .call "news" [2] 1, .advance 0, .advance 1, .advance 0, .advance 0]).map
        (fun (_, t) => (t.shared.credits.available, t.sends.length)) = some (0, 2) := by
    decide
  obtain ⟨⟨past, t⟩, replayed, counts⟩ := Option.map_eq_some_iff.mp counts
  simp only [Prod.mk.injEq] at counts
  have history := History.ofReplay replayed
  have held := (held_of_no_credits single unanswered rfl (Nat.le_refl 1) (Nat.le_refl 1) history).1
  exact ⟨past, t, history, counts.1, counts.2, held counts.1⟩

end Traffic

end Courier
