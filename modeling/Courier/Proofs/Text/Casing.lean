import Courier.Text.Search
import Mathlib.Data.List.Forall2
import Mathlib.Data.List.Infix

/-! Searching a text for a pattern in capitals and small letters alike. -/

namespace Courier.Text

inductive Alike : Char → Char → Prop where
  | same (c : Char) : Alike c c
  | capital {a b : Char} (upper : a.isUpper = true) (shift : b.toNat = a.toNat + 32) : Alike a b
  | small {a b : Char} (upper : b.isUpper = true) (shift : a.toNat = b.toNat + 32) : Alike a b

theorem isUpper_iff {c : Char} : c.isUpper = true ↔ 65 ≤ c.toNat ∧ c.toNat ≤ 90 := by
  have upper : c.isUpper = decide (c.val ≥ 'A'.val ∧ c.val ≤ 'Z'.val) := rfl
  rw [upper, decide_eq_true_eq]
  exact Iff.rfl

theorem toNat_toLower (c : Char) :
    c.toLower.toNat = if c.isUpper then c.toNat + 32 else c.toNat := by
  by_cases upper : c.isUpper = true
  · have bounds := isUpper_iff.mp upper
    have shifted : c.toLower.val = c.val + ('a'.val - 'A'.val) := congrArg Char.val (dif_pos bounds)
    have sum : (c.val + ('a'.val - 'A'.val)).toNat = (c.toNat + 32) % 2 ^ 32 := UInt32.toNat_add ..
    rw [if_pos upper]
    exact (congrArg UInt32.toNat shifted).trans (sum.trans (Nat.mod_eq_of_lt (by omega)))
  · have kept : c.toLower = c := dif_neg (mt isUpper_iff.mpr upper)
    rw [if_neg upper, kept]

theorem alike_iff {a b : Char} : Alike a b ↔ a.toLower = b.toLower := by
  rw [← Char.toNat_inj, toNat_toLower, toNat_toLower]
  constructor
  · intro alike
    cases alike with
    | same => rfl
    | capital upper shift | small upper shift =>
        have range := isUpper_iff.mp upper
        have other := mt isUpper_iff.mp (show ¬(65 ≤ _ ∧ _ ≤ 90) by rw [shift]; omega)
        rw [if_pos upper, if_neg other, shift]
  · intro same
    by_cases first : a.isUpper = true <;> by_cases second : b.isUpper = true
    · rw [if_pos first, if_pos second, Nat.add_right_cancel_iff, Char.toNat_inj] at same
      exact same ▸ .same a
    · rw [if_pos first, if_neg second] at same
      exact .capital first same.symm
    · rw [if_neg first, if_pos second] at same
      exact .small second same
    · rw [if_neg first, if_neg second, Char.toNat_inj] at same
      exact same ▸ .same a

theorem forall₂_alike_iff {first second : List Char} :
    List.Forall₂ Alike first second ↔ first.map Char.toLower = second.map Char.toLower := by
  have alike : Alike = fun a b => a.toLower = b.toLower := by
    funext a b
    exact propext alike_iff
  rw [alike, ← List.forall₂_eq_eq_eq, List.forall₂_map_left_iff, List.forall₂_map_right_iff]

theorem occurs_iff {pattern text : List Char} :
    occurs pattern text = true ↔ pattern <:+: text := by
  induction text with
  | nil => rw [occurs, List.isEmpty_iff, List.infix_nil]
  | cons c text induction =>
      rw [occurs, Bool.or_eq_true, List.isPrefixOf_iff_prefix, induction, List.infix_cons_iff]

/-- `Names pattern text`: the pattern stands somewhere in the text, in capitals or small letters. -/
def Names (pattern text : List Char) : Prop :=
  ∃ before piece after, text = before ++ piece ++ after ∧ List.Forall₂ Alike pattern piece

theorem occurs_toLower_iff {pattern text : List Char}
    (small : pattern.map Char.toLower = pattern) :
    occurs pattern (text.map Char.toLower) = true ↔ Names pattern text := by
  rw [occurs_iff, Names]
  simp only [forall₂_alike_iff, small]
  constructor
  · rintro ⟨before, after, same⟩
    obtain ⟨rest, last, rfl, same, -⟩ := List.map_eq_append_iff.mp same.symm
    obtain ⟨first, piece, rfl, -, found⟩ := List.map_eq_append_iff.mp same
    exact ⟨first, piece, last, rfl, found.symm⟩
  · rintro ⟨before, piece, after, rfl, found⟩
    exact ⟨before.map Char.toLower, after.map Char.toLower, by simp only [found, List.map_append]⟩

end Courier.Text
