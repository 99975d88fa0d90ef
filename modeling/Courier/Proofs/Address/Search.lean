import Courier.Proofs.Address.Quads

/-! Searching a text by a pattern. A search tries the places of a text from the left, and at a place it
lets a run of digits take as much as it can before it gives some of that back. The first quad of a
text is what such a search finds. -/

namespace Courier.Address

inductive Piece where
  | point
  | digits
  deriving DecidableEq, Repr

/-- The ways to take a run of digits off a text, the longest first, each with what it leaves. -/
def runs : List Char → List (List Char × List Char)
  | [] => []
  | c :: text =>
      if Text.isDecimalDigit c then
        (runs text).map (fun (taken, rest) => (c :: taken, rest)) ++ [([c], text)]
      else []

def Piece.ways : Piece → List Char → List (List Char × List Char)
  | .digits, text => runs text
  | .point, '.' :: text => [(['.'], text)]
  | .point, _ => []

/-- What a pattern may take off a text, in the order in which a search tries it. -/
def matchings : List Piece → List Char → List (List Char)
  | [], _ => [[]]
  | piece :: pattern, text =>
      (piece.ways text).flatMap fun (taken, rest) => (matchings pattern rest).map (taken ++ ·)

def search (pattern : List Piece) (text : List Char) : Option (List Char) :=
  text.tails.findSome? fun place => (matchings pattern place).head?

def partsPattern : Nat → List Piece
  | 0 => []
  | count + 1 => .point :: .digits :: partsPattern count

def quadPattern : List Piece := .digits :: partsPattern 3

example :
    quadPattern = [.digits, .point, .digits, .point, .digits, .point, .digits] :=
  rfl

section Matching

variable {count : Nat} {pattern : List Piece} {text : List Char} {c : Char}

theorem matchings_point (pattern : List Piece) (text : List Char) :
    matchings (.point :: pattern) ('.' :: text) = (matchings pattern text).map ('.' :: ·) := by
  simp [matchings, Piece.ways]

theorem matchings_point_of_ne (other : text.head? ≠ some '.') :
    matchings (.point :: pattern) text = [] := by
  unfold matchings Piece.ways
  split
  case h_1 => contradiction
  case h_2 => exact absurd rfl other
  case h_3 => rfl

theorem matchings_digits_cons (digit : Text.isDecimalDigit c = true) :
    matchings (.digits :: pattern) (c :: text) =
      (matchings (.digits :: pattern) text).map (c :: ·) ++
        (matchings pattern text).map (c :: ·) := by
  simp [matchings, Piece.ways, runs, digit, List.flatMap_append, List.flatMap_map,
    List.map_flatMap, Function.comp_def]

theorem matchings_digits_of_isBeyond (beyond : IsBeyond text) :
    matchings (.digits :: pattern) text = [] := by
  cases text with
  | nil => rfl
  | cons c text =>
      have other : Text.isDecimalDigit c = false := by
        rw [IsBeyond, List.takeWhile_cons] at beyond
        split at beyond
        case isTrue => cases beyond
        case isFalse other => exact Bool.eq_false_iff.mpr other
      simp [matchings, Piece.ways, runs, other]

/-- A point stands before each part, so that none is taken where a digit stands. -/
theorem matchings_partsPattern_of_not_isBeyond (within : ¬IsBeyond text) :
    matchings (partsPattern (count + 1)) text = [] := by
  refine matchings_point_of_ne fun point => within ?_
  obtain ⟨rest, rfl⟩ := List.head?_eq_some_iff.mp point
  exact isBeyond_cons isDecimalDigit_point rest

/-- A run gives nothing back: behind fewer digits stands a digit, where no part goes on. -/
theorem head?_matchings_digits (count : Nat) (text : List Char) :
    (matchings (.digits :: partsPattern count) text).head? =
      if (text.takeWhile Text.isDecimalDigit).isEmpty then none
      else (matchings (partsPattern count) (text.dropWhile Text.isDecimalDigit)).head?.map
        (text.takeWhile Text.isDecimalDigit ++ ·) := by
  induction text with
  | nil => rfl
  | cons c text induction =>
      cases digit : Text.isDecimalDigit c with
      | false =>
          have beyond := isBeyond_cons digit text
          rw [matchings_digits_of_isBeyond beyond, beyond]
          rfl
      | true =>
          rw [matchings_digits_cons digit, List.head?_append, List.head?_map, List.head?_map, induction,
            List.takeWhile_cons_of_pos digit, List.dropWhile_cons_of_pos digit]
          by_cases beyond : IsBeyond text
          · rw [beyond, beyond.dropWhile]
            rfl
          · rw [List.isEmpty_eq_false_iff.mpr beyond]
            cases count with
            | zero => rfl
            | succ count => simp [matchings_partsPattern_of_not_isBeyond beyond, Function.comp_def]

theorem head?_matchings_partsPattern (count : Nat) (text : List Char) :
    (matchings (partsPattern count) text).head? = parts? count text := by
  induction count generalizing text with
  | zero => rfl
  | succ count induction =>
      rw [partsPattern]
      by_cases point : text.head? = some '.'
      · obtain ⟨rest, rfl⟩ := List.head?_eq_some_iff.mp point
        rw [matchings_point, List.head?_map, head?_matchings_digits, induction, parts?_point,
          apply_ite (Option.map _), Option.map_map]
        rfl
      · rw [matchings_point_of_ne point]
        unfold parts?
        split
        case h_1 => contradiction
        case h_2 => exact absurd rfl point
        case h_3 => rfl

theorem head?_matchings_quadPattern (text : List Char) :
    (matchings quadPattern text).head? = quad? text := by
  rw [quadPattern, head?_matchings_digits, head?_matchings_partsPattern]
  rfl

end Matching

theorem findQuad_eq_search (text : List Char) : findQuad text = search quadPattern text := by
  simp only [findQuad_eq_findSome?, search, head?_matchings_quadPattern]

/-- The first place of a text where a quad stands, with the quad that reaches as far as it can. -/
structure IsFirst (text before quad after : List Char) : Prop where
  place : text = before ++ quad ++ after
  quad : IsQuad quad
  beyond : IsBeyond after
  first : ∀ earlier piece later, text = earlier ++ piece ++ later → IsQuad piece →
    before.length ≤ earlier.length

section Places

variable {text quad before after : List Char} {c : Char}

theorem findQuad_cons (c : Char) (text : List Char) :
    findQuad (c :: text) = (quad? (c :: text)).or (findQuad text) := by
  rw [findQuad_eq_findSome?, findQuad_eq_findSome?, List.tails_cons, List.findSome?_cons]
  cases quad? (c :: text) <;> rfl

theorem isFirst_cons (missing : quad? (c :: text) = none) :
    IsFirst (c :: text) (c :: before) quad after ↔ IsFirst text before quad after := by
  rw [quad?_eq_none_iff] at missing
  constructor
  · rintro ⟨place, given, beyond, first⟩
    refine ⟨List.cons_inj_right c |>.mp place, given, beyond, ?_⟩
    intro earlier piece later same isQuad
    exact Nat.le_of_succ_le_succ
      (first (c :: earlier) piece later (congrArg (c :: ·) same) isQuad)
  · rintro ⟨place, given, beyond, first⟩
    refine ⟨congrArg (c :: ·) place, given, beyond, ?_⟩
    intro earlier piece later same isQuad
    cases earlier with
    | nil => exact absurd isQuad (missing piece ⟨later, same.symm⟩)
    | cons d earlier =>
        have same := (List.cons.inj same).2
        exact Nat.succ_le_succ (first earlier piece later same isQuad)

theorem exists_isFirst (found : findQuad text = some quad) :
    ∃ before after, IsFirst text before quad after := by
  induction text with
  | nil => cases found
  | cons c text induction =>
      rw [findQuad_cons] at found
      cases here : quad? (c :: text) with
      | some quad' =>
          rw [here, Option.some_or] at found
          cases found
          obtain ⟨given, after, place, beyond⟩ := isQuad_of_quad? here
          exact ⟨[], after, place, given, beyond, fun _ _ _ _ _ => Nat.zero_le _⟩
      | none =>
          rw [here, Option.none_or] at found
          obtain ⟨before, after, first⟩ := induction found
          exact ⟨c :: before, after, (isFirst_cons here).mpr first⟩

theorem IsFirst.found (first : IsFirst text before quad after) : findQuad text = some quad := by
  induction before generalizing text with
  | nil =>
      rw [first.place, List.nil_append]
      exact first.quad.findQuad_append first.beyond
  | cons c before induction =>
      obtain ⟨place, given, beyond, least⟩ := id first
      rw [List.cons_append, List.cons_append] at place
      subst place
      -- A quad at the first character would start before the first one.
      have missing : quad? (c :: (before ++ quad ++ after)) = none := by
        rw [quad?_eq_none_iff]
        rintro piece ⟨later, same⟩ isQuad
        exact absurd (least [] piece later same.symm isQuad) (Nat.not_succ_le_zero _)
      rw [findQuad_cons, missing, Option.none_or]
      exact induction ((isFirst_cons missing).mp first)

end Places

/-- The search finds nothing exactly where the text has no quad in it, and else it finds the quad
that starts first, with all the digits of its last run. -/
theorem first_quad_found (text : List Char) :
    findQuad text = search quadPattern text ∧
      (findQuad text = none ↔ ∀ piece, piece <:+: text → ¬IsQuad piece) ∧
      ∀ quad, findQuad text = some quad ↔ ∃ before after, IsFirst text before quad after :=
  ⟨findQuad_eq_search text, findQuad_eq_none_iff, fun _ =>
    ⟨exists_isFirst, fun ⟨_, _, first⟩ => first.found⟩⟩

example :
    findQuad "1.2.3..44.5.6.7.8".toList = some "44.5.6.7".toList := by
  decide

end Courier.Address
