import Courier.Address
import Mathlib.Data.List.Infix

/-! Dotted quads, and the search for the first one in a text. Each run of digits in a quad is read as
far as it goes, so that a quad with no digit behind it is read as it stands. -/

namespace Courier.Address

def IsRun (text : List Char) : Prop :=
  text ≠ [] ∧ ∀ c ∈ text, Text.isDecimalDigit c = true

/-- `IsParts count text`: so many runs of digits, with a point before each. -/
inductive IsParts : Nat → List Char → Prop where
  | nil : IsParts 0 []
  | cons {count : Nat} {digits more : List Char} (run : IsRun digits)
      (parts : IsParts count more) : IsParts (count + 1) ('.' :: digits ++ more)

def IsQuad (text : List Char) : Prop :=
  ∃ digits parts, IsRun digits ∧ IsParts 3 parts ∧ text = digits ++ parts

def IsBeyond (text : List Char) : Prop :=
  text.takeWhile Text.isDecimalDigit = []

section Runs

variable {text digits rest : List Char} {c : Char}

theorem isDecimalDigit_point : Text.isDecimalDigit '.' = false := by decide

theorem isBeyond_cons (other : Text.isDecimalDigit c = false) (text : List Char) :
    IsBeyond (c :: text) := by
  rw [IsBeyond, List.takeWhile_cons, other]
  rfl

theorem IsBeyond.dropWhile (beyond : IsBeyond text) :
    text.dropWhile Text.isDecimalDigit = text := by
  have whole := List.takeWhile_append_dropWhile (p := Text.isDecimalDigit) (l := text)
  rwa [beyond, List.nil_append] at whole

theorem isBeyond_dropWhile (text : List Char) :
    IsBeyond (text.dropWhile Text.isDecimalDigit) := by
  induction text with
  | nil => rfl
  | cons c text induction =>
      rw [List.dropWhile_cons]
      split
      case isTrue => exact induction
      case isFalse other => exact isBeyond_cons (Bool.eq_false_iff.mpr other) text

theorem isRun_takeWhile (filled : text.takeWhile Text.isDecimalDigit ≠ []) :
    IsRun (text.takeWhile Text.isDecimalDigit) :=
  ⟨filled, fun _ member => List.all_eq_true.mp List.all_takeWhile _ member⟩

theorem IsRun.takeWhile (run : IsRun digits) (rest : List Char) :
    (digits ++ rest).takeWhile Text.isDecimalDigit =
      digits ++ rest.takeWhile Text.isDecimalDigit :=
  List.takeWhile_append_of_pos run.2

theorem IsRun.dropWhile (run : IsRun digits) (rest : List Char) :
    (digits ++ rest).dropWhile Text.isDecimalDigit = rest.dropWhile Text.isDecimalDigit :=
  List.dropWhile_append_of_pos run.2

end Runs

section Characters

variable {count : Nat} {text parts quad before after : List Char} {c : Char}

private theorem IsParts.char_of_mem (given : IsParts count parts) (member : c ∈ parts) :
    Text.isDecimalDigit c = true ∨ c = '.' := by
  induction given with
  | nil => cases member
  | cons run _ induction =>
      rw [List.cons_append, List.mem_cons, List.mem_append] at member
      rcases member with rfl | digit | later
      · exact .inr rfl
      · exact .inl (run.2 c digit)
      · exact induction later

theorem IsQuad.char_of_mem (given : IsQuad quad) (member : c ∈ quad) :
    Text.isDecimalDigit c = true ∨ c = '.' := by
  obtain ⟨digits, parts, run, given, rfl⟩ := given
  rcases List.mem_append.mp member with digit | later
  · exact .inl (run.2 c digit)
  · exact given.char_of_mem later

theorem IsQuad.point_mem (given : IsQuad quad) : '.' ∈ quad := by
  obtain ⟨digits, _, _, given, rfl⟩ := given
  cases given with
  | cons => exact List.mem_append_right _ List.mem_cons_self

theorem IsQuad.ne_nil (given : IsQuad quad) : quad ≠ [] :=
  List.ne_nil_of_mem given.point_mem

end Characters

section Reading

variable {count : Nat} {text parts quad rest : List Char} {c : Char}

theorem parts?_point (count : Nat) (text : List Char) :
    parts? (count + 1) ('.' :: text) =
      if (text.takeWhile Text.isDecimalDigit).isEmpty then none
      else (parts? count (text.dropWhile Text.isDecimalDigit)).map fun more =>
        '.' :: text.takeWhile Text.isDecimalDigit ++ more :=
  rfl

theorem quad?_eq (text : List Char) :
    quad? text =
      if (text.takeWhile Text.isDecimalDigit).isEmpty then none
      else (parts? 3 (text.dropWhile Text.isDecimalDigit)).map
        (text.takeWhile Text.isDecimalDigit ++ ·) :=
  rfl

theorem IsParts.isBeyond (given : IsParts (count + 1) parts) (rest : List Char) :
    IsBeyond (parts ++ rest) := by
  cases given with
  | cons => exact isBeyond_cons isDecimalDigit_point _

theorem isParts_of_parts? (read : parts? count text = some parts) (beyond : IsBeyond text) :
    IsParts count parts ∧ ∃ rest, text = parts ++ rest ∧ IsBeyond rest := by
  induction count generalizing text parts with
  | zero =>
      cases read
      exact ⟨.nil, text, rfl, beyond⟩
  | succ count induction =>
      unfold parts? at read
      split at read
      case h_1 => contradiction
      case h_2 count' text' same =>
          cases same
          split at read
          case isTrue => cases read
          case isFalse filled =>
              obtain ⟨more, later, rfl⟩ := Option.map_eq_some_iff.mp read
              obtain ⟨given, rest, same, beyond'⟩ := induction later (isBeyond_dropWhile _)
              have run := isRun_takeWhile fun empty => filled (List.isEmpty_iff.mpr empty)
              refine ⟨.cons run given, rest, ?_, beyond'⟩
              rw [List.cons_append, List.cons_append, List.append_assoc, ← same]
              exact congrArg ('.' :: ·) List.takeWhile_append_dropWhile.symm
      case h_3 => cases read

theorem IsParts.parts? (given : IsParts count parts) (rest : List Char) :
    ∃ further, Address.parts? count (parts ++ rest) = some (parts ++ further) ∧
      (IsBeyond rest → further = []) := by
  induction given with
  | nil => exact ⟨[], rfl, fun _ => rfl⟩
  | cons run given induction =>
      rename_i count digits more
      have filled : ((digits ++ (more ++ rest)).takeWhile Text.isDecimalDigit).isEmpty = false := by
        rw [run.takeWhile, List.isEmpty_eq_false_iff]
        exact List.append_ne_nil_of_left_ne_nil run.1 _
      obtain ⟨further, later, none⟩ := induction
      rw [List.cons_append, List.cons_append, List.append_assoc, parts?_point, filled,
        run.takeWhile, run.dropWhile]
      cases given with
      | nil =>
          refine ⟨rest.takeWhile Text.isDecimalDigit, ?_, id⟩
          simp [Address.parts?]
      | cons run' given' =>
          have beyond := (IsParts.cons run' given').isBeyond rest
          refine ⟨further, ?_, none⟩
          rw [beyond.dropWhile, beyond, later]
          simp

theorem isQuad_of_quad? (read : quad? text = some quad) :
    IsQuad quad ∧ ∃ rest, text = quad ++ rest ∧ IsBeyond rest := by
  rw [quad?_eq] at read
  split at read
  case isTrue => cases read
  case isFalse filled =>
      obtain ⟨parts, later, rfl⟩ := Option.map_eq_some_iff.mp read
      obtain ⟨given, rest, same, beyond⟩ := isParts_of_parts? later (isBeyond_dropWhile _)
      have run := isRun_takeWhile fun empty => filled (List.isEmpty_iff.mpr empty)
      refine ⟨⟨_, parts, run, given, rfl⟩, rest, ?_, beyond⟩
      rw [List.append_assoc, ← same]
      exact List.takeWhile_append_dropWhile.symm

theorem IsQuad.quad? (quad' : IsQuad quad) (rest : List Char) :
    ∃ further, Address.quad? (quad ++ rest) = some (quad ++ further) ∧
      (IsBeyond rest → further = []) := by
  obtain ⟨digits, parts, run, given, rfl⟩ := quad'
  obtain ⟨further, later, none⟩ := given.parts? rest
  have beyond := given.isBeyond rest
  refine ⟨further, ?_, none⟩
  rw [List.append_assoc, quad?_eq, run.takeWhile, run.dropWhile, beyond, beyond.dropWhile, later]
  simp [run.1]

theorem quad?_eq_none_iff : quad? text = none ↔ ∀ piece, piece <+: text → ¬IsQuad piece := by
  constructor
  · rintro missing piece ⟨rest, rfl⟩ quad
    obtain ⟨further, read, _⟩ := quad.quad? rest
    cases missing.symm.trans read
  · intro missing
    refine Option.eq_none_iff_forall_ne_some.mpr fun quad read => ?_
    obtain ⟨given, rest, same, _⟩ := isQuad_of_quad? read
    exact missing quad ⟨rest, same.symm⟩ given

end Reading

section Searching

variable {text quad rest : List Char} {afterDigit : Bool} {c : Char}

/-- A quad goes on to be one with a digit before it. -/
theorem quad?_of_digit (digit : Text.isDecimalDigit c = true)
    (missing : quad? (c :: text) = none) : quad? text = none := by
  rw [quad?_eq_none_iff] at missing ⊢
  rintro piece ⟨rest, rfl⟩ ⟨digits, parts, run, given, rfl⟩
  refine missing (c :: (digits ++ parts)) ⟨rest, rfl⟩ ⟨c :: digits, parts, ?_, given, rfl⟩
  exact ⟨nofun, List.forall_mem_cons.mpr ⟨digit, run.2⟩⟩

theorem quad?_of_other (other : Text.isDecimalDigit c = false) : quad? (c :: text) = none := by
  rw [quad?_eq, List.takeWhile_cons, other]
  rfl

private theorem findFrom_eq (behind : afterDigit = true → quad? text = none) :
    findFrom afterDigit text = text.tails.findSome? quad? := by
  induction text generalizing afterDigit with
  | nil => rfl
  | cons c text induction =>
      rw [List.tails_cons, List.findSome?_cons, findFrom]
      cases digit : Text.isDecimalDigit c with
      | false =>
          rw [if_neg Bool.false_ne_true, quad?_of_other digit]
          exact induction nofun
      | true =>
          -- Within a run of digits there is no quad, or there was one at its start.
          have place : (if afterDigit then none else quad? (c :: text)) = quad? (c :: text) := by
            cases afterDigit with
            | false => rfl
            | true => exact (behind rfl).symm
          rw [if_pos rfl, place]
          cases here : quad? (c :: text) with
          | some quad => rfl
          | none => exact induction fun _ => quad?_of_digit digit here

theorem findQuad_eq_findSome? (text : List Char) :
    findQuad text = text.tails.findSome? quad? :=
  findFrom_eq nofun

theorem findQuad_eq_none_iff : findQuad text = none ↔ ∀ piece, piece <:+: text → ¬IsQuad piece := by
  rw [findQuad_eq_findSome?, List.findSome?_eq_none_iff]
  simp only [List.mem_tails, quad?_eq_none_iff, List.infix_iff_prefix_suffix]
  constructor
  · rintro missing piece ⟨place, start, behind⟩
    exact missing place behind piece start
  · intro missing place behind piece start
    exact missing piece ⟨place, start, behind⟩

theorem isQuad_of_findQuad (found : findQuad text = some quad) : IsQuad quad := by
  rw [findQuad_eq_findSome?] at found
  obtain ⟨place, _, read⟩ := List.exists_of_findSome?_eq_some found
  exact (isQuad_of_quad? read).1

theorem IsQuad.findQuad_append (given : IsQuad quad) (beyond : IsBeyond rest) :
    findQuad (quad ++ rest) = some quad := by
  obtain ⟨further, read, none⟩ := given.quad? rest
  rw [none beyond, List.append_nil] at read
  rw [findQuad_eq_findSome?]
  cases whole : quad ++ rest with
  | nil =>
      rw [whole] at read
      cases read
  | cons c text => rw [List.tails_cons, List.findSome?_cons, ← whole, read]

theorem findQuad_append_cons_eq_none (other : Text.isDecimalDigit c = false) (ne : c ≠ '.')
    (before : findQuad text = none) (after : findQuad rest = none) :
    findQuad (text ++ c :: rest) = none := by
  rw [findQuad_eq_none_iff] at before after ⊢
  intro piece within given
  have absent : c ∉ piece := by
    intro member
    rcases given.char_of_mem member with digit | point
    · cases other.symm.trans digit
    · exact ne point
  have beginning {start : List Char} (leads : start <+: c :: rest) (part : start <:+: piece) :
      start = [] := by
    rcases List.prefix_cons_iff.mp leads with empty | ⟨_, rfl, _⟩
    · exact empty
    · exact absurd (part.subset List.mem_cons_self) absent
  rcases List.infix_append_iff.mp within with early | late | ⟨first, second, rfl, end', start⟩
  · exact before piece early given
  · rcases List.infix_cons_iff.mp late with here | later
    · exact given.ne_nil (beginning here List.infix_rfl)
    · exact after piece later given
  · have empty := beginning start (List.suffix_append first second).isInfix
    rw [empty, List.append_nil] at given
    exact before first end'.isInfix given

end Searching

end Courier.Address
