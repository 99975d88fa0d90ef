/-! Cutting a text at a separator. -/

namespace Courier.Text

def cutFirst? (separator : List Char) : List Char → Option (List Char × List Char)
  | [] => if separator.isEmpty then some ([], []) else none
  | c :: text =>
      if separator.isPrefixOf (c :: text) then
        some ([], (c :: text).drop separator.length)
      else
        (cutFirst? separator text).map fun parts => (c :: parts.1, parts.2)

theorem eq_append_of_cutFirst? {separator text before after : List Char}
    (cut : cutFirst? separator text = some (before, after)) :
    text = before ++ separator ++ after := by
  induction text generalizing before with
  | nil =>
      rw [cutFirst?] at cut
      split at cut
      case isTrue empty =>
          cases cut
          rw [List.isEmpty_iff.mp empty]
          rfl
      case isFalse => cases cut
  | cons c text induction =>
      rw [cutFirst?] at cut
      split at cut
      case isTrue here =>
          cases cut
          obtain ⟨rest, same⟩ := List.isPrefixOf_iff_prefix.mp here
          rw [← same, List.drop_left]
          rfl
      case isFalse =>
          obtain ⟨parts, later, same⟩ := Option.map_eq_some_iff.mp cut
          cases same
          exact congrArg (c :: ·) (induction later)

theorem cutFirst?_eq_none_iff {separator text : List Char} :
    cutFirst? separator text = none ↔ ¬separator <:+: text := by
  induction text with
  | nil => simp [cutFirst?]
  | cons c text induction =>
      rw [cutFirst?, List.infix_cons_iff, not_or, ← List.isPrefixOf_iff_prefix, ← induction]
      cases separator.isPrefixOf (c :: text) <;> simp

theorem not_infix_of_cutFirst? {separator text before after : List Char} (filled : separator ≠ [])
    (cut : cutFirst? separator text = some (before, after)) : ¬separator <:+: before := by
  induction text generalizing before with
  | nil =>
      rw [cutFirst?, if_neg (mt List.isEmpty_iff.mp filled)] at cut
      cases cut
  | cons c text induction =>
      rw [cutFirst?] at cut
      split at cut
      case isTrue =>
          cases cut
          rwa [List.infix_nil]
      case isFalse missing =>
          obtain ⟨parts, later, same⟩ := Option.map_eq_some_iff.mp cut
          cases same
          have leads : c :: parts.1 <+: c :: text := by
            rw [eq_append_of_cutFirst? later, List.append_assoc]
            exact List.prefix_append (c :: parts.1) _
          rw [List.infix_cons_iff, not_or]
          exact ⟨fun here => missing (List.isPrefixOf_iff_prefix.mpr (here.trans leads)),
            induction later⟩

/-- No text both starts and ends the separator, but for the empty one and the separator itself. -/
def IsUnbordered (separator : List Char) : Prop :=
  ∀ piece, piece <+: separator → piece <:+ separator → piece = [] ∨ piece = separator

theorem isUnbordered_singleton (separator : Char) : IsUnbordered [separator] := by
  intro piece starts _
  rcases List.prefix_cons_iff.mp starts with empty | ⟨rest, same, nothing⟩
  · exact .inl empty
  · exact .inr (by rw [same, List.prefix_nil.mp nothing])

theorem IsUnbordered.not_prefix_append {separator before : List Char}
    (unbordered : IsUnbordered separator) (missing : ¬separator <:+: before) (filled : before ≠ [])
    (after : List Char) : ¬separator <+: before ++ (separator ++ after) := by
  rintro ⟨rest, same⟩
  rcases List.append_eq_append_iff.mp same with ⟨_, within, _⟩ | ⟨piece, overlaps, same⟩
  · exact missing (within ▸ List.infix_append_left)
  · have ends : piece <:+ separator := ⟨before, overlaps.symm⟩
    have starts : piece <+: separator :=
      List.prefix_of_prefix_length_le ⟨rest, same.symm⟩ (List.prefix_append separator after)
        ends.length_le
    rcases unbordered piece starts ends with empty | whole
    · rw [empty, List.append_nil] at overlaps
      exact missing (overlaps ▸ List.infix_rfl)
    · exact filled (List.append_left_eq_self.mp (whole ▸ overlaps.symm))

theorem IsUnbordered.cutFirst?_append {separator before : List Char}
    (unbordered : IsUnbordered separator) (missing : ¬separator <:+: before) (after : List Char) :
    cutFirst? separator (before ++ separator ++ after) = some (before, after) := by
  induction before with
  | nil =>
      rw [List.infix_nil] at missing
      cases separator with
      | nil => exact absurd rfl missing
      | cons s separator => simp [cutFirst?]
  | cons c before induction =>
      have elsewhere := unbordered.not_prefix_append missing (List.cons_ne_nil c before) after
      rw [← List.append_assoc, List.cons_append, List.cons_append,
        ← List.isPrefixOf_iff_prefix] at elsewhere
      rw [List.infix_cons_iff, not_or] at missing
      rw [List.cons_append, List.cons_append, cutFirst?, if_neg elsewhere, induction missing.2]
      rfl

theorem cutFirst?_append {separator : Char} {before : List Char} (missing : separator ∉ before)
    (after : List Char) :
    cutFirst? [separator] (before ++ separator :: after) = some (before, after) := by
  have cut := (isUnbordered_singleton separator).cutFirst?_append
    (fun inside => missing (inside.subset List.mem_cons_self)) after
  rwa [List.append_assoc] at cut

theorem cutFirst?_eq_none {separator : Char} {text : List Char} (missing : separator ∉ text) :
    cutFirst? [separator] text = none :=
  cutFirst?_eq_none_iff.mpr fun inside => missing (inside.subset List.mem_cons_self)

def cutLast? (separator : Char) : List Char → Option (List Char × List Char)
  | [] => none
  | c :: text =>
      match cutLast? separator text with
      | some (before, after) => some (c :: before, after)
      | none => if c = separator then some ([], text) else none

theorem cutLast?_eq_none_iff {separator : Char} {text : List Char} :
    cutLast? separator text = none ↔ separator ∉ text := by
  induction text with
  | nil => simp [cutLast?]
  | cons c text induction =>
      rw [cutLast?, List.mem_cons, not_or, ← induction]
      cases cutLast? separator text with
      | some parts => simp
      | none => simp [eq_comm]

theorem cutLast?_append {separator : Char} {after : List Char} (missing : separator ∉ after)
    (before : List Char) :
    cutLast? separator (before ++ separator :: after) = some (before, after) := by
  induction before with
  | nil => simp [cutLast?, cutLast?_eq_none_iff.mpr missing]
  | cons c before induction => rw [List.cons_append, cutLast?, induction]

theorem eq_append_of_cutLast? {separator : Char} {text before after : List Char}
    (cut : cutLast? separator text = some (before, after)) :
    text = before ++ separator :: after ∧ separator ∉ after := by
  induction text generalizing before with
  | nil => cases cut
  | cons c text induction =>
      rw [cutLast?] at cut
      cases later : cutLast? separator text with
      | some parts =>
          simp only [later] at cut
          cases cut
          obtain ⟨same, missing⟩ := induction later
          exact ⟨congrArg (c :: ·) same, missing⟩
      | none =>
          simp only [later] at cut
          split at cut
          case isTrue same =>
              cases cut
              exact ⟨same ▸ rfl, cutLast?_eq_none_iff.mp later⟩
          case isFalse => cases cut

def occurs (pattern : List Char) : List Char → Bool
  | [] => pattern.isEmpty
  | c :: text => pattern.isPrefixOf (c :: text) || occurs pattern text

end Courier.Text
