/-! A list of parts of which one moves: how many of the parts have a property, what they have all
together, and how the parts are related to those of another list, place by place. -/

namespace Courier

variable {α : Type} {parts : List α} {place : Nat} {part part' : α}

theorem getElem?_set_of_getElem? (present : parts[place]? = some part) :
    (parts.set place part')[place]? = some part' := by
  obtain ⟨bound, _⟩ := List.getElem?_eq_some_iff.mp present
  exact List.getElem?_set_self bound

theorem countP_set_add (p : α → Bool) (present : parts[place]? = some part) (part' : α) :
    (parts.set place part').countP p + (p part).toNat =
      parts.countP p + (p part').toNat := by
  induction parts generalizing place with
  | nil => cases present
  | cons head tail induction =>
      cases place with
      | zero =>
          cases present
          simp only [List.set_cons_zero, List.countP_cons]
          cases p part <;> cases p part' <;> simp
      | succ place =>
          have counted := induction present
          simp only [List.set_cons_succ, List.countP_cons]
          omega

theorem count_flatMap_set_add {β : Type} [BEq β] (f : α → List β)
    (present : parts[place]? = some part) (part' : α) (value : β) :
    ((parts.set place part').flatMap f).count value + (f part).count value =
      (parts.flatMap f).count value + (f part').count value := by
  induction parts generalizing place with
  | nil => cases present
  | cons head tail induction =>
      cases place with
      | zero =>
          cases present
          simp only [List.set_cons_zero, List.flatMap_cons, List.count_append]
          omega
      | succ place =>
          have counted := induction present
          simp only [List.set_cons_succ, List.flatMap_cons, List.count_append]
          omega

structure Alongside {β : Type} (Related : α → β → Prop) (parts : List α) (others : List β) :
    Prop where
  length : others.length = parts.length
  related : ∀ (place : Nat) (part : α) (other : β), parts[place]? = some part →
    others[place]? = some other → Related part other

namespace Alongside

variable {β : Type} {Related : α → β → Prop} {others : List β} {other other' : β}

theorem nil : Alongside Related [] [] := ⟨rfl, nofun⟩

theorem append (alongside : Alongside Related parts others) (related : Related part other) :
    Alongside Related (parts ++ [part]) (others ++ [other]) where
  length := by simp [alongside.length]
  related := by
    intro place part' other' present present'
    rw [List.getElem?_append] at present present'
    rw [alongside.length] at present'
    split at present
    case isTrue earlier =>
        rw [if_pos earlier] at present'
        exact alongside.related place part' other' present present'
    case isFalse later =>
        rw [if_neg later] at present'
        have last := List.mem_singleton.mp (List.mem_of_getElem? present)
        have last' := List.mem_singleton.mp (List.mem_of_getElem? present')
        exact last ▸ last' ▸ related

theorem set (alongside : Alongside Related parts others) (related : Related part' other') :
    Alongside Related (parts.set place part') (others.set place other') where
  length := by simp [alongside.length]
  related := by
    intro place' part other present present'
    by_cases same : place = place'
    · subst same
      rw [List.getElem?_set] at present present'
      rw [if_pos rfl] at present present'
      split at present
      case isTrue bound =>
          rw [if_pos (alongside.length ▸ bound)] at present'
          cases present
          cases present'
          exact related
      case isFalse => cases present
    · rw [List.getElem?_set_ne same] at present present'
      exact alongside.related place' part other present present'

theorem set_left (alongside : Alongside Related parts others)
    (present : others[place]? = some other) (related : Related part' other) :
    Alongside Related (parts.set place part') others := by
  obtain ⟨bound, same⟩ := List.getElem?_eq_some_iff.mp present
  have kept : others.set place other = others := by
    rw [← same]
    exact List.set_getElem_self bound
  exact kept ▸ alongside.set related

theorem set_right (alongside : Alongside Related parts others)
    (present : parts[place]? = some part) (related : Related part other') :
    Alongside Related parts (others.set place other') := by
  obtain ⟨bound, same⟩ := List.getElem?_eq_some_iff.mp present
  have kept : parts.set place part = parts := by
    rw [← same]
    exact List.set_getElem_self bound
  exact kept ▸ alongside.set related

theorem exists_other (alongside : Alongside Related parts others)
    (present : parts[place]? = some part) :
    ∃ other, others[place]? = some other ∧ Related part other := by
  obtain ⟨bound, _⟩ := List.getElem?_eq_some_iff.mp present
  rw [← alongside.length] at bound
  have present' := List.getElem?_eq_getElem bound
  exact ⟨_, present', alongside.related place part _ present present'⟩

theorem exists_at (alongside : Alongside Related parts others)
    (present : others[place]? = some other) :
    ∃ part, parts[place]? = some part ∧ Related part other := by
  obtain ⟨bound, _⟩ := List.getElem?_eq_some_iff.mp present
  rw [alongside.length] at bound
  have present' := List.getElem?_eq_getElem bound
  exact ⟨_, present', alongside.related place _ other present' present⟩

theorem exists_part (alongside : Alongside Related parts others) (member : other ∈ others) :
    ∃ part ∈ parts, Related part other := by
  obtain ⟨place, bound, same⟩ := List.mem_iff_getElem.mp member
  have bound' : place < parts.length := alongside.length ▸ bound
  refine ⟨parts[place], List.getElem_mem bound', ?_⟩
  rw [← same]
  exact alongside.related place _ _ (List.getElem?_eq_getElem bound')
    (List.getElem?_eq_getElem bound)

end Alongside

end Courier
