import Courier.Proofs.Text.Utf8
import Courier.Text.Class
import Mathlib.Data.List.Basic

/-! Cutting a text: at a place that is counted in bytes, and where its outer blanks end. A place within
a character is none at which a text can be cut; the place where a character starts is one. -/

namespace Courier.Text

def offset (property : Char → Bool) : List Char → Nat
  | [] => 0
  | c :: text => if property c then 0 else (encodeChar c).length + offset property text

/-- The texts before and after a place, if the bytes on either side are texts. -/
def splitAt? (place : Nat) (text : List Char) : Option (List Char × List Char) :=
  if place ≤ (encode text).length then
    (decode? ((encode text).take place)).bind fun before =>
      (decode? ((encode text).drop place)).map fun after => (before, after)
  else none

theorem offset_eq (property : Char → Bool) (text : List Char) :
    offset property text = (encode (text.takeWhile (!property ·))).length := by
  induction text with
  | nil => rfl
  | cons c text induction =>
      rw [offset, List.takeWhile_cons]
      cases property c with
      | true => rfl
      | false => simp [induction]

theorem splitAt?_length (before after : List Char) :
    splitAt? (encode before).length (before ++ after) = some (before, after) := by
  simp [splitAt?, decode?_encode]

theorem splitAt?_offset (property : Char → Bool) (text : List Char) :
    splitAt? (offset property text) text =
      some (text.takeWhile (!property ·), text.dropWhile (!property ·)) := by
  have cut := splitAt?_length (text.takeWhile (!property ·)) (text.dropWhile (!property ·))
  rwa [List.takeWhile_append_dropWhile, ← offset_eq] at cut

example : splitAt? 1 ['µ', 's'] = none := by decide +kernel

def IsPadding (text : List Char) : Prop := ∀ c ∈ text, isBlank c = true

/-- `Surrounds text body`: there are only blanks around `body`. -/
def Surrounds (text body : List Char) : Prop :=
  ∃ before after, text = before ++ body ++ after ∧ IsPadding before ∧ IsPadding after

def IsTrimmed (text : List Char) : Prop :=
  (∃ c rest, text = c :: rest ∧ isBlank c = false) ∧
    ∃ c rest, text = rest ++ [c] ∧ isBlank c = false

section

variable {text body : List Char}

theorem isPadding_takeWhile (text : List Char) : IsPadding (text.takeWhile isBlank) :=
  fun _ member => List.all_eq_true.mp List.all_takeWhile _ member

theorem IsPadding.reverse (padding : IsPadding text) : IsPadding text.reverse :=
  fun c member => padding c (List.mem_reverse.mp member)

theorem surrounds_trim (text : List Char) : Surrounds text (trim text) := by
  refine ⟨text.takeWhile isBlank, ((text.dropWhile isBlank).reverse.takeWhile isBlank).reverse, ?_,
    isPadding_takeWhile text, (isPadding_takeWhile _).reverse⟩
  rw [trim, List.append_assoc, ← List.reverse_append, List.takeWhile_append_dropWhile,
    List.reverse_reverse, List.takeWhile_append_dropWhile]

theorem dropWhile_padding (padding : IsPadding text) {c : Char} (visible : isBlank c = false)
    (rest : List Char) :
    (text ++ c :: rest).dropWhile isBlank = c :: rest := by
  rw [List.dropWhile_append_of_pos padding, List.dropWhile_cons_of_neg (by simp [visible])]

theorem IsTrimmed.trim_eq (trimmed : IsTrimmed body) (surrounds : Surrounds text body) :
    trim text = body := by
  obtain ⟨before, after, rfl, leading, trailing⟩ := surrounds
  obtain ⟨⟨first, rest, same, visible⟩, last, front, same', visible'⟩ := trimmed
  have start : (before ++ body ++ after).dropWhile isBlank = body ++ after := by
    rw [same, List.append_assoc, List.cons_append, dropWhile_padding leading visible]
  have finish : (body ++ after).reverse.dropWhile isBlank = body.reverse := by
    rw [same', List.reverse_append, List.reverse_append, List.reverse_singleton,
      List.singleton_append, dropWhile_padding trailing.reverse visible']
  rw [trim, start, finish, List.reverse_reverse]

end

end Courier.Text
