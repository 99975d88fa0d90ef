import Courier.Proofs.Envelope.Fields
import Courier.Proofs.Envelope.Passing

/-! Which texts are read as envelopes, and as which. Of an object the members that name fields count, and
not how it is laid out. A list with the values of the fields in their order is read as well. What is no
JSON text is not read at all. -/

namespace Courier.Envelope

open Json (Blank HexDigit Piece Value Spells Separated MemberOf IsText skipBlanks)

section

variable {value : Value} {bytes before after rest : List UInt8} {e : Envelope}
  {members : List (List Char × Value)}

theorem blank_of_skipBlanks (nothing : skipBlanks rest = []) : Blank rest := by
  obtain ⟨before, blank, same⟩ := Json.eq_append_skipBlanks rest
  rw [nothing, List.append_nil] at same
  exact same ▸ blank

theorem skipBlanks_of_blank (blank : Blank rest) : skipBlanks rest = [] := by
  have same := Json.skipBlanks_append blank []
  rw [List.append_nil] at same
  exact same

theorem decode_eq_ok_iff :
    decode bytes = .ok e ↔ ∃ rest, read bytes = .ok (e, rest) ∧ Blank rest := by
  unfold decode
  simp only
  split
  case h_1 failed => simp [failed]
  case h_2 found rest done =>
    rw [done]
    split
    case h_1 nothing =>
      constructor
      · rintro ⟨rfl⟩
        exact ⟨rest, rfl, blank_of_skipBlanks nothing⟩
      · rintro ⟨_, same, -⟩
        cases same
        rfl
    case h_2 visible =>
      constructor
      · rintro ⟨⟩
      · rintro ⟨_, same, blank⟩
        cases same
        rw [skipBlanks_of_blank blank] at visible
        cases visible

theorem decode_object (text : IsText (.object (named members)) bytes) :
    decode bytes = .ok e ↔ Describes members e := by
  rw [← finish_foldlM_iff, decode_eq_ok_iff]
  cases text with
  | @mk before inner after blank spelled blank' =>
      have done := read_object blank spelled after
      cases folded : (named members).foldlM Draft.accept Draft.empty with
      | none =>
          rw [folded] at done
          obtain ⟨failure, failed⟩ := toOption_eq_none_iff.mp done
          rw [failed]
          simp
      | some draft =>
          rw [folded] at done
          rw [toOption_eq_some_iff.mp done, Option.map_some]
          constructor
          · rintro ⟨_, same, -⟩
            cases same
            rfl
          · rintro ⟨rfl⟩
            exact ⟨after, rfl, blank'⟩

theorem isText_of_decode (encoded : Text.IsEncoded bytes) (done : decode bytes = .ok e) :
    ∃ value, IsText value bytes := by
  obtain ⟨rest, found, blank⟩ := decode_eq_ok_iff.mp done
  obtain ⟨before, value, spelled, blank', isSpelled, rfl⟩ :=
    Json.eq_of_skipValue encoded (skipValue_of_read found).1
  exact ⟨value, .mk blank' isSpelled blank⟩

theorem endsAt_of_bracket {b : UInt8} {tail : List UInt8} (spelled : Spells value (b :: tail))
    (bracket : b = Json.openObject ∨ b = Json.openList) (rest : List UInt8) : value.EndsAt rest := by
  cases value with
  | number numeral =>
      cases spelled with
      | number valid =>
          obtain ⟨_, _, ⟨rfl⟩, -, far⟩ := valid.head
          rcases bracket with same | same
          · exact absurd same (far _ (by decide))
          · exact absurd same (far _ (by decide))
  | _ => trivial

theorem blank_of_decode (text : IsText value bytes) (done : decode (bytes ++ rest) = .ok e) :
    Blank rest := by
  obtain ⟨last, found, blank⟩ := decode_eq_ok_iff.mp done
  obtain ⟨skipped, b, tail, visible, bracket⟩ := skipValue_of_read found
  cases text with
  | @mk before inner after blankBefore spelled blankAfter =>
      have split : before ++ inner ++ after ++ rest = before ++ (inner ++ (after ++ rest)) := by simp
      rw [split] at skipped visible
      obtain ⟨b', tail', rfl, starts⟩ := spelled.head
      have first : b' = b := by
        rw [List.cons_append, Json.skipBlanks_append_cons blankBefore starts.visible] at visible
        exact (List.cons.inj visible).1
      rw [Json.skipValue, Json.skipFrom_blank blankBefore,
        spelled.passes [] _ (endsAt_of_bracket spelled (first ▸ bracket) _), Json.skipFrom_done] at skipped
      cases skipped
      exact fun b member => blank b (List.mem_append_right after member)

/-- An object is read if no field is given twice and each value fits its field, and then as what its
members say, in whatever layout and order, and among whatever other members. A text that is no JSON
text is not read, and neither is one in which more than blanks follows. -/
theorem decode_any_layout :
    (∀ members bytes, IsText (.object (named members)) bytes →
      (∀ e, decode bytes = .ok e ↔ Describes members e) ∧
      ((∃ e, decode bytes = .ok e) ↔
        ∀ field, values members field = [] ∨
          ∃ value, values members field = [value] ∧ Fits field value) ∧
      ∀ members' bytes', IsText (.object (named members')) bytes' →
        (∀ field, values members' field = values members field) →
          ∀ e, decode bytes' = .ok e ↔ decode bytes = .ok e) ∧
    (∀ text e, decode (Text.encode text) = .ok e → ∃ value, IsText value (Text.encode text)) ∧
    (∀ value bytes rest e, IsText value bytes → decode (bytes ++ rest) = .ok e → Blank rest) := by
  refine ⟨fun members bytes text => ⟨fun e => decode_object text, ?_, ?_⟩,
    fun text e => isText_of_decode ⟨text, rfl⟩, fun value bytes rest e => blank_of_decode⟩
  · rw [← exists_describes_iff]
    exact exists_congr fun e => decode_object text
  · intro members' bytes' text' same e
    rw [decode_object text, decode_object text']
    exact describes_congr same

end

private def letters (text : String) : List Piece :=
  text.toList.filterMap fun c =>
    if plain : Json.isPlainChar c = true then some (.plain c plain) else none

private def zero : HexDigit := ⟨48, 0, rfl⟩
private def three : HexDigit := ⟨51, 3, rfl⟩
private def four : HexDigit := ⟨52, 4, rfl⟩
private def five : HexDigit := ⟨53, 5, rfl⟩
private def eight : HexDigit := ⟨56, 8, rfl⟩
private def d : HexDigit := ⟨100, 13, rfl⟩

private def scattered : List UInt8 :=
  Text.bytesOf " \x7b \"x\": [ \x7b\x7d ,\"\\ud83d\"] ,\"\\u0054opic\" :\"a\\n😀\",\"Message\":\"aGk=\"\x7d "

private def scatteredMembers : List (List Char × Value) :=
  [(['x'], .list [.object [], .text none]), (Field.topic.name.toList, .text (some ['a', '\n', '😀'])),
    (Field.message.name.toList, .text (some ['a', 'G', 'k', '=']))]

private theorem isText_scattered : IsText (.object (named scatteredMembers)) scattered := by
  have space : Blank [32] := List.forall_mem_singleton.mpr rfl
  have lone : Json.textOf? [.unit ⟨d, eight, three, d⟩] = none := by
    decide +kernel
  have escaped : Json.textOf? (.unit ⟨zero, zero, five, four⟩ :: letters "opic") =
      some Field.topic.name.toList := by
    decide +kernel
  have x : MemberOf Spells (some ['x'], .list [.object [], .text none]) _ :=
    .named (letters "x") rfl Json.blank_nil space
      (.list space (.more (.emptyObject Json.blank_nil) space Json.blank_nil
        (.last (.string _ lone) Json.blank_nil)))
  have topic : MemberOf Spells (some Field.topic.name.toList, .text (some ['a', '\n', '😀'])) _ :=
    .named _ escaped space Json.blank_nil
      (.string (letters "a" ++ .short 110 '\n' rfl :: letters "😀") rfl)
  have message : MemberOf Spells
      (some Field.message.name.toList, .text (some ['a', 'G', 'k', '='])) _ :=
    .named (letters "Message") rfl Json.blank_nil Json.blank_nil
      (.string (letters "aGk=") rfl)
  have text := IsText.mk space (.object space (.more x space Json.blank_nil
    (.more topic Json.blank_nil Json.blank_nil (.last message Json.blank_nil)))) space
  obtain ⟨bytes, text, same⟩ : ∃ bytes, IsText (.object (named scatteredMembers)) bytes ∧
      bytes = scattered := ⟨_, text, by decide +kernel⟩
  exact same ▸ text

/-- The members of the object are in another order, one of the names and a text are escaped, and
half a pair of surrogates stands in a member that is no field. -/
theorem decode_any_layout_where_scattered :
    IsText (.object (named scatteredMembers)) scattered ∧
      decode scattered = .ok ⟨"", "a\n😀", [104, 105], ""⟩ ∧
        ∀ e, decode (scattered ++ [120]) ≠ .ok e := by
  have text := isText_scattered
  have describes : Describes scatteredMembers ⟨"", "a\n😀", [104, 105], ""⟩ := by
    refine ⟨.inl ⟨?_, rfl⟩, .inr ?_, .inr ⟨['a', 'G', 'k', '='], ?_, ?_⟩, .inl ⟨?_, rfl⟩⟩
    all_goals rfl
  refine ⟨text, ((decode_any_layout.1 _ _ text).1 _).mpr describes, fun e done => ?_⟩
  have blank := decode_any_layout.2.2 _ _ _ _ text done
  exact absurd (blank 120 List.mem_cons_self) (by decide)

end Courier.Envelope
