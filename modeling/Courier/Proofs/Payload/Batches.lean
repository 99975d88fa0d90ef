import Courier.Proofs.Text.Utf8
import Courier.Publishing.Publication

/-! The messages of a batch. The numbers in a message end where no digit follows, and its suffix ends
after so many digits, so that each part is told from the next, whatever the body is. -/

namespace Courier

namespace Payload.Batch

section Numbers

variable {m n : Nat} {c d : Char} {rest rest' : List Char}

theorem readNumber_digits (n : Nat) (other : c.isDigit = false) (rest : List Char) :
    readNumber (Number.digits n ++ c :: rest) = some (n, c :: rest) := by
  have digits : ∀ digit ∈ Number.digits n, digit.isDigit = true :=
    fun _ member => Nat.isDigit_of_mem_toDigits (by decide) (by decide) member
  have taken : (Number.digits n ++ c :: rest).takeWhile Char.isDigit = Number.digits n := by
    rw [List.takeWhile_append_of_pos digits, List.takeWhile_cons, other]
    simp
  have left : (Number.digits n ++ c :: rest).dropWhile Char.isDigit = c :: rest := by
    rw [List.dropWhile_append_of_pos digits, List.dropWhile_cons, other]
    simp
  have filled : (Number.digits n).isEmpty = false :=
    List.isEmpty_eq_false_iff.mpr Nat.toDigits_ne_nil
  have value : (Number.digits n).foldl (fun n c => 10 * n + (c.toNat - 48)) 0 = n :=
    Nat.ofDigitChars_toDigits (by decide) (by decide)
  simp only [readNumber, taken, left, filled, value, Bool.false_eq_true, if_false]

theorem eq_of_digits_append (other : c.isDigit = false) (other' : d.isDigit = false)
    (same : Number.digits m ++ c :: rest = Number.digits n ++ d :: rest') :
    m = n ∧ c :: rest = d :: rest' := by
  have read := congrArg readNumber same
  rw [readNumber_digits m other, readNumber_digits n other'] at read
  exact Prod.mk.inj (Option.some.inj read)

end Numbers

variable {batch batch' : Batch}

theorem text_eq (batch : Batch) :
    batch.text =
      '[' :: (Number.digits batch.nanos ++ ' ' :: (Number.digits batch.suffixLength ++
        ']' :: ' ' :: (Number.digits batch.number ++
          ' ' :: '-' :: ' ' :: (batch.suffix ++ ' ' :: batch.body)))) := by
  simp [text]

theorem ofText?_text (digits : ∀ c ∈ batch.suffix, isSuffixDigit c = true)
    (filled : batch.suffix ≠ []) : ofText? batch.text = some batch := by
  have taken : (batch.suffix ++ ' ' :: batch.body).takeWhile isSuffixDigit = batch.suffix := by
    rw [List.takeWhile_append_of_pos digits, List.takeWhile_cons_of_neg (by decide),
      List.append_nil]
  have left :
      (batch.suffix ++ ' ' :: batch.body).dropWhile isSuffixDigit = ' ' :: batch.body := by
    rw [List.dropWhile_append_of_pos digits, List.dropWhile_cons_of_neg (by decide)]
  rw [text_eq]
  simp only [ofText?, readNumber_digits _ (show ' '.isDigit = false by decide),
    readNumber_digits _ (show ']'.isDigit = false by decide), taken, left]
  rw [if_neg (by simpa using filled)]

theorem eq_of_text (length : batch.suffix.length = batch'.suffix.length)
    (same : batch.text = batch'.text) : batch = batch' := by
  rw [text_eq, text_eq, List.cons.injEq] at same
  obtain ⟨nanos, same⟩ := eq_of_digits_append (by decide) (by decide) same.2
  rw [List.cons.injEq] at same
  obtain ⟨suffixLength, same⟩ := eq_of_digits_append (by decide) (by decide) same.2
  rw [List.cons.injEq, List.cons.injEq] at same
  obtain ⟨number, same⟩ := eq_of_digits_append (by decide) (by decide) same.2.2
  rw [List.cons.injEq, List.cons.injEq, List.cons.injEq] at same
  obtain ⟨suffix, same⟩ := List.append_inj same.2.2.2 length
  have body := (List.cons.inj same).2
  cases batch
  cases batch'
  rw [mk.injEq]
  exact ⟨nanos, suffixLength, number, suffix, body⟩

structure OnlyReading (payload : List UInt8) (batch : Batch) : Prop where
  read : ofBytes? payload = some batch
  written : payload = Text.encode batch.text
  only : ∀ other : Batch, other.suffix.length = batch.suffix.length →
    payload = Text.encode other.text → other = batch

private theorem isSuffixDigit_hexDigit : ∀ n < 16, isSuffixDigit (Text.hexDigit n) = true := by
  decide

theorem ofBytes?_make (nanos index : Nat) {random : List UInt8} (filled : random ≠ [])
    (template : String) :
    ofBytes? (Text.encode (make nanos index random template).text) =
      some (make nanos index random template) := by
  rw [ofBytes?, Text.decode?_encode, Option.bind_some]
  apply ofText?_text
  · intro c member
    obtain ⟨n, small, rfl⟩ := Text.exists_of_mem_hex member
    exact isSuffixDigit_hexDigit n small
  · exact Text.hex_ne_nil filled

theorem onlyReading_make (nanos index : Nat) {random : List UInt8} (filled : random ≠ [])
    (template : String) :
    OnlyReading (Text.encode (make nanos index random template).text)
      (make nanos index random template) where
  read := ofBytes?_make nanos index filled template
  written := rfl
  only _ length same := eq_of_text length (Text.encode_injective same).symm

end Payload.Batch

namespace Publication

variable {p : Publication}

theorem payload_of_batch (many : p.count ≠ 1) (plain : p.dataSize = none) (nanos index : Nat) :
    p.payload nanos index =
      Text.encode
        (Payload.Batch.make nanos index (p.draw index Payload.suffixBytes) p.template).text := by
  rw [payload, plain]
  simp only [many, if_false]

theorem length_draw (p : Publication) (index size : Nat) : (p.draw index size).length = size := by
  rw [draw, List.length_map, List.length_range]

/-- Whatever the clock says and whichever random bytes are drawn, each message of a batch reads
back as its number, its suffix and its body, and no two messages are the same. -/
theorem batch_messages_told_apart (many : p.count ≠ 1) (plain : p.dataSize = none)
    (clock : Nat → Nat) :
    Function.Injective (fun index => p.payload (clock index) index) ∧
    ∀ index,
      (Text.hex (p.draw index 4)).length = 8 ∧
        Payload.Batch.OnlyReading (p.payload (clock index) index)
          { nanos := clock index
            suffixLength := 8
            number := index + 1
            suffix := Text.hex (p.draw index 4)
            body := (if p.template = "" then "XXX" else p.template).toList } := by
  have drawn (index : Nat) : p.draw index Payload.suffixBytes ≠ [] :=
    List.ne_nil_of_length_pos (by rw [length_draw]; decide)
  constructor
  · intro index index' same
    have read := congrArg Payload.Batch.ofBytes? same
    simp only [payload_of_batch many plain, Payload.Batch.ofBytes?_make _ _ (drawn _),
      Option.some.injEq] at read
    exact Nat.succ.inj (congrArg Payload.Batch.number read)
  · intro index
    have length : (Text.hex (p.draw index 4)).length = 8 := by rw [Text.hex_length, length_draw]
    have made :
        Payload.Batch.make (clock index) index (p.draw index Payload.suffixBytes) p.template =
          ⟨clock index, 8, index + 1, Text.hex (p.draw index 4),
            (if p.template = "" then "XXX" else p.template).toList⟩ := by
      rw [Payload.Batch.make, Payload.suffixBytes, length]
      simp only [String.isEmpty_iff]
      rfl
    refine ⟨length, ?_⟩
    rw [payload_of_batch many plain, ← made]
    exact Payload.Batch.onlyReading_make (clock index) index (drawn index) p.template

private def imitating : Publication where
  topic := "news"
  template := "[5 8] 2 - 00000000 x"
  count := 2
  sender := ""
  records := false
  dataSize := none
  sleep := .zero
  random := fun _ _ => 0

theorem batch_messages_told_apart_where_imitating :
    imitating.count ≠ 1 ∧ imitating.dataSize = none ∧
      imitating.payload 5 0 = Text.bytesOf "[5 8] 1 - 00000000 [5 8] 2 - 00000000 x" ∧
        Payload.Batch.ofBytes? (imitating.payload 5 0) =
            some ⟨5, 8, 1, "00000000".toList, "[5 8] 2 - 00000000 x".toList⟩ ∧
          imitating.payload 5 0 ≠ imitating.payload 5 1 := by
  have many : imitating.count ≠ 1 := by decide
  obtain ⟨apart, readings⟩ := batch_messages_told_apart many rfl fun _ => 5
  refine ⟨many, rfl, by decide, (readings 0).2.read, ?_⟩
  exact fun same => absurd (apart same) (by decide)

end Publication

end Courier
