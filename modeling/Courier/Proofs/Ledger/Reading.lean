import Courier.Envelope.Basic
import Courier.Ledger
import Courier.Number.Printer
import Courier.Proofs.Address.Quads

/-! How a ledger is read: a line break ends each of its records, and tabs part the fields of a
record. A receipt reads as one record, but where the tag in the message itself has such a character.
-/

namespace Courier

namespace Ledger

def isSeparator (c : Char) : Bool := c = '\t' || c = '\n'

def IsPlain (text : List Char) : Prop := ∀ c ∈ text, isSeparator c = false

instance (text : List Char) : Decidable (IsPlain text) :=
  decidable_of_iff (text.all (!isSeparator ·)) <| by
    simp only [IsPlain, List.all_eq_true, Bool.not_eq_true']

def recordsIn (text : List Char) : List (List (List Char)) :=
  (text.splitOn '\n').map (·.splitOn '\t')

/-- The records of a file. No record comes after its last line break. -/
def recordsOf (content : String) : List (List (List Char)) :=
  ((content.toList.splitOn '\n').dropLast).map (·.splitOn '\t')

/-- What the ledger is to tell of a message: who received it, who published it, its length and its
digest. -/
def receipt (receiver : String) (message : List UInt8) : List (List Char) :=
  [receiver.toList, Envelope.publisherOf message, Number.digits message.length,
    Digest.sha256Hex message]

def lineOf (receiver : String) (message : List UInt8) : String :=
  receiveLine receiver (String.ofList (Envelope.publisherOf message)) message

section Fields

private theorem tab_eq : toString "\t" = "\t" := rfl

theorem publishLine_eq_intercalate (sender : String) (payload : List UInt8) :
    publishLine sender payload =
      "\t".intercalate
        [sender, toString payload.length, String.ofList (Digest.sha256Hex payload)] := by
  simp [publishLine, tab_eq, String.append_assoc]

theorem receiveLine_eq_intercalate (receiver publisher : String) (message : List UInt8) :
    receiveLine receiver publisher message =
      "\t".intercalate [receiver, publisher, toString message.length,
        String.ofList (Digest.sha256Hex message)] := by
  simp [receiveLine, tab_eq, String.append_assoc]

end Fields

end Ledger

/-- A message names no address, and the tag that it is signed with has a tab or a line break in it.
-/
def Envelope.IsGarbled (message : List UInt8) : Prop :=
  Address.findQuad (Text.decodeLossy message) = none ∧
    ∃ tag digits, Text.decodeLossy message = tag ++ '-' :: digits ∧ digits ≠ [] ∧
      (∀ c ∈ digits, Text.isHexDigit c = true) ∧ ∃ c ∈ tag, Ledger.isSeparator c = true

namespace Ledger

section Reading

variable {text : List Char}

theorem length_splitOn (c : Char) (text : List Char) :
    (text.splitOn c).length = text.count c + 1 := by
  induction text with
  | nil => simp
  | cons d text induction =>
      rw [List.splitOn_eq_splitOnP] at induction ⊢
      rw [List.splitOnP_cons_eq_if_modifyHead, List.count_cons]
      split
      · rw [List.length_cons, induction]
      · rw [List.length_modifyHead, induction]

theorem length_recordsIn (text : List Char) : (recordsIn text).length = text.count '\n' + 1 := by
  rw [recordsIn, List.length_map, length_splitOn]

theorem recordsIn_of_single (single : text.count '\n' = 0) :
    recordsIn text = [text.splitOn '\t'] := by
  rw [recordsIn, List.splitOn_eq_singleton (List.count_eq_zero.mp single), List.map_singleton]

theorem recordsOf_join (lines : List String) :
    recordsOf (String.join (lines.map (· ++ "\n"))) =
      lines.flatMap fun line => recordsIn line.toList := by
  have read : (String.join (lines.map (· ++ "\n"))).toList.splitOn '\n' =
      (lines.flatMap fun line => line.toList.splitOn '\n') ++ [[]] := by
    induction lines with
    | nil => simp
    | cons line lines induction =>
        rw [String.toList_join] at induction ⊢
        rw [List.map_cons, List.flatMap_cons, String.toList_append, List.append_assoc,
          List.flatMap_cons, List.append_assoc, ← induction]
        exact List.splitOn_append_cons_self ..
  rw [recordsOf, read, List.dropLast_concat, List.map_flatMap]
  rfl

end Reading

section Plain

variable {text : List Char}

theorem isSeparator_iff {c : Char} : isSeparator c = true ↔ c = '\t' ∨ c = '\n' := by
  rw [isSeparator, Bool.or_eq_true, decide_eq_true_eq, decide_eq_true_eq]

theorem IsPlain.count_tab (plain : IsPlain text) : text.count '\t' = 0 :=
  List.count_eq_zero.mpr fun member => absurd (plain _ member) (by decide)

theorem IsPlain.count_break (plain : IsPlain text) : text.count '\n' = 0 :=
  List.count_eq_zero.mpr fun member => absurd (plain _ member) (by decide)

theorem isPlain_iff : IsPlain text ↔ text.count '\t' = 0 ∧ text.count '\n' = 0 := by
  constructor
  · intro plain
    exact ⟨plain.count_tab, plain.count_break⟩
  · rintro ⟨tabs, breaks⟩ c member
    rw [List.count_eq_zero] at tabs breaks
    refine Bool.eq_false_iff.mpr fun separates => ?_
    rcases isSeparator_iff.mp separates with rfl | rfl
    · exact tabs member
    · exact breaks member

theorem isPlain_digits (n : Nat) : IsPlain (Number.digits n) := by
  intro c member
  have digit := Nat.isDigit_of_mem_toDigits (by decide) (by decide) member
  refine Bool.eq_false_iff.mpr fun separates => ?_
  rcases isSeparator_iff.mp separates with rfl | rfl <;> exact absurd digit (by decide)

private theorem isPlain_hexDigit : ∀ n < 16, isSeparator (Text.hexDigit n) = false := by decide

theorem isPlain_hex (bytes : List UInt8) : IsPlain (Text.hex bytes) := by
  intro c member
  obtain ⟨n, small, rfl⟩ := Text.exists_of_mem_hex member
  exact isPlain_hexDigit n small

theorem isPlain_quad {quad : List Char} (found : Address.findQuad text = some quad) :
    IsPlain quad := by
  intro c member
  refine Bool.eq_false_iff.mpr fun separates => ?_
  have char := (Address.isQuad_of_findQuad found).char_of_mem member
  rcases isSeparator_iff.mp separates with rfl | rfl <;> exact absurd char (by decide)

theorem isGarbled_iff {message : List UInt8} :
    Envelope.IsGarbled message ↔
      Address.findQuad (Text.decodeLossy message) = none ∧
        ∃ tag, Envelope.signature? (Text.decodeLossy message) = some tag ∧
          ∃ c ∈ tag, isSeparator c = true := by
  simp only [Envelope.IsGarbled, Envelope.signature?_eq_some_iff]
  refine and_congr_right fun _ => exists_congr fun tag => ?_
  constructor
  · rintro ⟨digits, same, filled, hex, separated⟩
    exact ⟨⟨digits, same, filled, hex⟩, separated⟩
  · rintro ⟨⟨digits, same, filled, hex⟩, separated⟩
    exact ⟨digits, same, filled, hex, separated⟩

theorem isPlain_publisherOf {message : List UInt8} :
    IsPlain (Envelope.publisherOf message) ↔ ¬ Envelope.IsGarbled message := by
  rw [isGarbled_iff]
  cases named : Address.findQuad (Text.decodeLossy message) with
  | some quad =>
      have publisher : Envelope.publisherOf message = quad := by
        simp [Envelope.publisherOf, named]
      rw [publisher]
      exact ⟨nofun, fun _ => isPlain_quad named⟩
  | none =>
      cases signed : Envelope.signature? (Text.decodeLossy message) with
      | some tag =>
          have publisher : Envelope.publisherOf message = tag := by
            simp [Envelope.publisherOf, named, signed]
          rw [publisher]
          simp [IsPlain]
      | none =>
          have publisher : Envelope.publisherOf message = [] := by
            simp [Envelope.publisherOf, named, signed]
          rw [publisher]
          simp [IsPlain]

end Plain

section Receipts

variable {receiver : String} {message : List UInt8}

theorem toList_lineOf (receiver : String) (message : List UInt8) :
    (lineOf receiver message).toList =
      receiver.toList ++ '\t' :: (Envelope.publisherOf message ++
        '\t' :: (Number.digits message.length ++ '\t' :: Digest.sha256Hex message)) := by
  have tab : (toString "\t").toList = ['\t'] := rfl
  simp [lineOf, receiveLine, tab, Number.digits]

theorem lineOf_eq_intercalate (receiver : String) (message : List UInt8) :
    (lineOf receiver message).toList = ['\t'].intercalate (receipt receiver message) := by
  rw [toList_lineOf]
  simp [receipt, List.intercalate]

variable (plain : IsPlain receiver.toList)
include plain

theorem count_tab_lineOf :
    (lineOf receiver message).toList.count '\t' =
      (Envelope.publisherOf message).count '\t' + 3 := by
  rw [toList_lineOf]
  simp only [List.count_append, List.count_cons_self, plain.count_tab,
    (isPlain_digits message.length).count_tab, Digest.sha256Hex, (isPlain_hex _).count_tab]
  omega

theorem count_break_lineOf :
    (lineOf receiver message).toList.count '\n' =
      (Envelope.publisherOf message).count '\n' := by
  have tab : ('\t' == '\n') = false := by decide
  rw [toList_lineOf]
  simp only [List.count_append, List.count_cons, tab, plain.count_break,
    (isPlain_digits message.length).count_break, Digest.sha256Hex, (isPlain_hex _).count_break]
  simp

theorem recordsIn_lineOf_of_plain (unbroken : IsPlain (Envelope.publisherOf message)) :
    recordsIn (lineOf receiver message).toList = [receipt receiver message] := by
  have single : (lineOf receiver message).toList.count '\n' = 0 := by
    rw [count_break_lineOf plain]
    exact unbroken.count_break
  rw [recordsIn_of_single single, lineOf_eq_intercalate, List.splitOn_intercalate]
  · intro field member tab
    have fields : ∀ field ∈ receipt receiver message, IsPlain field := by
      simp only [receipt, List.forall_mem_cons]
      exact ⟨plain, unbroken, isPlain_digits _, isPlain_hex _, List.forall_mem_nil _⟩
    exact absurd (fields field member _ tab) (by decide)
  · exact nofun

theorem isPlain_of_recordsIn_lineOf {record : List (List Char)}
    (read : recordsIn (lineOf receiver message).toList = [record]) (fields : record.length = 4) :
    IsPlain (Envelope.publisherOf message) := by
  have breaks := length_recordsIn (lineOf receiver message).toList
  rw [read, count_break_lineOf plain, List.length_singleton] at breaks
  have single : (lineOf receiver message).toList.count '\n' = 0 := by
    rw [count_break_lineOf plain]
    omega
  have tabs := length_splitOn '\t' (lineOf receiver message).toList
  rw [recordsIn_of_single single, List.singleton_inj] at read
  rw [read, fields, count_tab_lineOf plain] at tabs
  exact isPlain_iff.mpr ⟨by omega, by omega⟩

theorem recordsIn_lineOf_iff :
    recordsIn (lineOf receiver message).toList = [receipt receiver message] ↔
      ¬ Envelope.IsGarbled message := by
  rw [← isPlain_publisherOf]
  exact ⟨fun read => isPlain_of_recordsIn_lineOf plain read rfl,
    recordsIn_lineOf_of_plain plain⟩

end Receipts

section Files

def receiveFields : List (List Char) :=
  ["receiver".toList, "publisher".toList, "size".toList, "sha256(msg)".toList]

theorem recordsIn_receiveHeader : recordsIn receiveHeader.toList = [receiveFields] := by
  decide

theorem recordsIn_ne_nil (text : List Char) : recordsIn text ≠ [] := by
  rw [recordsIn, Ne, List.map_eq_nil_iff]
  exact List.splitOn_ne_nil '\n' text

private theorem length_le_flatMap {α β : Type} {f : α → List β} (brings : ∀ x, f x ≠ [])
    (list : List α) : list.length ≤ (list.flatMap f).length := by
  induction list with
  | nil => exact Nat.le_refl _
  | cons x list induction =>
      have some := List.length_pos_iff.mpr (brings x)
      rw [List.flatMap_cons, List.length_append, List.length_cons]
      omega

private theorem flatMap_eq_map_iff {α β : Type} {f : α → List β} {g : α → β}
    (brings : ∀ x, f x ≠ []) (list : List α) :
    list.flatMap f = list.map g ↔ ∀ x ∈ list, f x = [g x] := by
  induction list with
  | nil => simp
  | cons x list induction =>
      rw [List.flatMap_cons, List.map_cons, List.forall_mem_cons]
      constructor
      · intro same
        have length := congrArg List.length same
        have bound := length_le_flatMap brings list
        obtain ⟨y, rest, here⟩ := List.exists_cons_of_ne_nil (brings x)
        rw [here, List.cons_append, List.cons.injEq] at same
        simp only [here, List.cons_append, List.length_cons, List.length_append, List.length_map]
          at length
        have none : rest = [] := List.length_eq_zero_iff.mp (by omega)
        rw [none, List.nil_append] at same
        exact ⟨by rw [here, none, same.1], induction.mp same.2⟩
      · rintro ⟨here, rest⟩
        rw [here, induction.mpr rest, List.singleton_append]

/-- A ledger of receipts, and the messages that it has lines for. -/
structure ReadsBack (receiver : String) (messages : List (List UInt8)) (ledger : Ledger) :
    Prop where
  content : ledger.content =
    String.join ((receiveHeader :: messages.map (lineOf receiver)).map (· ++ "\n"))
  /-- A line reads back as the receipt of its message, but where the message is garbled. -/
  line : ∀ message, recordsOf (lineOf receiver message ++ "\n") = [receipt receiver message] ↔
    ¬ Envelope.IsGarbled message
  file : recordsOf ledger.content = receiveFields :: messages.map (receipt receiver) ↔
    ∀ message ∈ messages, ¬ Envelope.IsGarbled message

theorem readsBack_of_lines {receiver : String} (plain : IsPlain receiver.toList)
    {messages : List (List UInt8)} {ledger : Ledger} (header : ledger.header = receiveHeader)
    (lines : ledger.lines = messages.map (lineOf receiver)) :
    ledger.ReadsBack receiver messages where
  content := by rw [content, header, lines]
  line message := by
    have single := recordsOf_join [lineOf receiver message]
    rw [List.map_singleton, List.flatMap_singleton, String.join] at single
    rw [← recordsIn_lineOf_iff plain, ← single]
    simp
  file := by
    rw [content, recordsOf_join, List.flatMap_cons, header, lines, recordsIn_receiveHeader,
      List.singleton_append, List.cons.injEq, List.flatMap_map,
      flatMap_eq_map_iff fun _ => recordsIn_ne_nil _]
    simp only [true_and, recordsIn_lineOf_iff plain]

end Files

end Ledger

end Courier
