import Courier.Text.Utf8

/-! Texts and their bytes. A text is read back from its bytes. A byte below 0x80 in them is a character
of its own, so that they can be cut there. -/

namespace Courier.Text

@[simp] theorem encode_nil : encode [] = [] := rfl

@[simp] theorem encode_cons (c : Char) (text : List Char) :
    encode (c :: text) = encodeChar c ++ encode text := rfl

@[simp] theorem encode_append (before after : List Char) :
    encode (before ++ after) = encode before ++ encode after :=
  List.flatMap_append

theorem toNat_byte {n : Nat} (small : n < 256) : n.toUInt8.toNat = n :=
  UInt8.toNat_ofNat_of_lt' small

theorem toNat_bounds (c : Char) :
    c.toNat < 0xd800 ∨ 0xdfff < c.toNat ∧ c.toNat < 0x110000 :=
  c.valid

section Reading

variable {lead b d e : UInt8} {c : Char}

theorem isContinuation_iff : isContinuation b = true ↔ 0x80 ≤ b.toNat ∧ b.toNat < 0xc0 := by
  simp [isContinuation, UInt8.lt_iff_toNat_lt, UInt8.le_iff_toNat_le]

theorem maySecond_of_bounds (continues : isContinuation b = true)
    (long : lead.toNat = 0xe0 → 0xa0 ≤ b.toNat) (surrogate : lead.toNat = 0xed → b.toNat < 0xa0)
    (longest : lead.toNat = 0xf0 → 0x90 ≤ b.toNat) (last : lead.toNat = 0xf4 → b.toNat < 0x90) :
    maySecond lead b = true := by
  simp only [maySecond, continues, Bool.true_and, ← UInt8.toNat_inj, UInt8.reduceToNat,
    UInt8.lt_iff_toNat_lt, UInt8.le_iff_toNat_le]
  split
  · exact decide_eq_true (long ‹_›)
  · split
    · exact decide_eq_true (surrogate ‹_›)
    · split
      · exact decide_eq_true (longest ‹_›)
      · split
        · exact decide_eq_true (last ‹_›)
        · rfl

variable (rest : List UInt8)

theorem next_one (lead' : lead.toNat = c.toNat) (short : c.toNat < 0x80) :
    next lead rest = (some c, rest) := by
  simp only [next, UInt8.lt_iff_toNat_lt, UInt8.reduceToNat, lead', Char.ofNat_toNat]
  rw [if_pos short]

theorem next_two (long : 0x80 ≤ c.toNat) (short : c.toNat < 0x800)
    (lead' : lead.toNat = 0xc0 + c.toNat / 64) (second : b.toNat = 0x80 + c.toNat % 64) :
    next lead (b :: rest) = (some c, rest) := by
  have same : lead.toNat % 32 * 64 + low6 b = c.toNat := by
    rw [low6]
    omega
  have continues : isContinuation b = true := isContinuation_iff.mpr (by omega)
  simp only [next, UInt8.lt_iff_toNat_lt, UInt8.reduceToNat, continues, same, if_true,
    Char.ofNat_toNat]
  rw [if_neg (by omega), if_neg (by omega), if_pos (by omega)]

theorem next_three (long : 0x800 ≤ c.toNat) (short : c.toNat < 0x10000)
    (lead' : lead.toNat = 0xe0 + c.toNat / 4096) (second : b.toNat = 0x80 + c.toNat / 64 % 64)
    (third : d.toNat = 0x80 + c.toNat % 64) :
    next lead (b :: d :: rest) = (some c, rest) := by
  have bounds := toNat_bounds c
  have same : lead.toNat % 16 * 4096 + low6 b * 64 + low6 d = c.toNat := by
    rw [low6, low6]
    omega
  have follows : maySecond lead b = true := by
    apply maySecond_of_bounds (isContinuation_iff.mpr (by omega)) <;> omega
  have continues : isContinuation d = true := isContinuation_iff.mpr (by omega)
  simp only [next, UInt8.lt_iff_toNat_lt, UInt8.reduceToNat, follows, continues, same, if_true,
    Char.ofNat_toNat]
  rw [if_neg (by omega), if_neg (by omega), if_neg (by omega), if_pos (by omega)]

theorem next_four (long : 0x10000 ≤ c.toNat) (lead' : lead.toNat = 0xf0 + c.toNat / 262144)
    (second : b.toNat = 0x80 + c.toNat / 4096 % 64) (third : d.toNat = 0x80 + c.toNat / 64 % 64)
    (fourth : e.toNat = 0x80 + c.toNat % 64) :
    next lead (b :: d :: e :: rest) = (some c, rest) := by
  have bounds := toNat_bounds c
  have same :
      lead.toNat % 8 * 262144 + low6 b * 4096 + low6 d * 64 + low6 e = c.toNat := by
    rw [low6, low6, low6]
    omega
  have follows : maySecond lead b = true := by
    apply maySecond_of_bounds (isContinuation_iff.mpr (by omega)) <;> omega
  have continues : isContinuation d = true := isContinuation_iff.mpr (by omega)
  have continues' : isContinuation e = true := isContinuation_iff.mpr (by omega)
  simp only [next, UInt8.lt_iff_toNat_lt, UInt8.reduceToNat, follows, continues, continues', same,
    if_true, Char.ofNat_toNat]
  rw [if_neg (by omega), if_neg (by omega), if_neg (by omega), if_neg (by omega),
    if_pos (by omega)]

end Reading

theorem encodeChar_eq_cons (c : Char) :
    ∃ lead tail, encodeChar c = lead :: tail ∧
      ∀ rest, next lead (tail ++ rest) = (some c, rest) := by
  have bounds := toNat_bounds c
  unfold encodeChar
  simp only
  split
  case isTrue short =>
      exact ⟨_, _, rfl, fun rest => next_one rest (toNat_byte (by omega)) short⟩
  case isFalse long =>
      rw [Nat.not_lt] at long
      split
      case isTrue short =>
          exact ⟨_, _, rfl, fun rest =>
            next_two rest long short (toNat_byte (by omega)) (toNat_byte (by omega))⟩
      case isFalse longer =>
          rw [Nat.not_lt] at longer
          split
          case isTrue short =>
              exact ⟨_, _, rfl, fun rest =>
                next_three rest longer short (toNat_byte (by omega)) (toNat_byte (by omega))
                  (toNat_byte (by omega))⟩
          case isFalse longest =>
              rw [Nat.not_lt] at longest
              exact ⟨_, _, rfl, fun rest =>
                next_four rest longest (toNat_byte (by omega)) (toNat_byte (by omega))
                  (toNat_byte (by omega)) (toNat_byte (by omega))⟩

theorem decode?_encodeChar_append (c : Char) (bytes : List UInt8) :
    decode? (encodeChar c ++ bytes) = (decode? bytes).map (c :: ·) := by
  obtain ⟨lead, tail, same, reads⟩ := encodeChar_eq_cons c
  rw [same, List.cons_append, decode?, reads]

theorem decode?_encode (text : List Char) : decode? (encode text) = some text := by
  induction text with
  | nil => rw [encode_nil, decode?]
  | cons c text induction => rw [encode_cons, decode?_encodeChar_append, induction, Option.map_some]

theorem decodeLossy_encode (text : List Char) : decodeLossy (encode text) = text := by
  induction text with
  | nil => rw [encode_nil, decodeLossy]
  | cons c text induction =>
      obtain ⟨lead, tail, same, reads⟩ := encodeChar_eq_cons c
      rw [encode_cons, same, List.cons_append, decodeLossy, reads, induction]
      rfl

theorem encode_injective {text text' : List Char} (same : encode text = encode text') :
    text = text' := by
  have read := congrArg decode? same
  rw [decode?_encode, decode?_encode] at read
  exact Option.some.inj read

theorem encodeChar_of_lt {c : Char} (ascii : c.toNat < 0x80) :
    encodeChar c = [c.toNat.toUInt8] := by
  simp [encodeChar, ascii]

theorem le_of_mem_encodeChar {c : Char} {b : UInt8} (long : 0x80 ≤ c.toNat)
    (member : b ∈ encodeChar c) : 0x80 ≤ b.toNat := by
  have bounds := toNat_bounds c
  unfold encodeChar at member
  simp only [Nat.not_lt.mpr long, if_false] at member
  split at member
  · simp only [List.mem_cons, List.not_mem_nil, or_false] at member
    rcases member with rfl | rfl <;> rw [toNat_byte (by omega)] <;> omega
  · split at member
    · simp only [List.mem_cons, List.not_mem_nil, or_false] at member
      rcases member with rfl | rfl | rfl <;> rw [toNat_byte (by omega)] <;> omega
    · simp only [List.mem_cons, List.not_mem_nil, or_false] at member
      rcases member with rfl | rfl | rfl | rfl <;> rw [toNat_byte (by omega)] <;> omega

theorem eq_cons_of_encode {text : List Char} {b : UInt8} {rest : List UInt8}
    (ascii : b.toNat < 0x80) (same : encode text = b :: rest) :
    ∃ text', text = Char.ofNat b.toNat :: text' ∧ rest = encode text' := by
  cases text with
  | nil => cases same
  | cons c text =>
      rw [encode_cons] at same
      by_cases short : c.toNat < 0x80
      · rw [encodeChar_of_lt short] at same
        cases same
        rw [toNat_byte (by omega), Char.ofNat_toNat]
        exact ⟨text, rfl, rfl⟩
      · obtain ⟨lead, tail, bytes, _⟩ := encodeChar_eq_cons c
        rw [bytes] at same
        cases same
        have member : b ∈ encodeChar c := bytes ▸ List.mem_cons_self
        have large := le_of_mem_encodeChar (Nat.not_lt.mp short) member
        exact absurd ascii (Nat.not_lt.mpr large)

def IsAscii (bytes : List UInt8) : Prop := ∀ b ∈ bytes, b.toNat < 0x80

theorem isAscii_nil : IsAscii [] := List.forall_mem_nil _

theorem IsAscii.append {before after : List UInt8} (first : IsAscii before) (second : IsAscii after) :
    IsAscii (before ++ after) :=
  fun b member => (List.mem_append.mp member).elim (first b) (second b)

theorem IsAscii.cons {b : UInt8} {bytes : List UInt8} (first : b.toNat < 0x80)
    (others : IsAscii bytes) : IsAscii (b :: bytes) :=
  List.forall_mem_cons.mpr ⟨first, others⟩

theorem toNat_ofNat {n : Nat} (small : n < 0xd800) : (Char.ofNat n).toNat = n := by
  rw [Char.ofNat, dif_pos (.inl small)]
  rfl

theorem encode_map_ofNat {bytes : List UInt8} (ascii : IsAscii bytes) :
    encode (bytes.map fun b => Char.ofNat b.toNat) = bytes := by
  induction bytes with
  | nil => rfl
  | cons b bytes induction =>
      obtain ⟨first, others⟩ := List.forall_mem_cons.mp ascii
      have code : (Char.ofNat b.toNat).toNat = b.toNat := toNat_ofNat (by omega)
      have single : encodeChar (Char.ofNat b.toNat) = [b] := by
        rw [encodeChar_of_lt (by omega), code]
        exact congrArg (fun b => [b]) UInt8.ofNat_toNat
      rw [List.map_cons, encode_cons, single, induction others, List.singleton_append]

def IsEncoded (bytes : List UInt8) : Prop := ∃ text, encode text = bytes

theorem IsEncoded.tail {b : UInt8} {rest : List UInt8} (encoded : IsEncoded (b :: rest))
    (ascii : b.toNat < 0x80) : IsEncoded rest := by
  obtain ⟨text, same⟩ := encoded
  obtain ⟨text', -, rfl⟩ := eq_cons_of_encode ascii same
  exact ⟨text', rfl⟩

theorem IsEncoded.drop {before rest : List UInt8} (encoded : IsEncoded (before ++ rest))
    (ascii : IsAscii before) : IsEncoded rest := by
  induction before with
  | nil => exact encoded
  | cons b before induction =>
      obtain ⟨first, others⟩ := List.forall_mem_cons.mp ascii
      exact induction (encoded.tail first) others

end Courier.Text
