import Courier.Base64
import Courier.Proofs.Text.Utf8

/-! Bytes and their spelling in base 64. What writing gives is read back, and nothing else is read. Both
go through the six-bit values that the symbols stand for. -/

namespace Courier.Base64

theorem value?_symbol {v : Nat} (small : v < 64) : value? (symbol v) = some v := by
  revert v
  decide

theorem symbol_ne_padding {v : Nat} (small : v < 64) : symbol v ≠ padding := by
  revert v
  decide

theorem eq_symbol_of_value? {b : UInt8} {v : Nat} (read : value? b = some v) :
    v < 64 ∧ b = symbol v := by
  have all : ∀ n < 256, ∀ v ∈ value? (UInt8.ofNat n), v < 64 ∧ UInt8.ofNat n = symbol v := by
    decide +kernel
  have found := all b.toNat b.toNat_lt v
  rw [UInt8.ofNat_toNat] at found
  exact found read

def spell (values : List Nat) (pad : Nat) : List UInt8 :=
  values.map symbol ++ List.replicate pad padding

/-- Values that fill whole bytes, with the padding that fills the last group of four symbols. -/
structure Whole (values : List Nat) (pad : Nat) : Prop where
  small : ∀ v ∈ values, v < 64
  exact : leftOver values = 0
  short : pad ≤ 2
  even : (values.length + pad) % 4 = 0

theorem joined_append : ∀ {before : List Nat}, before.length % 4 = 0 → ∀ after : List Nat,
    joined (before ++ after) = joined before ++ joined after
  | [], _, _ => rfl
  | a :: b :: c :: d :: before, even, after => by
      have rest : before.length % 4 = 0 := by
        simp only [List.length_cons] at even
        omega
      simp only [List.cons_append, joined, joined_append rest after]
  | [_], even, _ | [_, _], even, _ | [_, _, _], even, _ => by simp at even

theorem leftOver_append : ∀ {before : List Nat}, before.length % 4 = 0 → ∀ after : List Nat,
    leftOver (before ++ after) = leftOver after
  | [], _, _ => rfl
  | a :: b :: c :: d :: before, even, after => by
      have rest : before.length % 4 = 0 := by
        simp only [List.length_cons] at even
        omega
      simp only [List.cons_append, leftOver, leftOver_append rest after]
  | [_], even, _ | [_, _], even, _ | [_, _, _], even, _ => by simp at even

theorem encode_joined : ∀ {values : List Nat} {pad : Nat}, Whole values pad →
    encode (joined values) = spell values pad
  | [], pad, whole => by
      obtain rfl : pad = 0 := by
        have even := whole.even
        have short := whole.short
        simp only [List.length_nil] at even
        omega
      rfl
  | [_], pad, whole => by
      have even := whole.even
      have short := whole.short
      simp only [List.length_cons, List.length_nil] at even
      omega
  | [a, b], pad, whole => by
      obtain ⟨small, exact, short, even⟩ := whole
      simp only [List.forall_mem_cons] at small
      simp only [leftOver] at exact
      simp only [List.length_cons, List.length_nil] at even
      obtain rfl : pad = 2 := by omega
      have byte := Text.toNat_byte (n := a * 4 + b / 16) (by omega)
      have first : (a * 4 + b / 16) / 4 = a := by omega
      have second : (a * 4 + b / 16) % 4 * 16 = b := by omega
      simp only [joined, encode, byte, first, second]
      rfl
  | [a, b, c], pad, whole => by
      obtain ⟨small, exact, short, even⟩ := whole
      simp only [List.forall_mem_cons] at small
      simp only [leftOver] at exact
      simp only [List.length_cons, List.length_nil] at even
      obtain rfl : pad = 1 := by omega
      have byte := Text.toNat_byte (n := a * 4 + b / 16) (by omega)
      have byte' := Text.toNat_byte (n := b % 16 * 16 + c / 4) (by omega)
      have first : (a * 4 + b / 16) / 4 = a := by omega
      have second : (a * 4 + b / 16) % 4 * 16 + (b % 16 * 16 + c / 4) / 16 = b := by omega
      have third : (b % 16 * 16 + c / 4) % 16 * 4 = c := by omega
      simp only [joined, encode, byte, byte', first, second, third]
      rfl
  | a :: b :: c :: d :: values, pad, whole => by
      obtain ⟨small, exact, short, even⟩ := whole
      simp only [List.forall_mem_cons] at small
      obtain ⟨smallA, smallB, smallC, smallD, small⟩ := small
      have rest : Whole values pad := ⟨small, exact, short, by
        simp only [List.length_cons] at even
        omega⟩
      have byte := Text.toNat_byte (n := a * 4 + b / 16) (by omega)
      have byte' := Text.toNat_byte (n := b % 16 * 16 + c / 4) (by omega)
      have byte'' := Text.toNat_byte (n := c % 4 * 64 + d) (by omega)
      have first : (a * 4 + b / 16) / 4 = a := by omega
      have second : (a * 4 + b / 16) % 4 * 16 + (b % 16 * 16 + c / 4) / 16 = b := by omega
      have third : (b % 16 * 16 + c / 4) % 16 * 4 + (c % 4 * 64 + d) / 64 = c := by omega
      have fourth : (c % 4 * 64 + d) % 64 = d := by omega
      simp only [joined, encode, byte, byte', byte'', first, second, third, fourth,
        encode_joined rest, spell, List.map_cons, List.cons_append]

theorem exists_whole : ∀ bytes : List UInt8, ∃ values pad, Whole values pad ∧ joined values = bytes
  | [] => ⟨[], 0, ⟨by simp, rfl, by decide, rfl⟩, rfl⟩
  | [a] => by
      have bound := a.toNat_lt
      refine ⟨[a.toNat / 4, a.toNat % 4 * 16], 2, ⟨?_, ?_, by decide, by simp⟩, ?_⟩
      · simp only [List.forall_mem_cons]
        exact ⟨by omega, by omega, by simp⟩
      · simp only [leftOver]
        omega
      · have same : a.toNat / 4 * 4 + a.toNat % 4 * 16 / 16 = a.toNat := by omega
        simp only [joined, same, UInt8.ofNat_toNat]
  | [a, b] => by
      have bound := a.toNat_lt
      have bound' := b.toNat_lt
      refine ⟨[a.toNat / 4, a.toNat % 4 * 16 + b.toNat / 16, b.toNat % 16 * 4], 1,
        ⟨?_, ?_, by decide, by simp⟩, ?_⟩
      · simp only [List.forall_mem_cons]
        exact ⟨by omega, by omega, by omega, by simp⟩
      · simp only [leftOver]
        omega
      · have same : a.toNat / 4 * 4 + (a.toNat % 4 * 16 + b.toNat / 16) / 16 = a.toNat := by omega
        have same' : (a.toNat % 4 * 16 + b.toNat / 16) % 16 * 16 + b.toNat % 16 * 4 / 4 =
            b.toNat := by omega
        simp only [joined, same, same', UInt8.ofNat_toNat]
  | a :: b :: c :: bytes => by
      obtain ⟨values, pad, ⟨small, exact, short, even⟩, same⟩ := exists_whole bytes
      have bound := a.toNat_lt
      have bound' := b.toNat_lt
      have bound'' := c.toNat_lt
      refine ⟨a.toNat / 4 :: (a.toNat % 4 * 16 + b.toNat / 16) ::
        (b.toNat % 16 * 4 + c.toNat / 64) :: c.toNat % 64 :: values, pad,
        ⟨?_, exact, short, ?_⟩, ?_⟩
      · simp only [List.forall_mem_cons]
        exact ⟨by omega, by omega, by omega, by omega, small⟩
      · simp only [List.length_cons]
        omega
      · have first : a.toNat / 4 * 4 + (a.toNat % 4 * 16 + b.toNat / 16) / 16 = a.toNat := by
          omega
        have second : (a.toNat % 4 * 16 + b.toNat / 16) % 16 * 16 +
            (b.toNat % 16 * 4 + c.toNat / 64) / 4 = b.toNat := by omega
        have third : (b.toNat % 16 * 4 + c.toNat / 64) % 4 * 64 + c.toNat % 64 = c.toNat := by
          omega
        simp only [joined, first, second, third, UInt8.ofNat_toNat, same]

section Reading

variable {values : List Nat} {symbols : List UInt8} {offset start place : Nat}
  {seen seen' : Ending}

theorem groups_symbols (small : ∀ v ∈ values, v < 64) (offset : Nat) :
    groups offset (values.map symbol) = .ok values := by
  induction values generalizing offset with
  | nil => rfl
  | cons v values induction =>
      obtain ⟨smallV, small⟩ := List.forall_mem_cons.mp small
      simp only [List.map_cons, groups, value?_symbol smallV, induction small]
      rfl

theorem eq_of_groups (read : groups offset symbols = .ok values) :
    symbols = values.map symbol ∧ ∀ v ∈ values, v < 64 := by
  induction symbols generalizing offset values with
  | nil =>
      cases read
      exact ⟨rfl, by simp⟩
  | cons b symbols induction =>
      simp only [groups] at read
      split at read
      case h_1 => cases read
      case h_2 v found =>
        obtain ⟨small, rfl⟩ := eq_symbol_of_value? found
        cases rest : groups (offset + 1) symbols with
        | error error =>
            rw [rest] at read
            cases read
        | ok values =>
            rw [rest] at read
            cases read
            obtain ⟨rfl, smalls⟩ := induction rest
            exact ⟨rfl, List.forall_mem_cons.mpr ⟨small, smalls⟩⟩

theorem ending_symbols (small : ∀ v ∈ values, v < 64) (fresh : seen.padded = 0) :
    ∃ last, ending start seen place (values.map symbol ++ symbols) =
      ending start { seen with values := seen.values ++ values, last } (place + values.length)
        symbols := by
  induction values generalizing seen place with
  | nil =>
      refine ⟨seen.last, ?_⟩
      rw [List.append_nil]
      rfl
  | cons v values induction =>
      obtain ⟨smallV, small⟩ := List.forall_mem_cons.mp small
      obtain ⟨last, step⟩ := @induction (place + 1)
        { seen with values := seen.values ++ [v], last := symbol v } small fresh
      refine ⟨last, ?_⟩
      rw [List.map_cons, List.cons_append, ending, if_neg (symbol_ne_padding smallV),
        if_neg (by omega), value?_symbol smallV]
      simp only [step, List.append_assoc, List.singleton_append, List.length_cons]
      rw [Nat.add_right_comm, Nat.add_assoc]

theorem ending_padding {pad : Nat} (late : 0 < pad → 2 ≤ place % 4 ∧ place % 4 + pad ≤ 4) :
    ∃ seen', ending start seen place (List.replicate pad padding) = .ok seen' ∧
      seen'.values = seen.values ∧ seen'.padded = seen.padded + pad := by
  induction pad generalizing seen place with
  | zero => exact ⟨seen, rfl, rfl, rfl⟩
  | succ pad induction =>
      have place2 := late (Nat.succ_pos pad)
      obtain ⟨seen', step, same, count⟩ := @induction (place + 1)
        { seen with
          padded := seen.padded + 1
          firstPad := if seen.padded = 0 then place else seen.firstPad } (fun more => by omega)
      refine ⟨seen', ?_, same, ?_⟩
      · rw [List.replicate_succ, ending, if_pos rfl, if_neg (by omega), step]
      · rw [count]
        simp only
        omega

theorem padding_of_ending (padded : 0 < seen.padded)
    (read : ending start seen place symbols = .ok seen') :
    ∃ pad, symbols = List.replicate pad padding ∧ seen'.values = seen.values ∧
      seen'.padded = seen.padded + pad ∧ (0 < pad → 2 ≤ place % 4 ∧ place % 4 + pad ≤ 4) := by
  induction symbols generalizing seen place with
  | nil =>
      cases read
      exact ⟨0, rfl, rfl, rfl, fun none => by cases none⟩
  | cons b symbols induction =>
      rw [ending] at read
      split at read
      case isFalse => cases read
      case isTrue isPad =>
        split at read
        case isTrue => cases read
        case isFalse late =>
          obtain ⟨pad, rfl, same, count, places⟩ := induction (Nat.succ_pos _) read
          refine ⟨pad + 1, by rw [isPad, List.replicate_succ], same, ?_, fun _ => by omega⟩
          rw [count]
          simp only
          omega

theorem eq_of_ending (fresh : seen.padded = 0)
    (read : ending start seen place symbols = .ok seen') :
    ∃ values pad, symbols = spell values pad ∧ (∀ v ∈ values, v < 64) ∧
      seen'.values = seen.values ++ values ∧ seen'.padded = pad ∧
        (0 < pad → 2 ≤ (place + values.length) % 4 ∧ (place + values.length) % 4 + pad ≤ 4) := by
  induction symbols generalizing seen place with
  | nil =>
      cases read
      exact ⟨[], 0, rfl, by simp, by simp, fresh, fun none => by cases none⟩
  | cons b symbols induction =>
      rw [ending] at read
      split at read
      case isTrue isPad =>
        split at read
        case isTrue => cases read
        case isFalse late =>
          obtain ⟨pad, rfl, same, count, places⟩ := padding_of_ending (Nat.succ_pos _) read
          refine ⟨[], pad + 1, by rw [isPad]; rfl, by simp, by simpa using same, ?_, fun _ => ?_⟩
          · rw [count]
            simp only [fresh]
            omega
          · simp only [List.length_nil]
            omega
      case isFalse =>
        rw [if_neg (by omega)] at read
        split at read
        case h_1 => cases read
        case h_2 v found =>
          obtain ⟨small, rfl⟩ := eq_symbol_of_value? found
          obtain ⟨values, pad, rfl, smalls, same, count, places⟩ :=
            @induction (place + 1) { seen with values := seen.values ++ [v], last := symbol v } fresh read
          refine ⟨v :: values, pad, rfl, List.forall_mem_cons.mpr ⟨small, smalls⟩, ?_, count, ?_⟩
          · rw [same]
            simp
          · rw [List.length_cons, ← Nat.add_assoc, Nat.add_right_comm]
            exact places

end Reading

theorem strictLength_bounds (length : Nat) :
    strictLength length % 4 = 0 ∧ strictLength length ≤ length - 1 := by
  rw [strictLength]
  omega

theorem decode_spell {values : List Nat} {pad : Nat} (whole : Whole values pad) :
    decode (spell values pad) = .ok (joined values) := by
  obtain ⟨small, exact, short, even⟩ := whole
  have total : (spell values pad).length = values.length + pad := by simp [spell]
  obtain ⟨groupsEven, groupsShort⟩ := strictLength_bounds (values.length + pad)
  unfold decode
  rw [total]
  simp only
  rw [if_neg (by omega)]
  -- All that is read in groups are symbols. What is left of them, and the padding, is the ending.
  generalize strictLength (values.length + pad) = start at *
  have inside : start ≤ values.length := by omega
  have before : (values.take start).length = start := List.length_take_of_le inside
  have after : (values.drop start).length = values.length - start := List.length_drop
  have split : values.take start ++ values.drop start = values := List.take_append_drop ..
  have beforeEven : (values.take start).length % 4 = 0 := before.symm ▸ groupsEven
  have left : leftOver (values.drop start) = 0 := by
    rw [← leftOver_append beforeEven, split, exact]
  have head : (spell values pad).take start = (values.take start).map symbol := by
    rw [spell, List.take_append_of_le_length (by simpa using inside), List.map_take]
  have tail : (spell values pad).drop start =
      (values.drop start).map symbol ++ List.replicate pad padding := by
    rw [spell, List.drop_append_of_le_length (by simpa using inside), List.map_drop]
  obtain ⟨last, symbols⟩ := @ending_symbols (values.drop start) (List.replicate pad padding) start 0
    ⟨[], 0, 0, 0⟩ (fun v member => small v (List.mem_of_mem_drop member)) rfl
  obtain ⟨seen, pads, same, count⟩ := @ending_padding start (0 + (values.drop start).length)
    ⟨[] ++ values.drop start, last, 0, 0⟩ pad (by rw [after]; omega)
  rw [head, groups_symbols (fun v member => small v (List.mem_of_mem_take member)), tail]
  simp only [symbols, pads]
  rw [Ending.bytes?, same, count, List.nil_append, after, if_neg (by omega), if_neg (by simp; omega),
    left]
  simp only [ne_eq, not_true_eq_false, if_false]
  rw [← split, joined_append beforeEven, split]
  rfl

theorem eq_of_decode {symbols bytes : List UInt8} (read : decode symbols = .ok bytes) :
    ∃ values pad, Whole values pad ∧ symbols = spell values pad ∧ bytes = joined values := by
  unfold decode at read
  simp only at read
  split at read
  case isTrue => split at read <;> cases read
  case isFalse odd =>
    obtain ⟨groupsEven, groupsShort⟩ := strictLength_bounds symbols.length
    generalize strictLength symbols.length = start at *
    split at read
    case h_1 => cases read
    case h_2 before head =>
      split at read
      case h_1 => cases read
      case h_2 seen tail =>
        obtain ⟨headSymbols, smallBefore⟩ := eq_of_groups head
        obtain ⟨after, pad, tailSymbols, smallAfter, same, count, places⟩ := eq_of_ending rfl tail
        rw [List.nil_append] at same
        have length : before.length = start := by
          rw [← List.length_map symbol, ← headSymbols, List.length_take_of_le (by omega)]
        have beforeEven : before.length % 4 = 0 := length.symm ▸ groupsEven
        have spelled : symbols = spell (before ++ after) pad := by
          rw [← List.take_append_drop start symbols, headSymbols, tailSymbols, spell, spell,
            List.map_append, List.append_assoc]
        unfold Ending.bytes? at read
        simp only [same, count] at read
        split at read
        case isTrue => cases read
        case isFalse filled =>
          split at read
          case isTrue => cases read
          case isFalse even =>
            split at read
            case isTrue => cases read
            case isFalse exact =>
              cases read
              refine ⟨before ++ after, pad, ⟨?_, ?_, ?_, ?_⟩, spelled, (joined_append beforeEven _).symm⟩
              · exact fun v member => (List.mem_append.mp member).elim (smallBefore v) (smallAfter v)
              · rw [leftOver_append beforeEven]
                simpa using exact
              · omega
              · rw [List.length_append]
                omega

theorem decode_encode (bytes : List UInt8) : decode (encode bytes) = .ok bytes := by
  obtain ⟨values, pad, whole, rfl⟩ := exists_whole bytes
  rw [encode_joined whole, decode_spell whole]

/-- Only what is written is read. -/
theorem decode_eq_ok_iff {symbols bytes : List UInt8} :
    decode symbols = .ok bytes ↔ symbols = encode bytes := by
  constructor
  · intro read
    obtain ⟨values, pad, whole, rfl, rfl⟩ := eq_of_decode read
    exact (encode_joined whole).symm
  · rintro rfl
    exact decode_encode bytes

theorem symbol_bounds {v : Nat} (small : v < 64) :
    32 ≤ (symbol v).toNat ∧ (symbol v).toNat < 0x80 ∧ symbol v ≠ 34 ∧ symbol v ≠ 92 := by
  revert v
  decide

theorem bounds_of_mem_encode {bytes : List UInt8} {b : UInt8} (member : b ∈ encode bytes) :
    32 ≤ b.toNat ∧ b.toNat < 0x80 ∧ b ≠ 34 ∧ b ≠ 92 := by
  obtain ⟨values, pad, whole, rfl⟩ := exists_whole bytes
  rw [encode_joined whole, spell] at member
  rcases List.mem_append.mp member with inside | pads
  · obtain ⟨v, value, rfl⟩ := List.mem_map.mp inside
    exact symbol_bounds (whole.small v value)
  · rw [List.eq_of_mem_replicate pads]
    decide

end Courier.Base64
