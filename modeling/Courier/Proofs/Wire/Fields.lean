import Courier.Wire.Message

/-! Numbers and fields are read back from what was written, whatever follows. Lengths are numbers of
64 bits on the wire. -/

namespace Courier.Wire

open Number

variable {n : Nat} {rest : List UInt8}

theorem readVarintUpTo_varint {count : Nat} (fits : n < 2 * power 128 count) :
    readVarintUpTo (count + 1) (varint n ++ rest) = some (n, rest) := by
  induction count generalizing n with
  | zero =>
      rw [power_zero] at fits
      have byte : n.toUInt8.toNat = n := UInt8.toNat_ofNat_of_lt' (Nat.lt_trans fits (by decide))
      rw [varint, if_pos (by omega), List.singleton_append, readVarintUpTo, byte,
        if_pos (by omega), if_neg (by omega)]
  | succ count induction =>
      rw [power_succ] at fits
      rw [varint]
      split
      case isTrue small =>
          have byte : n.toUInt8.toNat = n :=
            UInt8.toNat_ofNat_of_lt' (Nat.lt_trans small (by decide))
          rw [List.singleton_append, readVarintUpTo, byte, if_pos small, if_neg (by omega)]
      case isFalse large =>
          have low := Nat.mod_lt n (y := 128) (by decide)
          have byte : (n % 128 + 128).toUInt8.toNat = n % 128 + 128 :=
            UInt8.toNat_ofNat_of_lt' (Nat.lt_of_lt_of_le (Nat.add_lt_add_right low 128) (by decide))
          rw [List.cons_append, readVarintUpTo, byte, if_neg (by omega), induction (by omega),
            Option.map_some, Nat.add_sub_cancel]
          simp only
          rw [Nat.mod_add_div]

theorem readVarint_varint (fits : n < limit 64) :
    readVarint (varint n ++ rest) = some (n, rest) := by
  have limit : limit 64 = 2 * power 128 9 := by decide
  exact readVarintUpTo_varint (limit ▸ fits)

theorem Form.ofNumber?_number (form : Form) : ofNumber? form.number = some form := by
  cases form <;> rfl

theorem Form.number_lt (form : Form) : form.number < 8 := by
  cases form <;> decide

theorem readKey_encode {key : Key} (positive : 0 < key.number) (fits : key.number < limit 29) :
    readKey (key.encode ++ rest) = .ok (key, rest) := by
  have form := key.form.number_lt
  have limit₂₉ : limit 29 * 8 = limit 32 := by decide
  have limit₃₂ : limit 32 < limit 64 := by decide
  have number : (key.number * 8 + key.form.number) / 8 = key.number := by omega
  have kind : (key.number * 8 + key.form.number) % 8 = key.form.number := by omega
  rw [Key.encode, readKey, readVarint_varint (by omega)]
  simp only
  rw [if_neg (by omega), kind, Form.ofNumber?_number, number]
  simp only
  rw [if_neg (Nat.ne_of_gt positive)]

theorem takeBytes_append (bytes rest : List UInt8) :
    takeBytes bytes.length (bytes ++ rest) = .ok (bytes, rest) := by
  simp [takeBytes]

theorem readBytes_append {bytes : List UInt8} (fits : bytes.length < limit 64) :
    readBytes (varint bytes.length ++ (bytes ++ rest)) = .ok (bytes, rest) := by
  rw [readBytes, readVarint_varint fits]
  exact takeBytes_append bytes rest

section Fields

variable {σ : Type} {slot? : Nat → Option (Slot σ)} {message message' : σ} {number : Nat}
  {name : String}

theorem varint_ne_nil (n : Nat) : varint n ≠ [] := by
  rw [varint]
  split <;> exact List.cons_ne_nil _ _

theorem Key.encode_append_ne_nil (key : Key) (rest : List UInt8) : key.encode ++ rest ≠ [] :=
  List.append_ne_nil_of_left_ne_nil (varint_ne_nil _) rest

theorem readFields_numberField {set : Nat → σ → σ}
    (declared : slot? number = some (.number name set))
    (positive : 0 < number) (numbered : number < limit 29) (fits : n < limit 64)
    (unset : n = 0 → set n message = message) :
    readFields slot? message (numberField number n ++ rest) =
      readFields slot? (set n message) rest := by
  unfold numberField
  split
  case isTrue zero => rw [unset zero, List.nil_append]
  case isFalse =>
      rw [List.append_assoc, readFields, if_neg (Key.encode_append_ne_nil _ _)]
      split
      case h_1 failed => cases (readKey_encode positive numbered).symm.trans failed
      case h_2 key tail read =>
          cases (readKey_encode positive numbered).symm.trans read
          simp only [declared]
          rw [if_neg (by simp)]
          split
          case h_1 failed => cases (readVarint_varint fits).symm.trans failed
          case h_2 read =>
              cases (readVarint_varint fits).symm.trans read
              rfl

theorem readFields_bytesField {set : List UInt8 → σ → Except Cause σ} {bytes : List UInt8}
    (declared : slot? number = some (.bytes name set))
    (positive : 0 < number) (numbered : number < limit 29) (fits : bytes.length < limit 64)
    (entered : set bytes message = .ok message') (unset : bytes = [] → message' = message) :
    readFields slot? message (bytesField number bytes ++ rest) =
      readFields slot? message' rest := by
  unfold bytesField
  split
  case isTrue empty => rw [unset empty, List.nil_append]
  case isFalse =>
      rw [List.append_assoc, List.append_assoc, readFields,
        if_neg (Key.encode_append_ne_nil _ _)]
      split
      case h_1 failed => cases (readKey_encode positive numbered).symm.trans failed
      case h_2 key tail read =>
          cases (readKey_encode positive numbered).symm.trans read
          simp only [declared]
          rw [if_neg (by simp)]
          split
          case h_1 failed => cases (readBytes_append fits).symm.trans failed
          case h_2 read =>
              cases (readBytes_append fits).symm.trans read
              rw [entered]

end Fields

theorem readFields_nil {σ : Type} (slot? : Nat → Option (Slot σ)) (message : σ) :
    readFields slot? message [] = .ok message := by
  rw [readFields, if_pos rfl]

theorem signedBits_lt (code : Int32) : signedBits code < limit 64 := by
  have positive : (0 : Int) < limit 64 := by decide
  have below := Int.emod_lt_of_pos code.toInt positive
  rw [signedBits]
  omega

theorem ofNat_signedBits (code : Int32) : Int32.ofNat (signedBits code) = code := by
  have limit : (limit 64 : Int) = 18446744073709551616 := by decide
  have size : Int32.size = 4294967296 := rfl
  have lower := code.le_toInt
  have upper := code.toInt_lt
  apply Int32.toInt_inj.mp
  rw [Int32.toInt_ofNat', signedBits, limit, size, Int.bmod_def]
  omega

end Courier.Wire
