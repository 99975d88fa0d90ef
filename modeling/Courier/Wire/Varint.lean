/-! Whole numbers of up to 64 bits on the wire: seven bits a byte, the lowest first, and the top bit
set on every byte but the last. -/

namespace Courier.Wire

def varint (n : Nat) : List UInt8 :=
  if n < 128 then [n.toUInt8] else (n % 128 + 128).toUInt8 :: varint (n / 128)

/-- A number of at most `count` bytes at the start of the bytes. The last of ten bytes has room for
one bit. -/
def readVarintUpTo : Nat → List UInt8 → Option (Nat × List UInt8)
  | 0, _ => none
  | _ + 1, [] => none
  | count + 1, b :: bytes =>
      if b.toNat < 128 then
        if count = 0 ∧ 2 ≤ b.toNat then none else some (b.toNat, bytes)
      else
        (readVarintUpTo count bytes).map fun (high, rest) => (b.toNat - 128 + 128 * high, rest)

def readVarint (bytes : List UInt8) : Option (Nat × List UInt8) :=
  readVarintUpTo 10 bytes

theorem readVarintUpTo_length {count : Nat} {bytes rest : List UInt8} {n : Nat}
    (read : readVarintUpTo count bytes = some (n, rest)) : rest.length < bytes.length := by
  induction count generalizing bytes n with
  | zero => simp [readVarintUpTo] at read
  | succ count induction =>
      cases bytes with
      | nil => simp [readVarintUpTo] at read
      | cons b bytes =>
          simp only [readVarintUpTo] at read
          split at read
          · split at read
            · simp at read
            · simp at read
              simp [read.2]
          · obtain ⟨⟨high, tail⟩, others, same⟩ := Option.map_eq_some_iff.mp read
            cases same
            exact Nat.lt_succ_of_lt (induction others)

theorem readVarint_length {bytes rest : List UInt8} {n : Nat}
    (read : readVarint bytes = some (n, rest)) : rest.length < bytes.length :=
  readVarintUpTo_length read

end Courier.Wire
