import Courier.Wire.Field

/-! Messages as sequences of fields. A field that the message does not declare is passed over, and
of a field that stands twice the last value counts. -/

namespace Courier.Wire

inductive Slot (σ : Type) where
  | number (name : String) (set : Nat → σ → σ)
  | bytes (name : String) (set : List UInt8 → σ → Except Cause σ)

def readFields (slot? : Nat → Option (Slot σ)) (message : σ) (bytes : List UInt8) :
    Except DecodeError σ :=
  if bytes = [] then .ok message
  else
    match _ : readKey bytes with
    | .error cause => .error ⟨none, cause⟩
    | .ok (key, rest) =>
        match slot? key.number with
        | none =>
            match _ : skipField key rest with
            | .error cause => .error ⟨none, cause⟩
            | .ok tail => readFields slot? message tail
        | some (.number name set) =>
            if key.form ≠ .varint then .error ⟨some name, .unexpectedForm key.form .varint⟩
            else
              match _ : readVarint rest with
              | none => .error ⟨some name, .badVarint⟩
              | some (n, tail) => readFields slot? (set n message) tail
        | some (.bytes name set) =>
            if key.form ≠ .lengthDelimited then
              .error ⟨some name, .unexpectedForm key.form .lengthDelimited⟩
            else
              match _ : readBytes rest with
              | .error cause => .error ⟨some name, cause⟩
              | .ok (value, tail) =>
                  match set value message with
                  | .error cause => .error ⟨some name, cause⟩
                  | .ok message => readFields slot? message tail
termination_by bytes.length
decreasing_by
  · exact Nat.lt_of_le_of_lt (skipField_length (by assumption)) (readKey_length (by assumption))
  · exact Nat.lt_trans (readVarint_length (by assumption)) (readKey_length (by assumption))
  · exact Nat.lt_trans (readBytes_length (by assumption)) (readKey_length (by assumption))

def numberField (number : Nat) (n : Nat) : List UInt8 :=
  if n = 0 then [] else (Key.mk number .varint).encode ++ varint n

def bytesField (number : Nat) (bytes : List UInt8) : List UInt8 :=
  if bytes = [] then []
  else (Key.mk number .lengthDelimited).encode ++ varint bytes.length ++ bytes

def signedBits (code : Int32) : Nat := (code.toInt % Number.limit 64).toNat

end Courier.Wire
