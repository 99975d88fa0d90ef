import Courier.Number.Power
import Courier.Text.Utf8
import Courier.Wire.Varint

/-! The fields that a message on the wire is made of. Each starts with a key, which holds its number
and the form of its value. -/

namespace Courier.Wire

inductive Form where
  | varint
  | sixtyFourBit
  | lengthDelimited
  | startGroup
  | endGroup
  | thirtyTwoBit
  deriving DecidableEq, Repr

def Form.number (form : Form) : Nat := form.ctorIdx

def Form.name : Form → String
  | .varint => "Varint"
  | .sixtyFourBit => "SixtyFourBit"
  | .lengthDelimited => "LengthDelimited"
  | .startGroup => "StartGroup"
  | .endGroup => "EndGroup"
  | .thirtyTwoBit => "ThirtyTwoBit"

def Form.ofNumber? : Nat → Option Form
  | 0 => some .varint
  | 1 => some .sixtyFourBit
  | 2 => some .lengthDelimited
  | 3 => some .startGroup
  | 4 => some .endGroup
  | 5 => some .thirtyTwoBit
  | _ => none

inductive Cause where
  | badVarint
  | badKey (value : Nat)
  | badForm (value : Nat)
  | badNumber
  | unexpectedForm (found expected : Form)
  | unexpectedEndGroup
  | underflow
  | notText
  | tooDeep
  deriving DecidableEq, Repr

def Cause.message : Cause → String
  | .badVarint => "invalid varint"
  | .badKey value => s!"invalid key value: {value}"
  | .badForm value => s!"invalid wire type value: {value}"
  | .badNumber => "invalid tag value: 0"
  | .unexpectedForm found expected =>
      s!"invalid wire type: {found.name} (expected {expected.name})"
  | .unexpectedEndGroup => "unexpected end group tag"
  | .underflow => "buffer underflow"
  | .notText => "invalid string value: data is not UTF-8 encoded"
  | .tooDeep => "recursion limit reached"

/-- Why bytes are no message, and the field whose value is at fault where it is one that the message
declares. -/
structure DecodeError where
  field : Option String
  cause : Cause
  deriving DecidableEq, Repr

def DecodeError.message (e : DecodeError) : String :=
  "failed to decode Protobuf message: " ++
    (match e.field with
    | some field => field ++ ": "
    | none => "") ++ e.cause.message

structure Key where
  number : Nat
  form : Form
  deriving DecidableEq, Repr

def Key.encode (key : Key) : List UInt8 := varint (key.number * 8 + key.form.number)

def readKey (bytes : List UInt8) : Except Cause (Key × List UInt8) :=
  match readVarint bytes with
  | none => .error .badVarint
  | some (value, rest) =>
      if Number.limit 32 ≤ value then .error (.badKey value)
      else
        match Form.ofNumber? (value % 8) with
        | none => .error (.badForm (value % 8))
        | some form =>
            if value / 8 = 0 then .error .badNumber else .ok (⟨value / 8, form⟩, rest)

theorem readKey_length {bytes rest : List UInt8} {key : Key}
    (read : readKey bytes = .ok (key, rest)) : rest.length < bytes.length := by
  unfold readKey at read
  split at read
  · simp at read
  · rename_i value tail varint
    repeat' split at read
    all_goals simp at read
    rw [← read.2]
    exact readVarint_length varint

def takeBytes (count : Nat) (bytes : List UInt8) : Except Cause (List UInt8 × List UInt8) :=
  if bytes.length < count then .error .underflow else .ok (bytes.take count, bytes.drop count)

theorem takeBytes_length {count : Nat} {bytes taken rest : List UInt8}
    (found : takeBytes count bytes = .ok (taken, rest)) : rest.length ≤ bytes.length := by
  unfold takeBytes at found
  split at found
  · simp at found
  · simp at found
    rw [← found.2]
    simp

def readBytes (bytes : List UInt8) : Except Cause (List UInt8 × List UInt8) :=
  match readVarint bytes with
  | none => .error .badVarint
  | some (count, rest) => takeBytes count rest

theorem readBytes_length {bytes taken rest : List UInt8}
    (read : readBytes bytes = .ok (taken, rest)) : rest.length < bytes.length := by
  unfold readBytes at read
  split at read
  · simp at read
  · rename_i count tail length
    exact Nat.lt_of_le_of_lt (takeBytes_length read) (readVarint_length length)

def skipValue (form : Form) (bytes : List UInt8) : Except Cause (List UInt8) :=
  match form with
  | .varint =>
      match readVarint bytes with
      | none => .error .badVarint
      | some (_, rest) => .ok rest
  | .sixtyFourBit => (takeBytes 8 bytes).map (·.2)
  | .thirtyTwoBit => (takeBytes 4 bytes).map (·.2)
  | .lengthDelimited => (readBytes bytes).map (·.2)
  | .startGroup => .ok bytes
  | .endGroup => .error .unexpectedEndGroup

theorem skipValue_length {form : Form} {bytes rest : List UInt8}
    (skipped : skipValue form bytes = .ok rest) : rest.length ≤ bytes.length := by
  cases form <;> simp only [skipValue] at skipped
  · split at skipped
    · simp at skipped
    · rename_i varint
      simp at skipped
      rw [← skipped]
      exact Nat.le_of_lt (readVarint_length varint)
  · cases found : takeBytes 8 bytes with
    | error => simp [found, Except.map] at skipped
    | ok parts =>
        simp [found, Except.map] at skipped
        rw [← skipped]
        exact takeBytes_length found
  · cases found : readBytes bytes with
    | error => simp [found, Except.map] at skipped
    | ok parts =>
        simp [found, Except.map] at skipped
        rw [← skipped]
        exact Nat.le_of_lt (readBytes_length found)
  · simp at skipped
    simp [skipped]
  · simp at skipped
  · cases found : takeBytes 4 bytes with
    | error => simp [found, Except.map] at skipped
    | ok parts =>
        simp [found, Except.map] at skipped
        rw [← skipped]
        exact takeBytes_length found

def depthLimit : Nat := 100

/-- Passes over one field within the open groups, the innermost first: the groups that are open
after it, and the bytes that follow. -/
def skipInGroup (number : Nat) (outer : List Nat) (bytes : List UInt8) :
    Except Cause (List Nat × List UInt8) :=
  match readKey bytes with
  | .error e => .error e
  | .ok (key, rest) =>
      if key.form = .endGroup then
        if key.number = number then .ok (outer, rest) else .error .unexpectedEndGroup
      else if depthLimit ≤ outer.length + 1 then .error .tooDeep
      else if key.form = .startGroup then .ok (key.number :: number :: outer, rest)
      else (skipValue key.form rest).map fun tail => (number :: outer, tail)

theorem skipInGroup_length {number : Nat} {outer groups : List Nat} {bytes rest : List UInt8}
    (skipped : skipInGroup number outer bytes = .ok (groups, rest)) : rest.length < bytes.length := by
  unfold skipInGroup at skipped
  split at skipped
  · simp at skipped
  · rename_i key tail read
    have shorter := readKey_length read
    repeat' split at skipped
    · cases skipped
      exact shorter
    · cases skipped
    · cases skipped
    · cases skipped
      exact shorter
    · cases value : skipValue key.form tail with
      | error => simp [value, Except.map] at skipped
      | ok after =>
          simp [value, Except.map] at skipped
          have := skipValue_length value
          rw [← skipped.2]
          omega

def skipGroups (groups : List Nat) (bytes : List UInt8) : Except Cause (List UInt8) :=
  match groups with
  | [] => .ok bytes
  | number :: outer =>
      match _ : skipInGroup number outer bytes with
      | .error e => .error e
      | .ok (groups, rest) => skipGroups groups rest
termination_by bytes.length
decreasing_by exact skipInGroup_length (by assumption)

theorem skipGroups_length {groups : List Nat} {bytes rest : List UInt8}
    (skipped : skipGroups groups bytes = .ok rest) : rest.length ≤ bytes.length := by
  fun_induction skipGroups groups bytes with
  | case1 => simp_all
  | case2 => simp_all
  | case3 _ _ _ _ _ field induction =>
      exact Nat.le_trans (induction skipped) (Nat.le_of_lt (skipInGroup_length field))

def skipField (key : Key) (bytes : List UInt8) : Except Cause (List UInt8) :=
  match key.form with
  | .startGroup => skipGroups [key.number] bytes
  | form => skipValue form bytes

theorem skipField_length {key : Key} {bytes rest : List UInt8}
    (skipped : skipField key bytes = .ok rest) : rest.length ≤ bytes.length := by
  unfold skipField at skipped
  split at skipped
  · exact skipGroups_length skipped
  · exact skipValue_length skipped

end Courier.Wire
