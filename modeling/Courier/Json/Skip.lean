import Courier.Json.Number
import Courier.Json.String

/-! Values that are passed over. Their shape is checked but they are not read, and they may be nested
to any depth. -/

namespace Courier.Json

def readLiteral : List UInt8 → List UInt8 → Except Fault (List UInt8)
  | [], bytes => .ok bytes
  | _ :: _, [] => .error (.before .endInValue [])
  | letter :: letters, b :: rest =>
      if b = letter then readLiteral letters rest else .error (.before .expectedLiteral rest)

def nullTail : List UInt8 := [117, 108, 108]
def trueTail : List UInt8 := [114, 117, 101]
def falseTail : List UInt8 := [97, 108, 115, 101]

inductive Bracket where
  | list
  | object
  deriving DecidableEq, Repr

namespace Bracket

def ofByte? : UInt8 → Option Bracket
  | openList => some .list
  | openObject => some .object
  | _ => none

def closing : Bracket → UInt8
  | .list => closeList
  | .object => closeObject

def endCause : Bracket → Cause
  | .list => .endInList
  | .object => .endInObject

def expectedCause : Bracket → Cause
  | .list => .expectedListEnd
  | .object => .expectedObjectEnd

end Bracket

def skipScalar (b : UInt8) (rest : List UInt8) : Except Fault (List UInt8) :=
  if b = 110 then readLiteral nullTail rest
  else if b = 116 then readLiteral trueTail rest
  else if b = 102 then readLiteral falseTail rest
  else if b = minus then skipNumber rest
  else if isDigit b then skipNumber (b :: rest)
  else if b = quoteMark then skipString rest
  else .error (.at .expectedValue (b :: rest))

def readColon (bytes : List UInt8) : Except Fault (List UInt8) :=
  match skipBlanks bytes with
  | [] => .error (.at .endInObject [])
  | colon :: rest => .ok rest
  | rest => .error (.at .expectedColon rest)

def skipKey (bracket : Bracket) (bytes : List UInt8) : Except Fault (List UInt8) :=
  match bracket with
  | .list => .ok bytes
  | .object =>
      match skipBlanks bytes with
      | [] => .error (.at .endInObject [])
      | b :: rest =>
          if b ≠ quoteMark then .error (.at .keyNotString (b :: rest))
          else
            match skipString rest with
            | .error e => .error e
            | .ok rest => readColon rest

def skipOpening (bracket : Bracket) (bytes : List UInt8) : Except Fault (Bool × List UInt8) :=
  match skipBlanks bytes with
  | [] => .error (.at bracket.endCause [])
  | b :: rest =>
      if b = bracket.closing then .ok (true, rest)
      else
        match skipKey bracket (b :: rest) with
        | .error e => .error e
        | .ok rest => .ok (false, rest)

theorem readLiteral_length {letters bytes rest : List UInt8}
    (read : readLiteral letters bytes = .ok rest) : rest.length ≤ bytes.length := by
  induction letters generalizing bytes with
  | nil => simp [readLiteral] at read; simp [read]
  | cons letter letters induction =>
    cases bytes with
    | nil => simp [readLiteral] at read
    | cons b bytes =>
      simp only [readLiteral] at read
      split at read
      · exact Nat.le_succ_of_le (induction read)
      · simp at read

theorem skipScalar_length {b : UInt8} {bytes rest : List UInt8}
    (skipped : skipScalar b bytes = .ok rest) : rest.length ≤ bytes.length := by
  unfold skipScalar at skipped
  repeat' split at skipped
  · exact readLiteral_length skipped
  · exact readLiteral_length skipped
  · exact readLiteral_length skipped
  · exact Nat.le_of_lt (skipNumber_length skipped)
  · exact Nat.le_of_lt_succ (skipNumber_length skipped)
  · exact Nat.le_of_lt (skipString_length skipped)
  · simp at skipped

theorem readColon_length {bytes rest : List UInt8} (read : readColon bytes = .ok rest) :
    rest.length < bytes.length := by
  have shorter := skipBlanks_length bytes
  unfold readColon at read
  split at read
  all_goals simp at read
  rename_i next
  rw [next, List.length_cons, read] at shorter
  omega

theorem skipKey_length {bracket : Bracket} {bytes rest : List UInt8}
    (skipped : skipKey bracket bytes = .ok rest) : rest.length ≤ bytes.length := by
  have shorter := skipBlanks_length bytes
  unfold skipKey at skipped
  split at skipped
  · simp at skipped
    simp [skipped]
  · split at skipped
    · simp at skipped
    · rename_i next
      rw [next, List.length_cons] at shorter
      repeat' split at skipped
      · simp at skipped
      · simp at skipped
      · rename_i name
        have := skipString_length name
        have := readColon_length skipped
        omega

theorem skipOpening_length {bracket : Bracket} {bytes rest : List UInt8} {closed : Bool}
    (skipped : skipOpening bracket bytes = .ok (closed, rest)) : rest.length ≤ bytes.length := by
  have shorter := skipBlanks_length bytes
  unfold skipOpening at skipped
  split at skipped
  · simp at skipped
  · rename_i next
    rw [next, List.length_cons] at shorter
    repeat' split at skipped
    all_goals simp at skipped
    · rw [← skipped.2]
      omega
    · rename_i key
      have := skipKey_length key
      rw [List.length_cons] at this
      rw [← skipped.2]
      omega

theorem skipBlanks_cons_length {bytes rest : List UInt8} {b : UInt8}
    (next : skipBlanks bytes = b :: rest) : rest.length < bytes.length := by
  have shorter := skipBlanks_length bytes
  rw [next, List.length_cons] at shorter
  omega

/-- Passes over the rest of a value, within the brackets `around`, innermost first: a value is due,
or one has just ended. -/
def skipFrom (ended : Bool) (around : List Bracket) (bytes : List UInt8) :
    Except Fault (List UInt8) :=
  if ended then
    match around with
    | [] => .ok bytes
    | bracket :: outer =>
        match _ : skipBlanks bytes with
        | [] => .error (.at bracket.endCause [])
        | b :: rest =>
            if b = bracket.closing then skipFrom true outer rest
            else if b = comma then
              match _ : skipKey bracket rest with
              | .error e => .error e
              | .ok rest => skipFrom false around rest
            else .error (.at bracket.expectedCause (b :: rest))
  else
    match _ : skipBlanks bytes with
    | [] => .error (.at .endInValue [])
    | b :: rest =>
        match Bracket.ofByte? b with
        | some bracket =>
            match _ : skipOpening bracket rest with
            | .error e => .error e
            | .ok (closed, rest) =>
                skipFrom closed (if closed then around else bracket :: around) rest
        | none =>
            match _ : skipScalar b rest with
            | .error e => .error e
            | .ok rest => skipFrom true around rest
termination_by bytes.length
decreasing_by
  · exact skipBlanks_cons_length (by assumption)
  · exact Nat.lt_of_le_of_lt (skipKey_length (by assumption))
      (skipBlanks_cons_length (by assumption))
  · exact Nat.lt_of_le_of_lt (skipOpening_length (by assumption))
      (skipBlanks_cons_length (by assumption))
  · exact Nat.lt_of_le_of_lt (skipScalar_length (by assumption))
      (skipBlanks_cons_length (by assumption))

theorem skipFrom_length {ended : Bool} {around : List Bracket} {bytes rest : List UInt8}
    (skipped : skipFrom ended around bytes = .ok rest) : rest.length ≤ bytes.length := by
  induction size : bytes.length using Nat.strongRecOn generalizing bytes rest ended around with
  | ind n induction =>
    rw [skipFrom.eq_def] at skipped
    split at skipped
    · split at skipped
      · simp only [Except.ok.injEq] at skipped
        have := congrArg List.length skipped
        omega
      · split at skipped
        · simp at skipped
        · rename_i next
          have shorter := skipBlanks_cons_length next
          repeat' split at skipped
          · have := induction _ (by omega) skipped rfl
            omega
          · simp at skipped
          · rename_i key
            have := skipKey_length key
            have := induction _ (by omega) skipped rfl
            omega
          · simp at skipped
    · split at skipped
      · simp at skipped
      · rename_i next
        have shorter := skipBlanks_cons_length next
        split at skipped
        · split at skipped
          · simp at skipped
          · rename_i opening
            have := skipOpening_length opening
            have := induction _ (by omega) skipped rfl
            omega
        · split at skipped
          · simp at skipped
          · rename_i scalar
            have := skipScalar_length scalar
            have := induction _ (by omega) skipped rfl
            omega

def skipValue (bytes : List UInt8) : Except Fault (List UInt8) :=
  skipFrom false [] bytes

theorem skipValue_length {bytes rest : List UInt8} (skipped : skipValue bytes = .ok rest) :
    rest.length ≤ bytes.length :=
  skipFrom_length skipped

end Courier.Json
