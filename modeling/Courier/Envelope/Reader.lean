import Courier.Base64
import Courier.Envelope.Basic
import Courier.Json.Skip

/-! Envelopes read from JSON: an object with at most one member for each field, in any order and
among any others, or a list of the fields in their order. A field that is missing is empty, and so
is the message where it is `null`. -/

namespace Courier.Envelope

inductive Cause where
  | json (cause : Json.Cause)
  | duplicate (field : Field)
  | base64 (error : Base64.DecodeError)
  deriving Repr

def Cause.message : Cause → String
  | .json cause => cause.message
  | .duplicate field => "duplicate field `" ++ field.name ++ "`"
  | .base64 error => error.message

structure DecodeError where
  cause : Cause
  place : Json.Place
  deriving Repr

def DecodeError.message (error : DecodeError) : String :=
  "error unmarshalling message: " ++ error.cause.message ++
    s!" at line {error.place.line} column {error.place.column}"

/-- A failure while reading. What is wrong with a value, and not with how it is written, is reported
where the reader stops after it; until then it has no place. -/
inductive Failure where
  | placed (fault : Json.Fault)
  | unplaced (cause : Cause) (rest : List UInt8)
  deriving Repr

structure Draft where
  messageId : Option String
  topic : Option String
  message : Option (List UInt8)
  sourceNodeId : Option String
  deriving DecidableEq, Repr

namespace Draft

def empty : Draft := ⟨none, none, none, none⟩

def has (draft : Draft) : Field → Bool
  | .messageId => draft.messageId.isSome
  | .topic => draft.topic.isSome
  | .message => draft.message.isSome
  | .sourceNodeId => draft.sourceNodeId.isSome

def finish (draft : Draft) : Envelope where
  messageId := draft.messageId.getD ""
  topic := draft.topic.getD ""
  message := draft.message.getD []
  sourceNodeId := draft.sourceNodeId.getD ""

end Draft

/-- The fault of a value that has another type than the one expected. A list or an object is not
looked into, any other value is read first. -/
def unexpected (expected : String) (b : UInt8) (rest : List UInt8) : Json.Fault :=
  let wrong found rest := Json.Fault.before (.unexpectedType found expected) rest
  let literal letters found :=
    match Json.readLiteral letters rest with
    | .error fault => fault
    | .ok rest => wrong found rest
  let number negative bytes :=
    match Json.readNumber negative bytes with
    | .error fault => fault
    | .ok (found, rest) => wrong found rest
  if b = 110 then literal Json.nullTail .null
  else if b = 116 then literal Json.trueTail (.boolean true)
  else if b = 102 then literal Json.falseTail (.boolean false)
  else if b = Json.minus then number true rest
  else if Json.isDigit b then number false (b :: rest)
  else if b = Json.quoteMark then
    match Json.readString rest with
    | .error fault => fault
    | .ok (text, rest) => wrong (.text text) rest
  else if b = Json.openList then wrong .list (b :: rest)
  else if b = Json.openObject then wrong .object (b :: rest)
  else .at .expectedValue (b :: rest)

def readText (bytes : List UInt8) : Except Json.Fault (List Char × List UInt8) :=
  match Json.skipBlanks bytes with
  | [] => .error (.at .endInValue [])
  | b :: rest =>
      if b = Json.quoteMark then Json.readString rest
      else .error (unexpected "a string" b rest)

def readBytes (bytes : List UInt8) : Except Failure (List UInt8 × List UInt8) :=
  match Json.skipBlanks bytes with
  | 110 :: rest =>
      match Json.readLiteral Json.nullTail rest with
      | .error fault => .error (.placed fault)
      | .ok rest => .ok ([], rest)
  | rest =>
      match readText rest with
      | .error fault => .error (.placed fault)
      | .ok (text, rest) =>
          match Base64.decode (Text.encode text) with
          | .error error => .error (.unplaced (.base64 error) rest)
          | .ok message => .ok (message, rest)

def Draft.read (draft : Draft) (field : Field) (bytes : List UInt8) :
    Except Failure (Draft × List UInt8) :=
  let text (set : String → Draft) :=
    match readText bytes with
    | .error fault => .error (.placed fault)
    | .ok (text, rest) => .ok (set (String.ofList text), rest)
  match field with
  | .messageId => text fun value => { draft with messageId := some value }
  | .topic => text fun value => { draft with topic := some value }
  | .sourceNodeId => text fun value => { draft with sourceNodeId := some value }
  | .message =>
      match readBytes bytes with
      | .error failure => .error failure
      | .ok (value, rest) => .ok ({ draft with message := some value }, rest)

def readKeyMark (isFirst : Bool) (bytes : List UInt8) : Except Json.Fault (Bool × List UInt8) :=
  match Json.skipBlanks bytes with
  | [] => .error (.at .endInObject [])
  | b :: rest =>
      if b = Json.closeObject then .ok (false, b :: rest)
      else if isFirst then
        if b = Json.quoteMark then .ok (true, rest) else .error (.at .keyNotString (b :: rest))
      else if b = Json.comma then
        match Json.skipBlanks rest with
        | [] => .error (.at .endInValue [])
        | c :: tail =>
            if c = Json.quoteMark then .ok (true, tail)
            else if c = Json.closeObject then .error (.at .trailingComma (c :: tail))
            else .error (.at .keyNotString (c :: tail))
      else .error (.at .expectedObjectEnd (b :: rest))

def readSeparator (isFirst : Bool) (bytes : List UInt8) : Except Json.Fault (Bool × List UInt8) :=
  match Json.skipBlanks bytes with
  | [] => .error (.at .endInList [])
  | b :: rest =>
      if b = Json.closeList then .ok (false, b :: rest)
      else if isFirst then .ok (true, b :: rest)
      else if b = Json.comma then
        match Json.skipBlanks rest with
        | [] => .error (.at .endInValue [])
        | c :: tail =>
            if c = Json.closeList then .error (.at .trailingComma (c :: tail))
            else .ok (true, c :: tail)
      else .error (.at .expectedListEnd (b :: rest))

theorem readText_length {bytes rest : List UInt8} {text : List Char}
    (read : readText bytes = .ok (text, rest)) : rest.length < bytes.length := by
  unfold readText at read
  split at read
  · simp at read
  · rename_i next
    have := Json.skipBlanks_cons_length next
    split at read
    · have := Json.readString_length read
      omega
    · simp at read

theorem readBytes_length {bytes rest message : List UInt8}
    (read : readBytes bytes = .ok (message, rest)) : rest.length < bytes.length := by
  have shorter := Json.skipBlanks_length bytes
  unfold readBytes at read
  split at read
  · rename_i next
    have := Json.skipBlanks_cons_length next
    split at read
    · simp at read
    · rename_i literal
      have := Json.readLiteral_length literal
      simp at read
      rw [← read.2]
      omega
  · split at read
    · simp at read
    · rename_i text
      have := readText_length text
      split at read
      · simp at read
      · simp at read
        rw [← read.2]
        omega

theorem Draft.read_length {draft read : Draft} {field : Field} {bytes rest : List UInt8}
    (found : draft.read field bytes = .ok (read, rest)) : rest.length < bytes.length := by
  unfold Draft.read at found
  cases field
  all_goals
    simp only at found
    split at found
    · simp at found
    · simp at found
      rw [← found.2]
      first
      | exact readText_length (by assumption)
      | exact readBytes_length (by assumption)

theorem readKeyMark_length {isFirst more : Bool} {bytes rest : List UInt8}
    (read : readKeyMark isFirst bytes = .ok (more, rest)) : rest.length ≤ bytes.length := by
  have shorter := Json.skipBlanks_length bytes
  unfold readKeyMark at read
  split at read
  · simp at read
  · rename_i b tail next
    rw [next] at shorter
    have := Json.skipBlanks_cons_length next
    repeat' split at read
    all_goals simp at read
    · rw [← read.2]
      exact shorter
    · rw [← read.2]
      omega
    · rename_i mark _
      have := Json.skipBlanks_cons_length mark
      rw [← read.2]
      omega

def readMembers (isFirst : Bool) (draft : Draft) (bytes : List UInt8) :
    Except Failure (Draft × List UInt8) :=
  match _ : readKeyMark isFirst bytes with
  | .error fault => .error (.placed fault)
  | .ok (false, rest) => .ok (draft, rest)
  | .ok (true, rest) =>
      match _ : Json.readString rest with
      | .error fault => .error (.placed fault)
      | .ok (key, rest) =>
          match Field.ofName? key with
          | none =>
              match _ : Json.readColon rest with
              | .error fault => .error (.placed fault)
              | .ok rest =>
                  match _ : Json.skipValue rest with
                  | .error fault => .error (.placed fault)
                  | .ok rest => readMembers false draft rest
          | some field =>
              if draft.has field then .error (.unplaced (.duplicate field) rest)
              else
                match _ : Json.readColon rest with
                | .error fault => .error (.placed fault)
                | .ok rest =>
                    match _ : draft.read field rest with
                    | .error failure => .error failure
                    | .ok (draft, rest) => readMembers false draft rest
termination_by bytes.length
decreasing_by
  · have := Json.skipValue_length (by assumption)
    have := Json.readColon_length (by assumption)
    have := Json.readString_length (by assumption)
    have := readKeyMark_length (by assumption)
    omega
  · have := Draft.read_length (by assumption)
    have := Json.readColon_length (by assumption)
    have := Json.readString_length (by assumption)
    have := readKeyMark_length (by assumption)
    omega

/-- The elements of a list that stand for the given fields. A list may end before any of them. -/
def readElements (isFirst : Bool) (draft : Draft) (bytes : List UInt8) :
    List Field → Except Failure (Draft × List UInt8)
  | [] => .ok (draft, bytes)
  | field :: fields =>
      match readSeparator isFirst bytes with
      | .error fault => .error (.placed fault)
      | .ok (false, rest) => .ok (draft, rest)
      | .ok (true, rest) =>
          match draft.read field rest with
          | .error failure => .error failure
          | .ok (draft, rest) => readElements false draft rest fields

def closeElements (bytes : List UInt8) : Except Json.Fault (List UInt8) :=
  match Json.skipBlanks bytes with
  | [] => .error (.at .endInList [])
  | b :: rest =>
      if b = Json.closeList then .ok rest
      else if b = Json.comma then
        match Json.skipBlanks rest with
        | Json.closeList :: tail => .error (.at .trailingComma (Json.closeList :: tail))
        | tail => .error (.at .trailingCharacters tail)
      else .error (.at .trailingCharacters (b :: rest))

def stopInObject (bytes : List UInt8) : List UInt8 :=
  match Json.skipBlanks bytes with
  | Json.closeObject :: rest => rest
  | rest => rest

def stopInList (bytes : List UInt8) : List UInt8 :=
  match Json.skipBlanks bytes with
  | Json.closeList :: rest => rest
  | Json.comma :: rest => Json.skipBlanks rest
  | rest => rest

def Failure.settle (stop : List UInt8 → List UInt8) : Failure → Cause × Nat
  | .placed fault => (.json fault.cause, fault.left)
  | .unplaced cause rest => (cause, (stop rest).length)

def read (bytes : List UInt8) : Except (Cause × Nat) (Envelope × List UInt8) :=
  match Json.skipBlanks bytes with
  | [] => .error (.json .endInValue, 0)
  | b :: rest =>
      if b = Json.openObject then
        match readMembers true .empty rest with
        | .error failure => .error (failure.settle stopInObject)
        | .ok (draft, rest) => .ok (draft.finish, stopInObject rest)
      else if b = Json.openList then
        match readElements true .empty rest Field.all with
        | .error failure => .error (failure.settle stopInList)
        | .ok (draft, rest) =>
            match closeElements rest with
            | .error fault => .error (.json fault.cause, fault.left)
            | .ok rest => .ok (draft.finish, rest)
      else
        let fault := unexpected "struct Envelope" b rest
        .error (.json fault.cause, fault.left)

def decode (bytes : List UInt8) : Except DecodeError Envelope :=
  let failed cause left : Except DecodeError Envelope :=
    .error ⟨cause, .after bytes (bytes.length - left)⟩
  match read bytes with
  | .error (cause, left) => failed cause left
  | .ok (envelope, rest) =>
      match Json.skipBlanks rest with
      | [] => .ok envelope
      | _ :: rest => failed (.json .trailingCharacters) rest.length

end Courier.Envelope
