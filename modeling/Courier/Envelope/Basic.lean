import Courier.Address
import Courier.Text.Hex
import Courier.Text.Utf8

/-! The application messages that a node delivers. -/

namespace Courier

structure Envelope where
  messageId : String
  topic : String
  message : List UInt8
  sourceNodeId : String
  deriving DecidableEq, Repr

namespace Envelope

def signature? (text : List Char) : Option (List Char) :=
  match Text.cutLast? '-' text with
  | some (tag, digits) =>
      if !digits.isEmpty && digits.all Text.isHexDigit then some tag else none
  | none => none

theorem signature?_eq_some_iff {text tag : List Char} :
    signature? text = some tag ↔
      ∃ digits, text = tag ++ '-' :: digits ∧ digits ≠ [] ∧
        ∀ c ∈ digits, Text.isHexDigit c = true := by
  constructor
  · intro signed
    unfold signature? at signed
    split at signed
    case h_1 before digits cut =>
        split at signed
        case isTrue hex =>
            cases signed
            obtain ⟨filled, hex⟩ := Bool.and_eq_true_iff.mp hex
            exact ⟨digits, (Text.eq_append_of_cutLast? cut).1, by simpa using filled,
              List.all_eq_true.mp hex⟩
        case isFalse => cases signed
    case h_2 => cases signed
  · rintro ⟨digits, rfl, filled, hex⟩
    have missing : '-' ∉ digits := fun member => absurd (hex _ member) (by decide)
    have cut := Text.cutLast?_append missing tag
    have all : digits.all Text.isHexDigit = true := List.all_eq_true.mpr hex
    simp [signature?, cut, all, filled]

/-- Who published a payload: the first dotted quad in it, else the tag that a random payload is
signed with, else nobody. -/
def publisherOf (payload : List UInt8) : List Char :=
  let text := Text.decodeLossy payload
  ((Address.findQuad text).or (signature? text)).getD []

def publisher (envelope : Envelope) : String := String.ofList (publisherOf envelope.message)

inductive Field where
  | messageId
  | topic
  | message
  | sourceNodeId
  deriving DecidableEq, Repr

def Field.all : List Field := [.messageId, .topic, .message, .sourceNodeId]

def Field.name : Field → String
  | .messageId => "MessageID"
  | .topic => "Topic"
  | .message => "Message"
  | .sourceNodeId => "SourceNodeID"

def Field.ofName? (name : List Char) : Option Field :=
  all.find? (·.name.toList = name)

end Envelope

end Courier
