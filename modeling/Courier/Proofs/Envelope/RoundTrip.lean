import Courier.Envelope.Printer
import Courier.Proofs.Envelope.Layout
import Courier.Proofs.Json.Printing

/-! Envelopes as they are printed: an object with a member for each field, from which the envelope is
read back. -/

namespace Courier.Envelope

open Json (Piece Value Spells Separated MemberOf IsText)

theorem spells_text (text : List Char) : Spells (.text (some text)) (Json.printString text) := by
  obtain ⟨pieces, printed, spells⟩ := Json.spells_printString text
  rw [printed]
  exact .string pieces spells

theorem spells_message (message : List UInt8) :
    ∃ text, Text.encode text = Base64.encode message ∧
      Spells (.text (some text)) (Json.quoteMark :: Base64.encode message ++ [Json.quoteMark]) := by
  have bounds {b : UInt8} (member : b ∈ Base64.encode message) := Base64.bounds_of_mem_encode member
  have ascii : Text.IsAscii (Base64.encode message) := fun b member => (bounds member).2.1
  have encoded := Text.encode_map_ofNat ascii
  refine ⟨_, encoded, ?_⟩
  obtain ⟨pieces, bytes, spells⟩ := Json.exists_plain
    ((Base64.encode message).map fun b => Char.ofNat b.toNat) (by
      intro c member
      obtain ⟨b, inside, rfl⟩ := List.mem_map.mp member
      obtain ⟨large, small, noQuote, noEscape⟩ := bounds inside
      rw [Json.isPlainChar_iff, Text.toNat_ofNat (by omega)]
      exact ⟨fun same => noQuote (UInt8.toNat_inj.mp same),
        fun same => noEscape (UInt8.toNat_inj.mp same), large⟩)
  rw [encoded] at bytes
  have spelled := Spells.string pieces spells
  rwa [Json.quoted, bytes] at spelled

theorem spells_printMember {value : Value} {bytes : List UInt8} (field : Field)
    (spelled : Spells value bytes) :
    MemberOf Spells (some field.name.toList, value) (printMember field bytes) := by
  obtain ⟨name, printed, spells⟩ := Json.spells_printString field.name.toList
  have member := MemberOf.named name spells Json.blank_nil Json.blank_nil spelled
  simpa [printMember, printed] using member

def printed (e : Envelope) (message : List Char) : List (List Char × Value) :=
  [(Field.messageId.name.toList, .text (some e.messageId.toList)),
    (Field.topic.name.toList, .text (some e.topic.toList)),
    (Field.message.name.toList, .text (some message)),
    (Field.sourceNodeId.name.toList, .text (some e.sourceNodeId.toList))]

theorem describes_printed {e : Envelope} {message : List Char}
    (same : Text.encode message = Base64.encode e.message) : Describes (printed e message) e where
  messageId := .inr rfl
  topic := .inr rfl
  message := .inr ⟨message, rfl, same⟩
  sourceNodeId := .inr rfl

theorem isText_encode (e : Envelope) :
    ∃ message, Text.encode message = Base64.encode e.message ∧
      IsText (.object (named (printed e message))) (encode e) := by
  obtain ⟨message, same, isMessage⟩ := spells_message e.message
  have more {member : Option (List Char) × Value} {members : List (Option (List Char) × Value)}
      {bytes rest : List UInt8} (one : MemberOf Spells member bytes)
      (others : Separated (MemberOf Spells) members rest) :
      Separated (MemberOf Spells) (member :: members) (bytes ++ Json.comma :: rest) := by
    simpa using Separated.more one Json.blank_nil Json.blank_nil others
  have last {member : Option (List Char) × Value} {bytes : List UInt8}
      (one : MemberOf Spells member bytes) : Separated (MemberOf Spells) [member] bytes := by
    simpa using Separated.last one Json.blank_nil
  have members := more (spells_printMember .messageId (spells_text e.messageId.toList))
    (more (spells_printMember .topic (spells_text e.topic.toList))
      (more (spells_printMember .message isMessage)
        (last (spells_printMember .sourceNodeId (spells_text e.sourceNodeId.toList)))))
  have text := IsText.mk Json.blank_nil (.object Json.blank_nil members) Json.blank_nil
  refine ⟨message, same, ?_⟩
  simpa [named, printed, encode] using text

/-- An envelope is printed as a JSON object with its members, with the message in base 64, and read
back from that. So no two envelopes are printed alike. -/
theorem survives_json :
    (∀ e : Envelope,
      (∃ message, Text.encode message = Base64.encode e.message ∧
        IsText (.object (named (printed e message))) (encode e)) ∧
      decode (encode e) = .ok e) ∧
    ∀ e e' : Envelope, encode e = encode e' → e = e' := by
  have readBack (e : Envelope) : decode (encode e) = .ok e := by
    obtain ⟨message, same, text⟩ := isText_encode e
    exact (decode_object text).mpr (describes_printed same)
  refine ⟨fun e => ⟨isText_encode e, readBack e⟩, fun e e' same => ?_⟩
  have read := readBack e
  rw [same, readBack e'] at read
  exact (Except.ok.inj read).symm

end Courier.Envelope
