import Courier.Envelope.Basic
import Courier.Ledger
import Courier.Proofs.Address.Tags
import Courier.Proofs.Text.Utf8
import Courier.Publishing.Publication

/-! Whom a subscriber takes for the publisher of a random payload: whoever signed it with the tag of
an address. -/

namespace Courier

namespace Payload

variable {sender : String} {random : List UInt8}

theorem signature?_signed (filled : random ≠ []) :
    Envelope.signature? (signed sender random) = some sender.toList :=
  Envelope.signature?_eq_some_iff.mpr
    ⟨Text.hex random, rfl, Text.hex_ne_nil filled, fun _ => Text.isHexDigit_of_mem_hex⟩

theorem signature?_signed_nil (sender : String) :
    Envelope.signature? (signed sender []) = none := by
  have cut := Text.cutLast?_append (List.not_mem_nil (a := '-')) sender.toList
  simp [Envelope.signature?, signed, Text.hex, cut]

theorem findQuad_signed_of_isQuad (named : Address.IsQuad sender.toList)
    (random : List UInt8) :
    Address.findQuad (signed sender random) = some sender.toList :=
  named.findQuad_append (Address.isBeyond_cons (by decide) _)

private theorem findQuad_hex (random : List UInt8) : Address.findQuad (Text.hex random) = none := by
  rw [Address.findQuad_eq_none_iff]
  intro piece within given
  have point := within.subset given.point_mem
  exact absurd (Text.isHexDigit_of_mem_hex point) (by decide)

theorem findQuad_signed_of_none (unnamed : Address.findQuad sender.toList = none)
    (random : List UInt8) : Address.findQuad (signed sender random) = none :=
  Address.findQuad_append_cons_eq_none (by decide) (by decide) unnamed (findQuad_hex random)

end Payload

namespace Envelope

theorem publisherOf_encode (text : List Char) :
    publisherOf (Text.encode text) = ((Address.findQuad text).or (signature? text)).getD [] := by
  rw [publisherOf, Text.decodeLossy_encode]

variable {sender : String} {random : List UInt8}

theorem publisherOf_signed_of_isQuad (named : Address.IsQuad sender.toList)
    (random : List UInt8) :
    publisherOf (Text.encode (Payload.signed sender random)) = sender.toList := by
  rw [publisherOf_encode, Payload.findQuad_signed_of_isQuad named]
  rfl

theorem publisherOf_signed_of_none (unnamed : Address.findQuad sender.toList = none)
    (random : List UInt8) :
    publisherOf (Text.encode (Payload.signed sender random)) =
      if random = [] then [] else sender.toList := by
  rw [publisherOf_encode, Payload.findQuad_signed_of_none unnamed, Option.none_or]
  split
  case isTrue empty =>
      rw [empty, Payload.signature?_signed_nil]
      rfl
  case isFalse filled =>
      rw [Payload.signature?_signed filled]
      rfl

end Envelope

theorem Ledger.receiveLine_eq_publishLine (receiver publisher : String) (message : List UInt8) :
    receiveLine receiver publisher message =
      receiver ++ "\t" ++ publishLine publisher message := by
  simp [receiveLine, publishLine, String.append_assoc]

namespace Publication

variable {p : Publication} {size : Nat}

theorem payload_of_dataSize (sized : p.dataSize = some size) (nanos index : Nat) :
    p.payload nanos index = Text.encode (Payload.signed p.sender (p.draw index size)) := by
  rw [payload, sized]

theorem draw_eq_nil_iff {index : Nat} : p.draw index size = [] ↔ size = 0 := by
  rw [draw, List.map_eq_nil_iff, List.range_eq_nil]

/-- A publisher signs its random payloads with the tag of an address, and a subscriber reads that
tag back from them, so that the lines for a payload in the two ledgers name the same publisher,
length and digest. Without random bytes only a quad is read back. -/
theorem random_payload_attributed (address : String)
    (signs : p.sender = String.ofList (Address.tag address.toList))
    (sized : p.dataSize = some size) (nanos index : Nat) (envelope : Envelope)
    (carries : envelope.message = p.payload nanos index) :
    (0 < size →
      envelope.publisher = p.sender ∧
        ∀ receiver, Ledger.receiveLine receiver envelope.publisher envelope.message =
          receiver ++ "\t" ++ Ledger.publishLine p.sender (p.payload nanos index)) ∧
    (size = 0 →
      (Address.IsQuad (Address.tag address.toList) → envelope.publisher = p.sender) ∧
        (¬Address.IsQuad (Address.tag address.toList) → envelope.publisher = "")) := by
  have sender : p.sender.toList = Address.tag address.toList := by rw [signs, String.toList_ofList]
  rw [payload_of_dataSize sized] at carries
  have named (quad : Address.IsQuad (Address.tag address.toList)) :
      envelope.publisher = p.sender := by
    rw [← sender] at quad
    rw [Envelope.publisher, carries, Envelope.publisherOf_signed_of_isQuad quad,
      String.ofList_toList]
  have unnamed (host : ¬Address.IsQuad (Address.tag address.toList)) :
      envelope.publisher = if size = 0 then "" else p.sender := by
    have missing := Address.findQuad_tag_of_not_isQuad host
    rw [← sender] at missing
    rw [Envelope.publisher, carries, Envelope.publisherOf_signed_of_none missing]
    simp only [draw_eq_nil_iff]
    split
    · rfl
    · exact String.ofList_toList
  refine ⟨fun filled => ?_, fun empty => ⟨named, fun host => ?_⟩⟩
  · have same : envelope.publisher = p.sender := by
      by_cases quad : Address.IsQuad (Address.tag address.toList)
      · exact named quad
      · rw [unnamed quad, if_neg (Nat.ne_of_gt filled)]
    refine ⟨same, fun receiver => ?_⟩
    rw [same, carries, payload_of_dataSize sized, Ledger.receiveLine_eq_publishLine]
  · rw [unnamed host, if_pos empty]

private def dashed : Publication where
  topic := "news"
  template := ""
  count := 1
  sender := "node-a-ff"
  records := true
  dataSize := some 2
  sleep := .zero
  random := fun _ place => place.toUInt8

theorem random_payload_attributed_where_dashed :
    dashed.sender = String.ofList (Address.tag "http://node-a-ff:33212/x".toList) ∧
      dashed.dataSize = some 2 ∧ 0 < 2 ∧
        dashed.payload 0 0 = Text.bytesOf "node-a-ff-0001" ∧
          Envelope.publisher ⟨"id", "news", dashed.payload 0 0, "node"⟩ = "node-a-ff" ∧
            Ledger.receiveLine "node-b"
                (Envelope.publisher ⟨"id", "news", dashed.payload 0 0, "node"⟩)
                (dashed.payload 0 0) =
              "node-b" ++ "\t" ++ Ledger.publishLine "node-a-ff" (dashed.payload 0 0) := by
  have signs : dashed.sender = String.ofList (Address.tag "http://node-a-ff:33212/x".toList) := by
    decide
  have attributed := random_payload_attributed "http://node-a-ff:33212/x" signs rfl 0 0
    ⟨"id", "news", dashed.payload 0 0, "node"⟩ rfl
  obtain ⟨same, lines⟩ := attributed.1 (by decide)
  exact ⟨signs, rfl, by decide, by decide, same, lines "node-b"⟩

end Publication

end Courier
