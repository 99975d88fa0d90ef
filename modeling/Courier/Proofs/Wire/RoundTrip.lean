import Courier.Proofs.Text.Utf8
import Courier.Proofs.Wire.Fields
import Courier.Wire.Request
import Courier.Wire.Response

/-! What a client sends and what it receives survive the wire: a message is read back from its bytes,
and a command from its request. -/

namespace Courier.Wire

open Number

namespace Request

/-- A length is a number of 64 bits, in memory as on the wire. -/
structure Fits (request : Request) : Prop where
  topic : (Text.bytesOf request.topic).length < limit 64
  data : request.data.length < limit 64

theorem command?_ofCommand (command : Command) : (ofCommand command).command? = some command := by
  cases command <;> rfl

theorem ofCommand_injective {command command' : Command}
    (same : ofCommand command = ofCommand command') : command = command' := by
  have carried := congrArg command? same
  rw [command?_ofCommand, command?_ofCommand] at carried
  exact Option.some.inj carried

theorem decode_encode {request : Request} (fits : request.Fits) :
    decode request.encode = .ok request := by
  obtain ⟨command, topic, data⟩ := request
  calc
    decode (encode ⟨command, topic, data⟩) =
        readFields slot? ⟨0, "", []⟩
          (numberField 1 (signedBits command) ++
            (bytesField 2 (Text.bytesOf topic) ++ bytesField 3 data)) := by
      rw [decode, encode, List.append_assoc]
    _ = readFields slot? ⟨command, "", []⟩
          (bytesField 2 (Text.bytesOf topic) ++ bytesField 3 data) := by
      rw [readFields_numberField rfl (by decide) (by decide) (signedBits_lt command)
        (fun zero => by rw [zero]; rfl), ofNat_signedBits]
    _ = readFields slot? ⟨command, topic, []⟩ (bytesField 3 data) := by
      apply readFields_bytesField rfl (by decide) (by decide) fits.topic
      · rw [Text.bytesOf, Text.decode?_encode]
        simp only [String.ofList_toList]
      · intro empty
        have letters : topic.toList = [] := Text.encode_injective empty
        rw [← String.ofList_toList (s := topic), letters]
    _ = readFields slot? ⟨command, topic, data⟩ [] := by
      rw [← List.append_nil (bytesField 3 data)]
      exact readFields_bytesField rfl (by decide) (by decide) fits.data rfl (fun empty => by rw [empty])
    _ = .ok ⟨command, topic, data⟩ := readFields_nil ..

end Request

namespace Response

theorem decode_encode {response : Response} (fits : response.data.length < limit 64) :
    decode response.encode = .ok response := by
  obtain ⟨command, data⟩ := response
  calc
    decode (encode ⟨command, data⟩) =
        readFields slot? ⟨command, []⟩ (bytesField 2 data) := by
      rw [decode, encode, readFields_numberField rfl (by decide) (by decide)
        (signedBits_lt command) (fun zero => by rw [zero]; rfl), ofNat_signedBits]
    _ = readFields slot? ⟨command, data⟩ [] := by
      rw [← List.append_nil (bytesField 2 data)]
      exact readFields_bytesField rfl (by decide) (by decide) fits rfl (fun empty => by rw [empty])
    _ = .ok ⟨command, data⟩ := readFields_nil ..

end Response

structure Stands (response : Response) (inbound : Inbound) : Prop where
  message : response.command = 1 → inbound = .message response.data
  gossipTrace : response.command = 2 → inbound = .trace ⟨.gossipSub, response.data⟩
  meshTrace : response.command = 3 → inbound = .trace ⟨.optimumP2P, response.data⟩
  unknown : response.command ∉ [1, 2, 3] → inbound = .unknown response.command

theorem ResponseKind.ofCode?_eq_none {code : Int32} (unassigned : code ∉ [0, 1, 2, 3]) :
    ofCode? code = none := by
  simp only [List.mem_cons, List.not_mem_nil, or_false, not_or] at unassigned
  obtain ⟨zero, one, two, three⟩ := unassigned
  rw [ofCode?, List.find?_eq_none]
  intro kind _
  cases kind <;> simpa [ResponseKind.code, eq_comm] using ‹_›

theorem stands_ofResponse (response : Response) : Stands response (.ofResponse response) := by
  obtain ⟨code, data⟩ := response
  refine ⟨?_, ?_, ?_, ?_⟩
  · rintro rfl
    rfl
  · rintro rfl
    rfl
  · rintro rfl
    rfl
  · intro other
    by_cases zero : code = 0
    · subst zero
      rfl
    · rw [Inbound.ofResponse, ResponseKind.ofCode?_eq_none]
      simpa [zero] using other

/-- Commands and frames come out of the wire as they went in, and no two commands look alike on it. -/
theorem survives_wire :
    (∀ command : Command, (Request.ofCommand command).Fits →
      Request.decode (Request.ofCommand command).encode = .ok (.ofCommand command) ∧
        (Request.ofCommand command).command? = some command) ∧
    (∀ command command' : Command, (Request.ofCommand command).Fits →
      (Request.ofCommand command').Fits →
        (Request.ofCommand command).encode = (Request.ofCommand command').encode →
          command = command') ∧
    (∀ response : Response, response.data.length < limit 64 →
      Response.decode response.encode = .ok response ∧
        Stands response (.ofResponse response)) := by
  refine ⟨?_, ?_, ?_⟩
  · intro command fits
    exact ⟨Request.decode_encode fits, Request.command?_ofCommand command⟩
  · intro command command' fits fits' same
    apply Request.ofCommand_injective
    have read := (Request.decode_encode fits).symm.trans
      ((congrArg Request.decode same).trans (Request.decode_encode fits'))
    exact Except.ok.inj read
  · intro response fits
    exact ⟨Response.decode_encode fits, stands_ofResponse response⟩

private def post : Command := .publish "tägliche Post" (List.replicate 300 7)

private def surprise : Response := ⟨-7, [1, 2]⟩

theorem survives_wire_where_negative :
    (Request.ofCommand post).Fits ∧
      Request.decode (Request.ofCommand post).encode = .ok (.ofCommand post) ∧
        (Request.ofCommand post).encode ≠ (Request.ofCommand (.subscribe post.topic)).encode ∧
          Response.decode surprise.encode = .ok surprise ∧
            Inbound.ofResponse surprise = .unknown (-7) := by
  obtain ⟨commands, distinct, frames⟩ := survives_wire
  have fits : (Request.ofCommand post).Fits := by
    refine ⟨by decide, ?_⟩
    rw [post, Request.ofCommand, List.length_replicate]
    decide
  have fits' : (Request.ofCommand (.subscribe post.topic)).Fits := ⟨by decide, by decide⟩
  have frame := frames surprise (by decide)
  refine ⟨fits, (commands post fits).1, ?_, frame.1, frame.2.unknown (by decide)⟩
  intro same
  cases distinct _ _ fits fits' same

end Courier.Wire
