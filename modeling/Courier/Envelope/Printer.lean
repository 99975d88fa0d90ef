import Courier.Base64
import Courier.Envelope.Basic
import Courier.Json.Printer

/-! Envelopes as JSON objects. -/

namespace Courier.Envelope

def printMember (field : Field) (value : List UInt8) : List UInt8 :=
  Json.printString field.name.toList ++ Json.colon :: value

def encode (envelope : Envelope) : List UInt8 :=
  Json.openObject ::
    (printMember .messageId (Json.printString envelope.messageId.toList) ++ Json.comma ::
      (printMember .topic (Json.printString envelope.topic.toList) ++ Json.comma ::
        (printMember .message
            (Json.quoteMark :: Base64.encode envelope.message ++ [Json.quoteMark]) ++ Json.comma ::
          (printMember .sourceNodeId (Json.printString envelope.sourceNodeId.toList) ++
            [Json.closeObject]))))

end Courier.Envelope
