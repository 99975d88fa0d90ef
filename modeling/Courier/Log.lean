import Courier.Number.Printer
import Courier.Span.Printer
import Courier.Status
import Courier.Text.Hex
import Courier.Wire.Response

/-! What a client logs. -/

namespace Courier

namespace Log

inductive Level where
  | error
  | warn
  | info
  | debug
  deriving DecidableEq, Repr

def Level.name : Level → String
  | .error => "ERROR"
  | .warn => "WARN"
  | .info => "INFO"
  | .debug => "DEBUG"

def traceHead : Nat := 64

def hashPrefix : Nat := 8

inductive Entry where
  | connecting (address : String)
  | closing (address : String)
  | ledgerClosed (lines : Nat)
  | streamClosed
  | pingLimited
  | pingAdvice
  | receiveFailed (error : StreamError)
  | bufferFull (capacity dropped : Nat)
  | workerStopped (worker : Nat)
  | undecodable (size : Nat) (reason : String)
  | unknownFrame (code : Int32)
  | traceReceived (trace : Trace)
  | progress (received : Nat) (elapsed : Span)
  | messageDropped (index attempt : Nat) (error : StreamError)
  | sendFailed (index attempt attempts : Nat) (error : StreamError) (delay : Span)
  | publishFailed (index : Nat) (error : StreamError)
  | taskFailed
  | published (topic : String) (size : Nat) (hash : List Char)
  | batchPublished (sent count : Nat) (topic : String) (elapsed : Span) (dropped : Nat)
  | shuttingDown
  | unsubscribeFailed (error : StreamError)
  | unsubscribeTimedOut
  deriving DecidableEq, Repr

namespace Entry

def level : Entry → Level
  | .receiveFailed _ | .taskFailed => .error
  | .pingLimited | .pingAdvice | .bufferFull .. | .undecodable .. | .messageDropped ..
  | .publishFailed .. => .warn
  | .connecting _ | .ledgerClosed _ | .streamClosed | .unknownFrame _ | .progress ..
  | .sendFailed .. | .batchPublished .. | .shuttingDown => .info
  | .closing _ | .workerStopped _ | .traceReceived _ | .published .. | .unsubscribeFailed _
  | .unsubscribeTimedOut => .debug

end Entry

/-- What is measured while a client runs, and not the same in two runs. -/
inductive Measure where
  | rate (count : Nat) (elapsed : Span)
  | duration (elapsed : Span)
  | hash (digits : List Char)
  deriving DecidableEq, Repr

def Measure.text : Measure → List Char
  | .rate count elapsed =>
      let seconds := elapsed.toFloat
      Number.fixed 2 (if 0.0 < seconds then Float.ofScientific count false 0 / seconds else 0.0)
  | .duration elapsed => elapsed.exactText
  | .hash digits => digits.take hashPrefix

namespace Entry

def text (measure : Measure → List Char) : Entry → String
  | .connecting address => "Connecting to node at: " ++ address ++ "…"
  | .closing address => "closing connection to " ++ address
  | .ledgerClosed lines => s!"Wrote {lines} lines to the hash ledger"
  | .streamClosed => "stream closed by server"
  | .pingLimited =>
      "Connection closed due to keepalive ping limit. This indicates the server has stricter " ++
        "ping limits than expected."
  | .pingAdvice => "Consider adjusting keepalive settings or server configuration."
  | .receiveFailed error => "recv error: " ++ error.message
  | .bufferFull capacity dropped =>
      s!"Message buffer full ({capacity} frames), dropping inbound frame " ++
        s!"({dropped} dropped so far)"
  | .workerStopped worker => s!"worker {worker} stopped"
  | .undecodable size reason => s!"Error decoding message ({size} bytes): " ++ reason
  | .unknownFrame code => "Unknown message type: " ++ toString code.toInt
  | .traceReceived trace =>
      "[TRACE] " ++ trace.protocol.name ++ s!" size={trace.data.length}B head=" ++
        String.ofList (Text.hex (trace.data.take traceHead))
  | .progress received elapsed =>
      s!"Received {received} messages (" ++ String.ofList (measure (.rate received elapsed)) ++
        " msg/s)"
  | .messageDropped index attempt error =>
      s!"Message {index} dropped after {attempt} attempt(s): " ++ error.message
  | .sendFailed index attempt attempts error delay =>
      s!"Send failed for message {index} (attempt {attempt}/{attempts}): " ++ error.message ++
        ". Retrying in " ++ String.ofList delay.exactText
  | .publishFailed index error => s!"Failed to publish message {index}: " ++ error.message
  -- The number that the runtime gives to the task is left out.
  | .taskFailed => "publish task failed: task panicked"
  | .published topic size hash =>
      "Published data on topic " ++ topic ++ s!" size:{size} hash:" ++
        String.ofList (measure (.hash hash))
  | .batchPublished sent count topic elapsed dropped =>
      s!"Published {sent} of {count} messages to topic " ++ topic ++ " in " ++
        String.ofList (measure (.duration elapsed)) ++ s!" ({dropped} dropped)"
  | .shuttingDown => "Shutting down the session..."
  | .unsubscribeFailed error => "unsubscribe not sent: " ++ error.message
  | .unsubscribeTimedOut => "unsubscribe timed out"

end Entry

end Log

end Courier
