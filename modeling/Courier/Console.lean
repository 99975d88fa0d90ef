import Courier.Text.Quoted
import Courier.Text.Utf8

/-! What a client prints. -/

namespace Courier.Console

inductive Line where
  | subscribed (topic : String)
  | received (seq nanos : Nat) (message : List UInt8)
  | ledgerFlushed
  | interrupted
  deriving DecidableEq, Repr

def Line.text (seq nanos : Nat → String) : Line → String
  | .subscribed topic =>
      "Subscribed to topic " ++ String.ofList (Text.quote topic.toList) ++
        ", waiting for messages…"
  | .received number time message =>
      "Recv message: [" ++ seq number ++ "] [" ++ nanos time ++ s!" {message.length}] " ++
        Text.lossy message
  | .ledgerFlushed => "All data flushed to disk"
  | .interrupted => "shutting down…"

end Courier.Console
