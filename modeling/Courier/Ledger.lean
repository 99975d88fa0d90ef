import Courier.Digest
import Courier.Text.Utf8

/-! The hash ledger: a file with a header and a line for each message. Lines are queued, and a writer
moves them to the file. -/

namespace Courier

namespace Ledger

def queueDepth : Nat := 100

def publishHeader : String := "sender\tsize\tsha256(msg)"

def receiveHeader : String := "receiver\tpublisher\tsize\tsha256(msg)"

def publishLine (sender : String) (payload : List UInt8) : String :=
  sender ++ s!"\t{payload.length}\t" ++ String.ofList (Digest.sha256Hex payload)

def receiveLine (receiver publisher : String) (message : List UInt8) : String :=
  receiver ++ "\t" ++ publisher ++ s!"\t{message.length}\t" ++
    String.ofList (Digest.sha256Hex message)

end Ledger

structure Ledger where
  header : String
  queue : List String
  lines : List String
  writing : Bool
  deriving DecidableEq, Repr

namespace Ledger

def create (header : String) : Ledger := ⟨header, [], [], true⟩

def record? (ledger : Ledger) (line : String) : Option Ledger :=
  if ledger.queue.length < queueDepth then some { ledger with queue := ledger.queue ++ [line] }
  else none

def write? (ledger : Ledger) : Option Ledger :=
  match ledger.queue with
  | [] => none
  | line :: queue => some { ledger with queue, lines := ledger.lines ++ [line] }

def stop (ledger : Ledger) : Ledger := { ledger with writing := false }

def content (ledger : Ledger) : String :=
  String.join ((ledger.header :: ledger.lines).map (· ++ "\n"))

/-- Queues a line, for which the writer makes room if there is none. -/
def record (ledger : Ledger) (line : String) : Ledger :=
  match ledger.record? line with
  | some ledger => ledger
  | none =>
      match ledger.write? with
      | some ledger => (ledger.record? line).getD ledger
      | none => ledger

def drain (ledger : Ledger) : Ledger :=
  { ledger with queue := [], lines := ledger.lines ++ ledger.queue }

end Ledger

end Courier
