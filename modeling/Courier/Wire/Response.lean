import Courier.Wire.Message

/-! Events that a node pushes, on the wire, and what they stand for. -/

namespace Courier.Wire

inductive ResponseKind where
  | unknown
  | message
  | gossipTrace
  | meshTrace
  deriving DecidableEq, Repr

namespace ResponseKind

def all : List ResponseKind := [.unknown, .message, .gossipTrace, .meshTrace]

def code (kind : ResponseKind) : Int32 := .ofNat kind.ctorIdx

def name : ResponseKind → String
  | .unknown => "Unknown"
  | .message => "Message"
  | .gossipTrace => "MessageTraceGossipSub"
  | .meshTrace => "MessageTraceOptimumP2P"

def ofCode? (code : Int32) : Option ResponseKind := all.find? (·.code = code)

def ofName? (name : String) : Option ResponseKind := all.find? (·.name = name)

end ResponseKind

structure Response where
  command : Int32
  data : List UInt8
  deriving DecidableEq, Repr

namespace Response

def encode (response : Response) : List UInt8 :=
  numberField 1 (signedBits response.command) ++ bytesField 2 response.data

def slot? : Nat → Option (Slot Response)
  | 1 => some (.number "Response.command" fun n response => { response with command := .ofNat n })
  | 2 => some (.bytes "Response.data" fun bytes response => .ok { response with data := bytes })
  | _ => none

def decode (bytes : List UInt8) : Except DecodeError Response :=
  readFields slot? ⟨0, []⟩ bytes

end Response

end Courier.Wire

namespace Courier

inductive Protocol where
  | gossipSub
  | optimumP2P
  deriving DecidableEq, Repr

def Protocol.name : Protocol → String
  | .gossipSub => "GossipSub"
  | .optimumP2P => "OptimumP2P"

structure Trace where
  protocol : Protocol
  data : List UInt8
  deriving DecidableEq, Repr

inductive Inbound where
  | message (data : List UInt8)
  | trace (trace : Trace)
  | unknown (code : Int32)
  deriving DecidableEq, Repr

def Inbound.ofResponse (response : Wire.Response) : Inbound :=
  match Wire.ResponseKind.ofCode? response.command with
  | some .message => .message response.data
  | some .gossipTrace => .trace ⟨.gossipSub, response.data⟩
  | some .meshTrace => .trace ⟨.optimumP2P, response.data⟩
  | some .unknown | none => .unknown response.command

end Courier
