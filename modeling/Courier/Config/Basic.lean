import Courier.Config.Defaults

/-! What a client is told before it starts. -/

namespace Courier

inductive Mode where
  | subscribe
  | publish
  deriving DecidableEq, Repr

namespace Config

structure Connection where
  address : String := Defaults.address
  keepaliveInterval : Span := Defaults.keepaliveInterval
  keepaliveTimeout : Span := Defaults.keepaliveTimeout
  permitWithoutStream : Bool := Defaults.permitWithoutStream
  streamWindow : Nat := Defaults.streamWindow
  connectionWindow : Nat := Defaults.connectionWindow
  connectTimeout : Span := Defaults.connectTimeout
  deriving DecidableEq, Repr

structure FlowControl where
  /-- Without flow control messages are sent one after the other. -/
  enabled : Bool := Defaults.flowControl
  initialCredits : Nat := Defaults.initialCredits
  creditIncrement : Nat := Defaults.creditIncrement
  maxCredits : Option Nat := none
  maxRetries : UInt32 := Defaults.maxRetries
  retryDelay : Span := Defaults.retryDelay
  pacingDelay : Span := Defaults.pacingDelay
  maxConcurrentSends : Nat := Defaults.maxConcurrentSends
  pollInterval : Span := Defaults.pollInterval
  deriving DecidableEq, Repr

structure Consumer where
  bufferSize : Nat := Defaults.bufferSize
  workers : Nat := Defaults.workers
  deriving DecidableEq, Repr

structure Publishing where
  message : String := ""
  count : Nat := Defaults.count
  /-- The pause between two messages that are sent without flow control. -/
  sleep : Span := .zero
  dataSize : Option Nat := none
  deriving DecidableEq, Repr

end Config

structure Config where
  mode : Mode := .subscribe
  topic : String
  connection : Config.Connection := {}
  flowControl : Config.FlowControl := {}
  consumer : Config.Consumer := {}
  publishing : Config.Publishing := {}
  output : Option String := none
  deriving DecidableEq, Repr

namespace Config

inductive Setting where
  | mode (mode : Mode)
  | topic (text : String)
  | address (text : String)
  | keepaliveInterval (span : Span)
  | keepaliveTimeout (span : Span)
  | permitWithoutStream (permit : Bool)
  | streamWindow (size : Nat)
  | connectionWindow (size : Nat)
  | connectTimeout (span : Span)
  | flowControl (enabled : Bool)
  | initialCredits (n : Nat)
  | creditIncrement (n : Nat)
  | maxCredits (n : Option Nat)
  | maxRetries (n : UInt32)
  | retryDelay (span : Span)
  | pacingDelay (span : Span)
  | maxConcurrentSends (n : Nat)
  | pollInterval (span : Span)
  | bufferSize (n : Nat)
  | workers (n : Nat)
  | message (text : String)
  | count (n : Nat)
  | sleep (span : Span)
  | dataSize (n : Option Nat)
  | output (path : Option String)
  deriving DecidableEq, Repr

def set (config : Config) : Setting → Config
  | .mode mode => { config with mode }
  | .topic text => { config with topic := text }
  | .address text => { config with connection.address := text }
  | .keepaliveInterval span => { config with connection.keepaliveInterval := span }
  | .keepaliveTimeout span => { config with connection.keepaliveTimeout := span }
  | .permitWithoutStream permit => { config with connection.permitWithoutStream := permit }
  | .streamWindow size => { config with connection.streamWindow := size }
  | .connectionWindow size => { config with connection.connectionWindow := size }
  | .connectTimeout span => { config with connection.connectTimeout := span }
  | .flowControl enabled => { config with flowControl.enabled := enabled }
  | .initialCredits n => { config with flowControl.initialCredits := n }
  | .creditIncrement n => { config with flowControl.creditIncrement := n }
  | .maxCredits n => { config with flowControl.maxCredits := n }
  | .maxRetries n => { config with flowControl.maxRetries := n }
  | .retryDelay span => { config with flowControl.retryDelay := span }
  | .pacingDelay span => { config with flowControl.pacingDelay := span }
  | .maxConcurrentSends n => { config with flowControl.maxConcurrentSends := n }
  | .pollInterval span => { config with flowControl.pollInterval := span }
  | .bufferSize n => { config with consumer.bufferSize := n }
  | .workers n => { config with consumer.workers := n }
  | .message text => { config with publishing.message := text }
  | .count n => { config with publishing.count := n }
  | .sleep span => { config with publishing.sleep := span }
  | .dataSize n => { config with publishing.dataSize := n }
  | .output path => { config with output := path }

/-- How often a message is tried at most. The count wraps around in 32 bits. -/
def FlowControl.attempts (flow : FlowControl) : UInt32 := flow.maxRetries + 1

end Config

end Courier
