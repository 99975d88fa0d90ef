import Courier.CommandLine.Flag

/-! The values of all flags, and the configuration that they make up. -/

namespace Courier.CommandLine

structure Args where
  addr : String := Defaults.address
  mode : Mode := .subscribe
  topic : String := ""
  msg : String := ""
  count : Nat := 1
  sleep : Span := .zero
  dataSize : Option Nat := none
  output : Option String := none
  flowControl : Bool := true
  initialCredits : Nat := Defaults.initialCredits
  creditIncrement : Nat := Defaults.creditIncrement
  maxCredits : Option Nat := none
  maxRetries : UInt32 := Defaults.maxRetries
  retryDelay : Span := .ofMillis 100
  pacingDelay : Span := .ofMicros 100
  bufferSize : Nat := Defaults.bufferSize
  workers : Nat := Defaults.workers
  maxConcurrent : Nat := Defaults.maxConcurrentSends
  keepaliveInterval : Span := .ofSeconds 120
  keepaliveTimeout : Span := .ofSeconds 20
  permitWithoutStream : Bool := true
  initialWindowSize : Nat := Defaults.streamWindow
  initialConnWindowSize : Nat := Defaults.connectionWindow
  connectTimeout : Span := .ofSeconds 10
  deriving DecidableEq, Repr

namespace Args

def get (args : Args) : (flag : Flag) → flag.Value
  | .addr => args.addr
  | .mode => args.mode
  | .topic => args.topic
  | .msg => args.msg
  | .count => args.count
  | .sleep => args.sleep
  | .dataSize => args.dataSize
  | .output => args.output
  | .flowControl => args.flowControl
  | .initialCredits => args.initialCredits
  | .creditIncrement => args.creditIncrement
  | .maxCredits => args.maxCredits
  | .maxRetries => args.maxRetries
  | .retryDelay => args.retryDelay
  | .pacingDelay => args.pacingDelay
  | .bufferSize => args.bufferSize
  | .workers => args.workers
  | .maxConcurrent => args.maxConcurrent
  | .keepaliveInterval => args.keepaliveInterval
  | .keepaliveTimeout => args.keepaliveTimeout
  | .permitWithoutStream => args.permitWithoutStream
  | .initialWindowSize => args.initialWindowSize
  | .initialConnWindowSize => args.initialConnWindowSize
  | .connectTimeout => args.connectTimeout

def set (args : Args) : (flag : Flag) → flag.Value → Args
  | .addr, value => { args with addr := value }
  | .mode, value => { args with mode := value }
  | .topic, value => { args with topic := value }
  | .msg, value => { args with msg := value }
  | .count, value => { args with count := value }
  | .sleep, value => { args with sleep := value }
  | .dataSize, value => { args with dataSize := value }
  | .output, value => { args with output := value }
  | .flowControl, value => { args with flowControl := value }
  | .initialCredits, value => { args with initialCredits := value }
  | .creditIncrement, value => { args with creditIncrement := value }
  | .maxCredits, value => { args with maxCredits := value }
  | .maxRetries, value => { args with maxRetries := value }
  | .retryDelay, value => { args with retryDelay := value }
  | .pacingDelay, value => { args with pacingDelay := value }
  | .bufferSize, value => { args with bufferSize := value }
  | .workers, value => { args with workers := value }
  | .maxConcurrent, value => { args with maxConcurrent := value }
  | .keepaliveInterval, value => { args with keepaliveInterval := value }
  | .keepaliveTimeout, value => { args with keepaliveTimeout := value }
  | .permitWithoutStream, value => { args with permitWithoutStream := value }
  | .initialWindowSize, value => { args with initialWindowSize := value }
  | .initialConnWindowSize, value => { args with initialConnWindowSize := value }
  | .connectTimeout, value => { args with connectTimeout := value }

def settings (args : Args) : List Config.Setting :=
  [.mode args.mode, .address args.addr,
   .keepaliveInterval args.keepaliveInterval, .keepaliveTimeout args.keepaliveTimeout,
   .permitWithoutStream args.permitWithoutStream,
   .streamWindow args.initialWindowSize, .connectionWindow args.initialConnWindowSize,
   .connectTimeout args.connectTimeout,
   .message args.msg, .count args.count, .sleep args.sleep, .dataSize args.dataSize,
   .flowControl args.flowControl, .initialCredits args.initialCredits,
   .creditIncrement args.creditIncrement, .maxCredits args.maxCredits,
   .maxRetries args.maxRetries, .retryDelay args.retryDelay, .pacingDelay args.pacingDelay,
   .maxConcurrentSends args.maxConcurrent,
   .bufferSize args.bufferSize, .workers args.workers, .output args.output]

def toConfig (args : Args) : Config := args.settings.foldl Config.set { topic := args.topic }

end Args

end Courier.CommandLine
