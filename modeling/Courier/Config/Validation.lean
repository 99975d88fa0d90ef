import Courier.Config.Basic
import Courier.Text.Class

/-! Which configurations a client starts with. -/

namespace Courier.Config

/-- The least window that the transport allows. -/
def minWindow : Nat := 65535

inductive Count where
  | count
  | workers
  | bufferSize
  | maxConcurrentSends
  deriving DecidableEq, Repr

def Count.name : Count → String
  | .count => "count"
  | .workers => "workers"
  | .bufferSize => "buffer-size"
  | .maxConcurrentSends => "max-concurrent"

def Count.value (config : Config) : Count → Nat
  | .count => config.publishing.count
  | .workers => config.consumer.workers
  | .bufferSize => config.consumer.bufferSize
  | .maxConcurrentSends => config.flowControl.maxConcurrentSends

inductive Window where
  | stream
  | connection
  deriving DecidableEq, Repr

def Window.name : Window → String
  | .stream => "initial-window-size"
  | .connection => "initial-conn-window-size"

def Window.size (config : Config) : Window → Nat
  | .stream => config.connection.streamWindow
  | .connection => config.connection.connectionWindow

inductive Error where
  | missingTopic
  | missingMessage
  | zero (which : Count)
  | lowCeiling (ceiling credits : Nat)
  | smallWindow (window : Window) (size : Nat)
  deriving DecidableEq, Repr

def Error.message : Error → String
  | .missingTopic => "--topic is required"
  | .missingMessage => "--msg is required in publish mode"
  | .zero which => "invalid value for " ++ which.name ++ ": must be at least 1"
  | .lowCeiling ceiling credits =>
      s!"invalid value for max-credits: {ceiling} is below initial-credits {credits}"
  | .smallWindow window size =>
      "invalid value for " ++ window.name ++
        s!": {size} is below the HTTP/2 minimum of {minWindow}"

def lacksMessage (config : Config) : Bool :=
  config.mode = .publish && config.publishing.message.isEmpty && config.publishing.count = 1 &&
    config.publishing.dataSize.isNone

/-- The ceiling of the credit pool, where the pool starts above it. -/
def lowCeiling? (config : Config) : Option Nat :=
  config.flowControl.maxCredits.filter (· < config.flowControl.initialCredits)

def error? (config : Config) : Option Error :=
  if (Text.trim config.topic.toList).isEmpty then some .missingTopic
  else if config.lacksMessage then some .missingMessage
  else
    let counts : List Count := [.count, .workers, .bufferSize, .maxConcurrentSends]
    let windows : List Window := [.stream, .connection]
    (((counts.find? (·.value config = 0)).map Error.zero).or
      (config.lowCeiling?.map (Error.lowCeiling · config.flowControl.initialCredits))).or
      ((windows.find? (·.size config < minWindow)).map fun window =>
        Error.smallWindow window (window.size config))

end Courier.Config
