import Courier.CommandLine.Help

/-! Where the value of a flag comes to stand in a configuration, and what it is by default. -/

namespace Courier

open CommandLine

/-- The value of a configuration that a flag names. -/
def Config.valueOf (config : Config) : (flag : Flag) → flag.Value
  | .addr => config.connection.address
  | .mode => config.mode
  | .topic => config.topic
  | .msg => config.publishing.message
  | .count => config.publishing.count
  | .sleep => config.publishing.sleep
  | .dataSize => config.publishing.dataSize
  | .output => config.output
  | .flowControl => config.flowControl.enabled
  | .initialCredits => config.flowControl.initialCredits
  | .creditIncrement => config.flowControl.creditIncrement
  | .maxCredits => config.flowControl.maxCredits
  | .maxRetries => config.flowControl.maxRetries
  | .retryDelay => config.flowControl.retryDelay
  | .pacingDelay => config.flowControl.pacingDelay
  | .bufferSize => config.consumer.bufferSize
  | .workers => config.consumer.workers
  | .maxConcurrent => config.flowControl.maxConcurrentSends
  | .keepaliveInterval => config.connection.keepaliveInterval
  | .keepaliveTimeout => config.connection.keepaliveTimeout
  | .permitWithoutStream => config.connection.permitWithoutStream
  | .initialWindowSize => config.connection.streamWindow
  | .initialConnWindowSize => config.connection.connectionWindow
  | .connectTimeout => config.connection.connectTimeout

theorem Config.eq_of_valueOf {config config' : Config}
    (values : ∀ flag, config.valueOf flag = config'.valueOf flag)
    (polls : config.flowControl.pollInterval = config'.flowControl.pollInterval) :
    config = config' := by
  obtain ⟨_, _, ⟨_, _, _, _, _, _, _⟩, ⟨_, _, _, _, _, _, _, _, _⟩, ⟨_, _⟩, ⟨_, _, _, _⟩, _⟩ := config
  obtain ⟨_, _, ⟨_, _, _, _, _, _, _⟩, ⟨_, _, _, _, _, _, _, _, _⟩, ⟨_, _⟩, ⟨_, _, _, _⟩, _⟩ := config'
  simp only [Config.mk.injEq, Connection.mk.injEq, FlowControl.mk.injEq, Consumer.mk.injEq,
    Publishing.mk.injEq]
  exact ⟨values .mode, values .topic,
    ⟨values .addr, values .keepaliveInterval, values .keepaliveTimeout,
      values .permitWithoutStream, values .initialWindowSize, values .initialConnWindowSize,
      values .connectTimeout⟩,
    ⟨values .flowControl, values .initialCredits, values .creditIncrement, values .maxCredits,
      values .maxRetries, values .retryDelay, values .pacingDelay, values .maxConcurrent, polls⟩,
    ⟨values .bufferSize, values .workers⟩,
    ⟨values .msg, values .count, values .sleep, values .dataSize⟩, values .output⟩

namespace CommandLine

variable {flag other : Flag}

theorem Flag.read_eq_ok_iff {text : String} {value : flag.Value} :
    flag.read text = .ok value ↔ (flag.read text).toOption = some value := by
  cases flag.read text <;> simp [Except.toOption]

namespace Args

@[simp] theorem get_set (args : Args) (value : flag.Value) :
    (args.set flag value).get flag = value := by
  cases flag <;> rfl

theorem get_set_of_ne (args : Args) (value : flag.Value) (differ : other ≠ flag) :
    (args.set flag value).get other = args.get other := by
  cases flag <;> cases other <;> first | rfl | exact absurd rfl differ

@[simp] theorem valueOf_toConfig (args : Args) (flag : Flag) :
    args.toConfig.valueOf flag = args.get flag := by
  cases flag <;> rfl

@[simp] theorem pollInterval_toConfig (args : Args) :
    args.toConfig.flowControl.pollInterval = Defaults.pollInterval :=
  rfl

theorem get_default (flag : Flag) :
    ({} : Args).get flag = ({ topic := "" } : Config).valueOf flag := by
  cases flag <;> rfl

/-- The text that the help shows for a default is read as this default. -/
theorem read_default {text : String} (shown : flag.default? = some text) :
    flag.read text = .ok (({} : Args).get flag) := by
  rw [Flag.read_eq_ok_iff]
  cases flag <;> cases shown <;> decide +kernel

end Args

end CommandLine

end Courier
