import Courier.CommandLine.Parser
import Courier.Number.Printer
import Courier.Span.Printer
import Courier.Text.Terminal

/-! What the command line answers when it gives no configuration. -/

namespace Courier.CommandLine

def programName : String := "p2p_client"
def packageName : String := "optimum_p2p_client"
def packageVersion : String := "0.1.0"

namespace Flag

def about? : Flag → Option String
  | .addr => some "sidecar gRPC address"
  | .topic => some "topic name"
  | .msg => some "message data (for publish)"
  | .count => some "number of messages to publish"
  | .sleep => some "delay between publishes when flow control is off (e.g. 1s, 500ms)"
  | .dataSize =>
      some "publish `<sender>-<hex>` payloads with this many random bytes instead of `--msg`"
  | .output => some "write a hash ledger of every published or received message to this file"
  | .creditIncrement => some "credits added per successful send and per received message"
  | .maxCredits => some "upper bound of the credit pool (unbounded if not set)"
  | .pacingDelay => some "pause between admitted sends"
  | .maxConcurrent => some "maximum publishes in flight"
  | .permitWithoutStream => some "send keepalive pings while no stream is open"
  | .initialWindowSize => some "HTTP/2 stream receive window in bytes"
  | .initialConnWindowSize => some "HTTP/2 connection receive window in bytes"
  | _ => none

def default? : Flag → Option String
  | .addr => some Defaults.address
  | .mode => some "subscribe"
  | .topic | .msg => some ""
  | .count => some (toString Defaults.count)
  | .sleep => some "0"
  | .flowControl => some (toString Defaults.flowControl)
  | .initialCredits => some (toString Defaults.initialCredits)
  | .creditIncrement => some (toString Defaults.creditIncrement)
  | .maxRetries => some (toString Defaults.maxRetries)
  | .retryDelay => some "100ms"
  | .pacingDelay => some "100us"
  | .bufferSize => some (toString Defaults.bufferSize)
  | .workers => some (toString Defaults.workers)
  | .maxConcurrent => some (toString Defaults.maxConcurrentSends)
  | .keepaliveInterval => some "2m"
  | .keepaliveTimeout => some "20s"
  | .permitWithoutStream => some (toString Defaults.permitWithoutStream)
  | .initialWindowSize => some (toString Defaults.streamWindow)
  | .initialConnWindowSize => some (toString Defaults.connectionWindow)
  | .connectTimeout => some "10s"
  | .dataSize | .output | .maxCredits => none

def help (flag : Flag) : String :=
  let defaultNote := flag.default?.map fun text =>
    "[default: " ++ (if text.isEmpty then "\"\"" else text) ++ "]"
  let choiceNote :=
    if flag.choices.isEmpty then none
    else some ("[possible values: " ++ ", ".intercalate flag.choices ++ "]")
  let notes := [flag.about?, defaultNote, choiceNote].filterMap id
  "      " ++ flag.usage ++ "\n          " ++ " ".intercalate notes ++ "\n"

end Flag

def helpText : String :=
  "Flow-controlled client for the OptimumP2P sidecar\n\nUsage: " ++ programName ++
    " [OPTIONS]\n\nOptions:\n" ++ String.join (Flag.all.map Flag.help) ++
    "  -h, --help\n          Print help\n  -V, --version\n          Print version\n"

def versionText : String := packageName ++ " " ++ packageVersion ++ "\n"

namespace Refusal

def isError : Refusal → Bool
  | .help | .version => false
  | _ => true

def exitCode (refusal : Refusal) : Nat := if refusal.isError then 2 else 0

def wording : Refusal → String
  | .help => helpText
  | .version => versionText
  | .unknown argument => "error: unexpected argument '" ++ argument ++ "' found"
  | .repeated flag =>
      "error: the argument '" ++ flag.usage ++ "' cannot be used multiple times"
  | .value flag _ .missing =>
      "error: a value is required for '" ++ flag.usage ++ "' but none was supplied"
  | .value flag text .notOneOf =>
      "error: invalid value '" ++ text ++ "' for '" ++ flag.usage ++ "'"
  | .value flag text (.number e) =>
      "error: invalid value '" ++ text ++ "' for '" ++ flag.usage ++ "': " ++ e.message
  | .value flag text (.span e) =>
      "error: invalid value '" ++ text ++ "' for '" ++ flag.usage ++ "': " ++ e.message
  | .unneeded argument text =>
      "error: unexpected value '" ++ text ++ "' for '" ++ argument ++
        "' found; no more were expected"

/-- What a refusal says. Of the arguments that it quotes only what is seen of them remains. -/
def message (refusal : Refusal) : String := Text.plain refusal.wording

end Refusal

end Courier.CommandLine
