import Courier.Config.Validation
import Courier.Files
import Courier.Node
import Courier.Uri

/-! A client from its configuration to its report: it checks the configuration, makes the ledger, dials
the node and runs a session. -/

namespace Courier

namespace Client

inductive Error where
  | config (error : Config.Error)
  | output (error : FileError)
  | invalidAddress (address : String)
  | unreachable (address : String)
  | stream (error : StreamError)
  deriving DecidableEq, Repr

def Error.message : Error → String
  | .config error => error.message
  | .output error => "output file: " ++ error.message
  | .invalidAddress address => "invalid node address " ++ address ++ ": invalid URI"
  | .unreachable address => "failed to connect to node " ++ address ++ ": transport error"
  | .stream error => error.message

structure Environment where
  fileError? : String → Option FileError
  node? : String → Option Node
  /-- The gates for deliveries, where they are not the usual ones. -/
  gates : Option (List Gate)
  signal : Option Signal
  wall : Nat
  random : Nat → Nat → UInt8

def defaultGates : List Gate := [.console, .traceLog]

def uri (address : String) : String :=
  if Text.occurs "://".toList address.toList then address else "http://" ++ address

def outboundQueueDepth : Nat := 1024

def header : Mode → String
  | .publish => Ledger.publishHeader
  | .subscribe => Ledger.receiveHeader

def gatesOf (config : Config) (env : Environment) : List Gate :=
  env.gates.getD defaultGates ++
    if config.output.isSome ∧ config.mode = .subscribe then
      [.ledger (String.ofList (Address.tag config.connection.address.toList))]
    else []

def ledgerOf (config : Config) : Option Ledger :=
  config.output.map fun _ => .create (header config.mode)

structure Outcome where
  result : Except Error Session.Report
  world : Option World
  ledger : Option Ledger

def surroundings (config : Config) (env : Environment) (node : Node) : Surroundings where
  sink := .accepting
  feed := node.feed
  ledger := ledgerOf config
  wall := env.wall
  random := env.random
  cancelled := false
  checked := false
  outside := []
  signal := env.signal

/-- What a session came to. One without a result would have lost its stream. -/
def resultOf (w : World) : Except Error Session.Report :=
  match w.sessionResult? with
  | some (.ok report) => .ok report
  | some (.error error) => .error (.stream error)
  | none => .error (.stream .closed)

def runSession (config : Config) (env : Environment) (node : Node) : Outcome :=
  let address := config.connection.address
  let w := runUntil (α := Agent) World.sessionEnded (Number.limit 64)
    (World.ofSession config (surroundings config env node)
      (config.mode = .publish && config.output.isSome) (gatesOf config env))
  let log := [.connecting address] ++ w.shared.log ++ [.closing address]
  let closed := { w with shared := { w.shared with log } }.closeLedger
  let ledger := closed.shared.ledger
  let told := ledger.map fun ledger => Log.Entry.ledgerClosed ledger.lines.length
  ⟨resultOf w, some { closed with shared := closed.shared.noteAll told.toList }, ledger⟩

def run (config : Config) (env : Environment) : Outcome :=
  let address := config.connection.address
  match config.error? with
  | some error => ⟨.error (.config error), none, none⟩
  | none =>
      match config.output.bind env.fileError? with
      | some error => ⟨.error (.output error), none, none⟩
      | none =>
          let ledger := ledgerOf config
          if !Uri.isValid (Text.bytesOf (uri address)) then
            ⟨.error (.invalidAddress address), none, ledger⟩
          else
            match env.node? address with
            | none => ⟨.error (.unreachable address), none, ledger⟩
            | some node => runSession config env node

end Client

end Courier
