import Courier.Client
import Courier.CommandLine.Help
import Courier.Statistics.Report

/-! The program: a client that is configured by its command line, and that ends with its statistics. -/

namespace Courier.Program

structure Outcome where
  exitCode : Nat
  lines : List Console.Line
  stats : Option (Statistics × Span)
  answer : Option String
  complaint : Option String

def failed (message : String) : Option String := some ("Error: " ++ message)

def ofClient (outcome : Client.Outcome) : Outcome :=
  let lines := (outcome.world.map (·.shared.console)).getD []
  match outcome.result with
  | .error error => ⟨1, lines, none, none, failed error.message⟩
  | .ok report =>
      let elapsed := Span.ofMillis ((outcome.world.map (·.shared.now)).getD 0)
      match report.error? with
      | none => ⟨0, lines, some (report.stats, elapsed), none, none⟩
      | some error => ⟨1, lines, some (report.stats, elapsed), none, failed error.message⟩

def run (arguments : List String) (env : Client.Environment) : Outcome :=
  match CommandLine.parse arguments with
  | .ok config => ofClient (Client.run config env)
  | .error refusal =>
      if refusal.isError then ⟨refusal.exitCode, [], none, none, some refusal.message⟩
      else ⟨refusal.exitCode, [], none, some refusal.message, none⟩

structure Style where
  nanos : Nat → String
  measured : Statistics → Span → Option Statistics.Measured

def Style.plain : Style := ⟨toString, Statistics.measured?⟩

def Outcome.output (style : Style) (outcome : Outcome) : String :=
  let statistics := match outcome.stats with
    | none => ""
    | some (stats, elapsed) =>
        ((style.measured stats elapsed).map fun measured => stats.report measured ++ "\n").getD ""
  outcome.answer.getD "" ++
    String.join (outcome.lines.map fun line => line.text toString style.nanos ++ "\n") ++
    statistics

end Courier.Program
