import Courier.Program

/-! The program's outer layer: it makes the output file, and prints. -/

open Courier

namespace Courier.Main

/-- Makes the output file that the arguments name, as far as that can be done. -/
def makeOutput (arguments : List String) : IO (Option FileError) := do
  match CommandLine.parse arguments with
  | .error _ => return none
  | .ok config =>
      match config.error?, config.output with
      | none, some path =>
          try
            IO.FS.writeFile path (Client.header config.mode ++ "\n")
            return none
          catch _ =>
            return some (if path.endsWith "/" then .isDirectory else .notFound)
      | _, _ => return none

def environment (fileError : Option FileError) (wall : Nat) (seed : Nat) : Client.Environment where
  fileError? _ := fileError
  node? _ := none
  gates := none
  signal := none
  wall
  random index place := ((seed + index * 65537 + place * 257) * 2654435761 / 65536).toUInt8

end Courier.Main

def main (arguments : List String) : IO UInt32 := do
  let fileError ← Courier.Main.makeOutput arguments
  let wall ← IO.monoNanosNow
  let seed ← IO.rand 0 (Number.limit 32)
  let outcome := Program.run arguments (Courier.Main.environment fileError wall seed)
  IO.print (outcome.output .plain)
  match outcome.complaint with
  | some text => IO.eprintln text
  | none => pure ()
  return outcome.exitCode.toUInt32
