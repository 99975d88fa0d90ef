import Courier.Setup

/-! Nodes that a client connects to: a node takes commands and pushes what its script says. -/

namespace Courier

structure Node where
  refusal : Option Status
  /-- The commands that the node reads before it pushes anything. -/
  commands : Nat
  frames : List Wire.Response
  ending : Option Arrival
  deriving DecidableEq, Repr

namespace Node

def reactionTime : Nat := 30

def arrivals (node : Node) : List (Nat × Arrival) :=
  node.frames.map (fun frame => (reactionTime, Arrival.frame frame)) ++
    node.ending.toList.map fun ending => (2 * reactionTime, ending)

def feed (node : Node) : Feed :=
  match node.refusal, node.commands with
  | some status, _ => .ofScript [(reactionTime, .failed status)] false
  | none, 0 => .ofScript node.arrivals false
  | none, commands => ⟨[], some ⟨commands, node.arrivals⟩, false, []⟩

end Node

end Courier
