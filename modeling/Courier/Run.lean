/-! Running parts in virtual time. While a part can move the clock stands still; the part that has
waited longest moves, as far as it can. When none can move the clock goes on to the next time that a
part waits for. Each part gets its turn, so this is one of the orders in which the steps may come. -/

namespace Courier

/-- A state with parts that move in steps and wait for the clock. -/
class Machine (σ : Type) (α : outParam Type) where
  agents : σ → List α
  step : σ → α → Option σ
  deadlines : σ → List Nat
  clock : σ → Nat
  setClock : σ → Nat → σ
  /-- The parts that a run is about. They come first when the clock has moved. -/
  leads : α → Bool

structure Run (σ α : Type) where
  state : σ
  /-- The parts, the one that moved last at the end. -/
  order : List α

namespace Run

variable {σ α : Type} [Machine σ α]

def ofState (state : σ) : Run σ α := ⟨state, Machine.agents state⟩

def exhaust (agent : α) : Nat → σ → σ
  | 0, state => state
  | fuel + 1, state =>
      match Machine.step state agent with
      | none => state
      | some state => exhaust agent fuel state

def pick (state : σ) (before : List α) : List α → Option (List α × α × List α)
  | [] => none
  | agent :: after =>
      if (Machine.step state agent).isSome then some (before.reverse, agent, after)
      else pick state (agent :: before) after

/-- More steps than a part makes without waiting. -/
def stepLimit : Nat := 1000000

/-- The turn of a part. The parts that it started come after all others and before it. -/
def turn? (run : Run σ α) : Option (Run σ α) :=
  (pick run.state [] run.order).map fun (before, agent, after) =>
    let state := exhaust agent stepLimit run.state
    let fresh := (Machine.agents state).drop run.order.length
    ⟨state, before ++ after ++ fresh ++ [agent]⟩

def wake (run : Run σ α) (now : Nat) : Run σ α :=
  { state := Machine.setClock run.state now
    order :=
      run.order.filter (Machine.leads σ) ++ run.order.filter (!Machine.leads σ ·) }

def nextTime? (run : Run σ α) : Option Nat :=
  ((Machine.deadlines run.state).filter (Machine.clock run.state < ·)).min?

/-- At the last moment only the parts that the run is about move. -/
def lastTurn (run : Run σ α) : Run σ α :=
  { run with
    state :=
      (run.order.filter (Machine.leads σ)).foldl
        (fun state agent => exhaust agent stepLimit state) run.state }

def proceed (isDone : σ → Bool) (guard : Nat) : Nat → Run σ α → Run σ α
  | 0, run => run
  | fuel + 1, run =>
      if isDone run.state then run
      else
        match run.turn? with
        | some run => proceed isDone guard fuel run
        | none =>
            match run.nextTime? with
            | some time =>
                if time < guard then proceed isDone guard fuel (run.wake time)
                else lastTurn (run.wake guard)
            | none => run.wake guard

def turnLimit : Nat := 100000000

end Run

/-- Runs in virtual time until it is done. It is given up after so many milliseconds. -/
def runUntil {σ α : Type} [Machine σ α] (isDone : σ → Bool) (guard : Nat) (state : σ) : σ :=
  (Run.proceed isDone (Machine.clock state + guard) Run.turnLimit (Run.ofState (α := α) state)).state

end Courier
