import Courier.Proofs.History
import Courier.Proofs.Places
import Courier.Setup

/-! The runs of a client. Its parts move in any order, and the clock may go on between any two
steps, so that every timing and every interleaving is a run. -/

namespace Courier

/-- A client is left to itself, with a sink and a stream. -/
def Surroundings.alone (sink : Sink) (feed : Feed) : Surroundings where
  sink
  feed
  ledger := none
  wall := 0
  random := fun _ _ => 0
  cancelled := false
  checked := false
  outside := []
  signal := none

namespace World

inductive Motion where
  | part (agent : Agent)
  | clock (now : Nat)
  deriving DecidableEq

def times (plan : List (Nat × Motion)) : List Motion :=
  plan.flatMap fun (count, motion) => List.replicate count motion

def advance (w : World) : Motion → Option World
  | .part agent => w.step agent
  | .clock now => if w.shared.now ≤ now then some (w.setClock now) else none

/-- `Move w motion w'`: the part that moves, what it was and what it is after its step. -/
inductive Move (w : World) : Motion → World → Prop where
  | session {session session' : Session} {shared : Shared}
      (running : w.session = some session)
      (moved : session.step w.view w.shared = some (shared, session')) :
      Move w (.part .session) { w with shared, session := some session' }
  | publisher {publisher publisher' : Publisher} {shared : Shared} {started : Option SendTask}
      (running : w.publisher = some publisher)
      (moved : publisher.step w.publication w.shared w.tasks =
        some (shared, publisher', started)) :
      Move w (.part .publisher)
        { w with shared, publisher := some publisher', tasks := w.tasks ++ started.toList }
  | outside {time : Nat} {event : Outside} {later : List (Nat × Outside)}
      (planned : w.outside = (time, event) :: later) (due : time ≤ w.shared.now) :
      Move w (.part .outside) { w with shared := act w.shared event, outside := later }
  | signal {signal : Signal}
      (planned : w.signal = some signal) (due : signal.isDue w.shared = true) :
      Move w (.part .signal)
        { w with
          shared := { w.shared with cancelled := true }.print .interrupted
          signal := none }
  | task {index : Nat} {task task' : SendTask} {shared : Shared}
      (running : w.tasks[index]? = some task)
      (moved : task.step w.shared = some (shared, task')) :
      Move w (.part (.task index)) { w with shared, tasks := w.tasks.set index task' }
  | worker {index : Nat} {worker worker' : Worker} {shared : Shared}
      (running : w.workers[index]? = some worker)
      (moved : worker.step w.gates w.shared = some (shared, worker')) :
      Move w (.part (.worker index)) { w with shared, workers := w.workers.set index worker' }
  | pump {pump pump' : Pump} {shared : Shared}
      (running : w.pump = some pump) (moved : pump.step w.shared = some (shared, pump')) :
      Move w (.part .pump) { w with shared, pump := some pump' }
  | writer {ledger ledger' : Ledger}
      (kept : w.shared.ledger = some ledger) (written : ledger.write? = some ledger') :
      Move w (.part .writer) { w with shared := { w.shared with ledger := some ledger' } }
  | clock {now : Nat} (later : w.shared.now ≤ now) : Move w (.clock now) (w.setClock now)

variable {w w' : World} {motion : Motion}

theorem move_of_advance (moved : w.advance motion = some w') : Move w motion w' := by
  cases motion with
  | clock now =>
      simp only [advance] at moved
      split at moved
      case isTrue later =>
          cases moved
          exact .clock later
      case isFalse => cases moved
  | part agent =>
      cases agent with
      | session =>
          simp only [advance, step, stepSession] at moved
          cases running : w.session with
          | none => simp [running] at moved
          | some session =>
              simp only [running, Option.map_eq_some_iff, Prod.exists] at moved
              obtain ⟨shared, session', moved, same⟩ := moved
              cases same
              exact .session running moved
      | publisher =>
          simp only [advance, step, stepPublisher] at moved
          cases running : w.publisher with
          | none => simp [running] at moved
          | some publisher =>
              simp only [running, Option.map_eq_some_iff, Prod.exists] at moved
              obtain ⟨shared, publisher', started, moved, same⟩ := moved
              cases same
              exact .publisher running moved
      | outside =>
          simp only [advance, step, stepOutside] at moved
          cases planned : w.outside with
          | nil => simp [planned] at moved
          | cons next later =>
              obtain ⟨time, event⟩ := next
              simp only [planned] at moved
              split at moved
              case isTrue due =>
                  cases moved
                  exact .outside planned due
              case isFalse => cases moved
      | signal =>
          simp only [advance, step, stepSignal] at moved
          cases planned : w.signal with
          | none => simp [planned] at moved
          | some signal =>
              simp only [planned] at moved
              split at moved
              case isTrue due =>
                  cases moved
                  exact .signal planned due
              case isFalse => cases moved
      | task index =>
          simp only [advance, step, stepTask] at moved
          cases running : w.tasks[index]? with
          | none => simp [running] at moved
          | some task =>
              simp only [running, Option.map_eq_some_iff, Prod.exists] at moved
              obtain ⟨shared, task', moved, same⟩ := moved
              cases same
              exact .task running moved
      | worker index =>
          simp only [advance, step, stepWorker] at moved
          cases running : w.workers[index]? with
          | none => simp [running] at moved
          | some worker =>
              simp only [running, Option.map_eq_some_iff, Prod.exists] at moved
              obtain ⟨shared, worker', moved, same⟩ := moved
              cases same
              exact .worker running moved
      | pump =>
          simp only [advance, step, stepPump] at moved
          cases running : w.pump with
          | none => simp [running] at moved
          | some pump =>
              simp only [running, Option.map_eq_some_iff, Prod.exists] at moved
              obtain ⟨shared, pump', moved, same⟩ := moved
              cases same
              exact .pump running moved
      | writer =>
          simp only [advance, step, stepWriter] at moved
          cases kept : w.shared.ledger with
          | none => simp [kept] at moved
          | some ledger =>
              simp only [kept, Option.map_eq_some_iff] at moved
              obtain ⟨ledger', written, same⟩ := moved
              cases same
              exact .writer kept written

end World

end Courier
