import Courier.Proofs.World.Frames

/-! What the steps of a worker are to the frames: it takes one, counts it and tells what it is, and
all else that it does has nothing to do with them. -/

namespace Courier.Worker

def fetched? (worker : Worker) : Option Wire.Response :=
  match worker.stage with
  | .fetched frame => some frame
  | _ => none

/-- The frame that a worker counted and did not tell yet what it is. -/
def counted? (worker : Worker) : Option Wire.Response :=
  match worker.stage with
  | .counted frame => some frame
  | _ => none

def isActive (worker : Worker) : Bool := !worker.isStopped

def Stage.isFree : Stage → Bool
  | .fetched _ | .counted _ | .stopped => false
  | _ => true

structure Free (worker : Worker) : Prop where
  active : worker.isActive = true
  fetched : worker.fetched? = none
  counted : worker.counted? = none

inductive Turn (intake : Intake) (worker : Worker) : Intake → Worker → Prop where
  | take {worker' : Worker} {parked : List Nat} {frame : Wire.Response}
      {queue : List Wire.Response} (free : worker.Free)
      (filled : intake.buffer.queue = frame :: queue) (fetched : worker'.stage = .fetched frame) :
      Turn intake worker { intake with buffer := { intake.buffer with queue, parked } } worker'
  | park {worker' : Worker} {parked : List Nat} (free : worker.Free) (free' : worker'.Free)
      (fed : intake.buffer.fed = true) :
      Turn intake worker { intake with buffer := { intake.buffer with parked } } worker'
  | stop {worker' : Worker} {parked : List Nat} (free : worker.Free)
      (drained : intake.shutdown = false → intake.buffer.queue = [] ∧ intake.buffer.fed = false)
      (stopped : worker'.stage = .stopped) :
      Turn intake worker
        { intake with
          buffer := { intake.buffer with parked, receivers := intake.buffer.receivers - 1 } }
        worker'
  | count {worker' : Worker} {frame : Wire.Response} (fetched : worker.stage = .fetched frame)
      (counted : worker'.stage = .counted frame) :
      Turn intake worker
        { intake with tally := { intake.tally with processed := intake.tally.processed + 1 } }
        worker'
  | classify {worker' : Worker} {frame : Wire.Response} (counted : worker.stage = .counted frame)
      (free' : worker'.Free) :
      Turn intake worker
        { intake with tally := { intake.tally with classified := intake.tally.classified + 1 } }
        worker'
  | pass {worker' : Worker} (free : worker.Free) (free' : worker'.Free) :
      Turn intake worker intake worker'

variable {gates : List Gate} {s s' : Shared} {worker worker' : Worker}

private theorem free_of_stage (free : worker.stage.isFree = true) : worker.Free := by
  cases stage : worker.stage with
  | fetched | counted | stopped =>
      rw [stage] at free
      cases free
  | idle | parked | numbered | delivering | handling | resting =>
      constructor <;> simp [isActive, isStopped, fetched?, counted?, stage]

private theorem Wakes.free {parked : List Nat} (wakes : Wakes s worker parked) : worker.Free := by
  cases wakes with
  | idle stage | parked stage =>
      apply free_of_stage
      rw [stage]
      rfl

private theorem acknowledge_intake (seq : Nat) : (acknowledge s seq).intake = s.intake := by
  obtain ⟨log, same⟩ := acknowledge_eq s seq
  rw [same]
  split <;> rfl

private theorem turn_of_classifies {event : Statistics.Event} {frame : Wire.Response}
    (classifies : event.classifies = true) (stage : worker.stage = .counted frame)
    (free' : worker'.Free) :
    Turn s.intake worker (s.record event).intake worker' := by
  rw [Shared.intake_classified classifies]
  exact .classify stage free'

theorem Move.turn (move : Move gates s worker s' worker') :
    Turn s.intake worker s'.intake worker' := by
  cases move with
  | take wakes active filled => exact .take wakes.free filled rfl
  | park wakes active empty fed => exact .park wakes.free ⟨rfl, rfl, rfl⟩ fed
  | quit wakes active empty unfed => exact .stop wakes.free (fun _ => ⟨empty, unfed⟩) rfl
  | stop waits told =>
      have free : worker.Free := by
        apply free_of_stage
        rcases waits with stage | stage <;> rw [stage] <;> rfl
      refine .stop free ?_ rfl
      intro active
      cases told.symm.trans active
  | count stage => exact .count stage rfl
  | reject stage | number stage | trace stage | ignore stage =>
      exact turn_of_classifies rfl stage ⟨rfl, rfl, rfl⟩
  | acknowledge stage =>
      rw [acknowledge_intake]
      exact .pass (free_of_stage (stage ▸ rfl)) ⟨rfl, rfl, rfl⟩
  | enter stage | pass stage | done stage | print stage | log stage | keep stage | rest stage
  | wake stage | leave stage =>
      exact .pass (free_of_stage (stage ▸ rfl)) ⟨rfl, rfl, rfl⟩
  | record stage recorded =>
      rw [(Shared.spared_recordLine recorded).intake]
      exact .pass (free_of_stage (stage ▸ rfl)) ⟨rfl, rfl, rfl⟩

variable {intake intake' : Intake}

theorem Turn.shutdown (turn : Turn intake worker intake' worker') :
    intake'.shutdown = intake.shutdown := by
  cases turn <;> rfl

theorem Turn.active (turn : Turn intake worker intake' worker') : worker.isActive = true := by
  cases turn with
  | take free | park free | stop free | pass free => exact free.active
  | count stage | classify stage => simp [isActive, isStopped, stage]

end Courier.Worker
