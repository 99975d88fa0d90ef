import Courier.Shared

/-! What the pump and the workers have in common: the buffer, the counters of frames, and whether
the workers are to stop. -/

namespace Courier

structure Tally where
  frames : Nat
  enqueued : Nat
  bufferDropped : Nat
  processed : Nat
  /-- Frames of which a worker has told what they are. -/
  classified : Nat
  deriving DecidableEq

def Statistics.tally (stats : Statistics) : Tally where
  frames := stats.frames
  enqueued := stats.enqueued
  bufferDropped := stats.bufferDropped
  processed := stats.processed
  classified := stats.received + stats.traces + stats.unknown + stats.decodeErrors

def Statistics.Event.classifies : Event → Bool
  | .received | .trace | .unknown | .decodeError => true
  | _ => false

theorem Statistics.tally_classified {event : Event} (classifies : event.classifies = true)
    (stats : Statistics) :
    (stats.record event).tally =
      { stats.tally with classified := stats.tally.classified + 1 } := by
  cases event with
  | received | trace | unknown =>
      simp only [record, tally, Tally.mk.injEq, true_and]
      omega
  | decodeError => rfl
  | attempt | sent | retry | dropped | enqueued | bufferDropped | processed => cases classifies

structure Intake where
  buffer : Buffer
  shutdown : Bool
  tally : Tally

def Shared.intake (s : Shared) : Intake := ⟨s.buffer, s.shutdown, s.stats.tally⟩

theorem Shared.intake_classified {event : Statistics.Event} (classifies : event.classifies = true)
    (s : Shared) :
    (s.record event).intake =
      { s.intake with
        tally := { s.intake.tally with classified := s.intake.tally.classified + 1 } } := by
  simp only [intake, record, Statistics.tally_classified classifies]

end Courier
