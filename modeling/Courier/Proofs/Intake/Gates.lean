import Courier.Proofs.Intake.Deeds
import Courier.Proofs.Ledger.Deliveries

/-! What happens at the gates when a worker brings a delivery there. The delivery comes to each gate
that accepts it, the gate does its work, and the next gate comes only after it has finished. -/

namespace Courier

inductive GateEvent where
  | started (gate : Gate) (delivery : Delivery)
  | did (deed : Deed)
  | finished (gate : Gate) (delivery : Delivery)

/-- What happens at a gate with a delivery that it accepts. -/
def Gate.visit (recording : Bool) (gate : Gate) (delivery : Delivery) : List GateEvent :=
  .started gate delivery :: ((gate.work delivery).filter (·.isSeen recording)).map .did ++
    [.finished gate delivery]

def passage (recording : Bool) (gates : List Gate) (delivery : Delivery) : List GateEvent :=
  (gates.filter (·.accepts delivery)).flatMap (·.visit recording delivery)

def Delivery.seq? : Delivery → Option Nat
  | .message seq _ => some seq
  | .trace _ => none

theorem Wire.Response.seq?_delivery? (seq : Nat) (frame : Wire.Response) :
    (frame.delivery? seq).bind Delivery.seq? = frame.envelope?.map fun _ => seq := by
  unfold delivery? envelope?
  cases kind : Inbound.ofResponse frame with
  | message data =>
      dsimp only
      cases (Envelope.decode data).toOption <;> rfl
  | trace | unknown => rfl

namespace Log

def Entry.isProgress : Entry → Bool
  | .progress .. => true
  | _ => false

def progress (log : List Entry) : Nat := log.countP (·.isProgress)

@[simp] theorem progress_append (log later : List Entry) :
    progress (log ++ later) = progress log + progress later :=
  List.countP_append ..

@[simp] theorem progress_singleton (entry : Entry) :
    progress [entry] = entry.isProgress.toNat := by
  cases told : entry.isProgress <;> simp [progress, told]

end Log

namespace Worker

/-- The delivery that a worker has numbered and not brought to the gates yet. -/
def pending? (worker : Worker) : Option Delivery :=
  match worker.stage with
  | .numbered seq envelope => some (.message seq envelope)
  | _ => none

def brings? (worker worker' : Worker) : Option Delivery :=
  match worker.stage, worker'.stage with
  | .counted _, .delivering delivery _ => some delivery
  | .numbered _ _, .delivering delivery _ => some delivery
  | _, _ => none

def visits (now : Nat) (worker worker' : Worker) : List GateEvent :=
  match worker.stage, worker'.stage with
  | .delivering .., .handling visit _ => [.started visit.gate visit.delivery]
  | .handling visit _, .delivering .. => [.finished visit.gate visit.delivery]
  | .handling .., .resting deadline .. => [.did (.rest (deadline - now))]
  | _, _ => []

/-- What happens at the gates when a worker moves. What a gate does is what it leaves behind. -/
def gateEvents (s s' : Shared) (worker worker' : Worker) : List GateEvent :=
  worker.visits s.now worker' ++ (s.since s').map .did

def ahead (recording : Bool) (worker : Worker) : List GateEvent :=
  match worker.stage with
  | .delivering delivery rest => passage recording rest delivery
  | .handling visit deeds | .resting _ visit deeds =>
      (deeds.filter (·.isSeen recording)).map .did ++
        .finished visit.gate visit.delivery :: passage recording visit.next visit.delivery
  | _ => []

def does? (recording : Bool) (worker : Worker) : Option Deed :=
  match worker.stage with
  | .handling _ (deed :: _) => if deed.isSeen recording then some deed else none
  | _ => none

variable {gates : List Gate} {s s' : Shared} {worker worker' : Worker}

private theorem leaves_acknowledge (s : Shared) (seq : Nat) : Leaves s (acknowledge s seq) [] := by
  unfold acknowledge
  dsimp only
  split <;> split <;> refine .nothing rfl ?_ rfl rfl <;>
    simp [Shared.note, Shared.addCredits, Log.Entry.deed?]

theorem Move.leaves (move : Move gates s worker s' worker') :
    Leaves s s' (worker.does? s.ledger.isSome).toList := by
  cases move with
  | take wakes | park wakes | quit wakes =>
      cases wakes with
      | idle stage | parked stage =>
          rw [does?, stage]
          exact .nothing rfl (by simp [Shared.note, Log.Entry.deed?]) rfl rfl
  | stop waits =>
      rcases waits with stage | stage
      all_goals
        rw [does?, stage]
        exact .nothing rfl (by simp [Shared.note, Log.Entry.deed?]) rfl rfl
  | count stage | reject stage | number stage | trace stage | ignore stage | enter stage | pass stage
  | done stage | wake stage | leave stage =>
      rw [does?, stage]
      exact .nothing rfl (by simp [Shared.record, Shared.note, Log.Entry.deed?]) rfl rfl
  | acknowledge stage =>
      rw [does?, stage]
      exact leaves_acknowledge s _
  | print stage | log stage | keep stage | rest stage =>
      rw [does?, stage]
      intro place
      cases place <;>
        simp [Shared.deeds, Shared.print, Shared.note, Deed.isSeen, Deed.place?,
          Console.Line.deed?, Log.Entry.deed?]
  | record stage recorded =>
      have leaves := (Leaves.recordLine recorded).1
      rw [does?, stage]
      cases recording : s.ledger.isSome <;> rwa [recording] at leaves

theorem Move.recording (move : Move gates s worker s' worker') :
    s'.ledger.isSome = s.ledger.isSome := by
  cases move with
  | acknowledge stage =>
      obtain ⟨log, same⟩ := acknowledge_eq s _
      rw [same]
      split <;> rfl
  | record stage recorded => exact (Leaves.recordLine recorded).2
  | take | park | quit | stop | count | reject | number | trace | ignore | enter | pass | done | print
  | log | keep | rest | wake | leave => rfl

/-- What is ahead at the gates happens there, and nothing else does. -/
theorem Move.gateEvents (move : Move gates s worker s' worker') :
    worker.ahead s.ledger.isSome ++
        (worker.brings? worker').toList.flatMap (passage s.ledger.isSome gates) =
      worker.gateEvents s s' worker' ++ worker'.ahead s.ledger.isSome := by
  rw [Worker.gateEvents, move.leaves.since_toList]
  cases move with
  | take wakes | park wakes | quit wakes =>
      cases wakes with
      | idle stage | parked stage => simp [ahead, brings?, visits, does?, stage, goto]
  | stop waits =>
      rcases waits with stage | stage <;> simp [ahead, brings?, visits, does?, stage, goto]
  | count stage | reject stage | number stage | ignore stage | trace stage | acknowledge stage
  | wake stage | leave stage =>
      simp [ahead, brings?, visits, does?, stage, goto]
  | done stage => simp [ahead, brings?, visits, does?, stage, goto, passage]
  | enter stage accepts =>
      simp [ahead, brings?, visits, does?, stage, goto, passage, accepts, Gate.visit]
  | pass stage refuses => simp [ahead, brings?, visits, does?, stage, goto, passage, refuses]
  | print stage | log stage | keep stage | rest stage =>
      simp [ahead, brings?, visits, does?, stage, goto, Deed.isSeen, Deed.place?,
        Option.filter_some]
  | record stage recorded =>
      cases recording : s.ledger.isSome <;>
        simp [ahead, brings?, visits, does?, stage, goto, Deed.isSeen, Deed.place?,
          Option.filter_some]

theorem Move.brings (move : Move gates s worker s' worker') :
    worker.pending?.toList ++
        (worker.counted?.bind (·.delivery? (s.stats.received + 1))).toList =
      (worker.brings? worker').toList ++ worker'.pending?.toList := by
  cases move with
  | take wakes | park wakes | quit wakes =>
      cases wakes with
      | idle stage | parked stage => simp [pending?, counted?, brings?, stage, goto]
  | stop waits =>
      rcases waits with stage | stage <;> simp [pending?, counted?, brings?, stage, goto]
  | count stage | acknowledge stage | enter stage | pass stage | done stage | print stage | log stage
  | record stage | keep stage | rest stage | wake stage | leave stage =>
      simp [pending?, counted?, brings?, stage, goto]
  | reject stage kind undecoded =>
      simp [pending?, counted?, brings?, stage, goto, Wire.Response.delivery?,
        Wire.Response.envelope?, kind, undecoded, Except.toOption]
  | number stage kind decoded =>
      simp [pending?, counted?, brings?, stage, goto, Wire.Response.delivery?,
        Wire.Response.envelope?, kind, decoded, Except.toOption]
  | trace stage kind | ignore stage kind =>
      simp [pending?, counted?, brings?, stage, goto, Wire.Response.delivery?, kind]

theorem Move.received (move : Move gates s worker s' worker') :
    s'.stats.received = s.stats.received + (worker.counted?.bind (·.envelope?)).isSome.toNat := by
  cases move with
  | take wakes | park wakes | quit wakes =>
      cases wakes with
      | idle stage | parked stage => simp [counted?, stage, Shared.note]
  | stop waits =>
      rcases waits with stage | stage <;> simp [counted?, stage, Shared.note]
  | count stage | enter stage | pass stage | done stage | print stage | log stage | keep stage
  | rest stage | wake stage | leave stage =>
      simp [counted?, stage, Shared.record, Shared.print, Shared.note, Statistics.record]
  | acknowledge stage =>
      obtain ⟨log, same⟩ := acknowledge_eq s _
      rw [same]
      split <;> simp [counted?, stage, Shared.addCredits]
  | record stage recorded =>
      obtain ⟨ledger, rfl⟩ := Shared.ledger_of_recordLine recorded
      simp [counted?, stage]
  | reject stage kind undecoded =>
      simp [counted?, stage, Wire.Response.envelope?, kind, undecoded, Except.toOption,
        Shared.record, Shared.note, Statistics.record]
  | number stage kind decoded =>
      simp [counted?, stage, Wire.Response.envelope?, kind, decoded, Except.toOption,
        Shared.record, Statistics.record]
  | trace stage kind | ignore stage kind =>
      simp [counted?, stage, Wire.Response.envelope?, kind,
        Shared.record, Shared.note, Statistics.record]

theorem acknowledge_progress (s : Shared) (seq : Nat) :
    Log.progress (acknowledge s seq).log =
      Log.progress s.log + (decide (seq % progressEvery = 0)).toNat := by
  unfold acknowledge
  dsimp only
  by_cases round : seq % progressEvery = 0
  · rw [if_pos round]
    split <;> simp [Shared.note, Shared.addCredits, Log.Entry.isProgress, round]
  · rw [if_neg round]
    split <;> simp [Shared.addCredits, round]

theorem Move.progress (move : Move gates s worker s' worker') :
    Log.progress s'.log = Log.progress s.log +
      (((worker.brings? worker').bind Delivery.seq?).any (· % progressEvery = 0)).toNat := by
  cases move with
  | take wakes | park wakes | quit wakes =>
      cases wakes with
      | idle stage | parked stage =>
          simp [brings?, goto, stage, Shared.note, Log.Entry.isProgress]
  | stop waits =>
      rcases waits with stage | stage <;>
        simp [brings?, goto, stage, Shared.note, Log.Entry.isProgress]
  | count stage | reject stage | number stage | trace stage | ignore stage | enter stage | pass stage
  | done stage | print stage | log stage | keep stage | rest stage | wake stage | leave stage =>
      simp [brings?, goto, stage, Shared.record, Shared.print, Shared.note, Delivery.seq?,
        Log.Entry.isProgress]
  | record stage recorded =>
      obtain ⟨ledger, rfl⟩ := Shared.ledger_of_recordLine recorded
      simp [brings?, stage]
  | acknowledge stage =>
      rw [acknowledge_progress]
      simp [brings?, goto, stage, Delivery.seq?]

theorem Move.credits (move : Move gates s worker s' worker') :
    s'.credits =
      if s.flow.enabled ∧ ((worker.brings? worker').bind Delivery.seq?).isSome then
        s.credits.add s.flow.creditIncrement
      else s.credits := by
  cases move with
  | take wakes | park wakes | quit wakes =>
      cases wakes with
      | idle stage | parked stage => simp [brings?, goto, stage, Shared.note]
  | stop waits =>
      rcases waits with stage | stage <;> simp [brings?, goto, stage, Shared.note]
  | count stage | reject stage | number stage | trace stage | ignore stage | enter stage | pass stage
  | done stage | print stage | log stage | keep stage | rest stage | wake stage | leave stage =>
      simp [brings?, goto, stage, Shared.record, Shared.print, Shared.note, Delivery.seq?]
  | record stage recorded =>
      obtain ⟨ledger, rfl⟩ := Shared.ledger_of_recordLine recorded
      simp [brings?, stage]
  | acknowledge stage =>
      obtain ⟨log, same⟩ := acknowledge_eq s _
      rw [same]
      cases enabled : s.flow.enabled <;>
        simp [brings?, goto, stage, Delivery.seq?, Shared.addCredits]

end Worker

end Courier
