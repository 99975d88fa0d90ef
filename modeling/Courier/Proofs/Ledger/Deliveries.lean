import Courier.Proofs.Intake.Turns
import Courier.Proofs.Ledger.Balance

/-! What the workers owe the ledger. What a worker brings to the gates is owed by it until each of
them has recorded what it records of it. -/

namespace Courier

def Wire.Response.envelope? (frame : Wire.Response) : Option Envelope :=
  match Inbound.ofResponse frame with
  | .message data => (Envelope.decode data).toOption
  | .trace _ | .unknown _ => none

/-- What a frame brings to the gates, if it brings anything. A message gets the next number. -/
def Wire.Response.delivery? (seq : Nat) (frame : Wire.Response) : Option Delivery :=
  match Inbound.ofResponse frame with
  | .message _ => frame.envelope?.map (.message seq)
  | .trace trace => some (.trace trace)
  | .unknown _ => none

theorem Wire.Response.envelope?_delivery? (seq : Nat) (frame : Wire.Response) :
    (frame.delivery? seq).bind Delivery.envelope? = frame.envelope? := by
  unfold delivery? envelope?
  cases kind : Inbound.ofResponse frame with
  | message data =>
      dsimp only
      cases (Envelope.decode data).toOption <;> rfl
  | trace | unknown => rfl

namespace Worker

def owed (gates : List Gate) (worker : Worker) : List String :=
  match worker.stage with
  | .numbered seq envelope => linesOf gates (.message seq envelope)
  | .delivering delivery rest => linesOf rest delivery
  | .handling visit deeds | .resting _ visit deeds =>
      deeds.filterMap Deed.line? ++ linesOf visit.next visit.delivery
  | _ => []

def finds? (s : Shared) (worker : Worker) : Option Delivery :=
  worker.counted?.bind (·.delivery? (s.stats.received + 1))

variable {p : Publication} {gates : List Gate} {s s' : Shared} {worker worker' : Worker}

theorem Move.deposit (move : Move gates s worker s' worker')
    (kept : s.deposit.header.isSome = true) :
    Deposit.Step p gates s.deposit s'.deposit (worker.owed gates) (worker'.owed gates) []
      (worker.finds? s).toList := by
  cases move with
  | take wakes | park wakes | quit wakes =>
      cases wakes with
      | idle stage | parked stage =>
          simp only [finds?, counted?, stage]
          refine .same rfl ?_
          simp only [owed, goto, stage]
  | stop waits =>
      rcases waits with stage | stage
      all_goals
        simp only [finds?, counted?, stage]
        refine .same rfl ?_
        simp only [owed, goto, stage]
  | reject stage kind undecoded =>
      simp only [finds?, counted?, stage, Option.bind_some, Wire.Response.delivery?,
        Wire.Response.envelope?, kind, undecoded]
      refine .same rfl ?_
      simp only [owed, goto, stage]
  | number stage kind decoded =>
      simp only [finds?, counted?, stage, Option.bind_some, Wire.Response.delivery?,
        Wire.Response.envelope?, kind, decoded]
      refine .deliver _ rfl ?_ rfl
      simp only [owed, stage]
  | trace stage kind =>
      simp only [finds?, counted?, stage, Option.bind_some, Wire.Response.delivery?, kind]
      refine .deliver _ rfl ?_ rfl
      simp only [owed, stage]
  | ignore stage kind =>
      simp only [finds?, counted?, stage, Option.bind_some, Wire.Response.delivery?, kind]
      refine .same rfl ?_
      simp only [owed, goto, stage]
  | acknowledge stage =>
      obtain ⟨log, acknowledged⟩ := acknowledge_eq s _
      rw [acknowledged]
      simp only [finds?, counted?, stage]
      refine .same ?_ ?_
      · split <;> rfl
      · simp only [owed, goto, stage]
  | enter stage accepts =>
      simp only [finds?, counted?, stage]
      refine .same rfl ?_
      simp only [owed, goto, stage, linesOf, List.flatMap_cons, Gate.lines, accepts, if_true]
  | pass stage refuses =>
      simp only [finds?, counted?, stage]
      refine .same rfl ?_
      simp [owed, goto, stage, linesOf, Gate.lines, refuses]
  | record stage recorded =>
      simp only [finds?, counted?, stage]
      refine .write _ (Shared.deposit_recordLine kept recorded) ?_
      simp only [owed, goto, stage, List.filterMap_cons, Deed.line?, List.cons_append]
  | count stage | done stage | print stage | log stage | keep stage | rest stage | wake stage
  | leave stage =>
      simp only [finds?, counted?, stage]
      refine .same rfl ?_
      simp only [owed, goto, stage, linesOf, List.flatMap_nil, List.filterMap_cons,
        List.filterMap_nil, Deed.line?, List.nil_append]

theorem owed_of_stopped (stopped : worker.isStopped = true) : worker.owed gates = [] := by
  simp only [owed, stage_of_isStopped stopped]

end Worker

end Courier
