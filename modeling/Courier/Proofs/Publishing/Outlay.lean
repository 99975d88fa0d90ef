import Courier.Proofs.Publishing.PublisherMoves

/-! What a client has sent: the counters of its sends, and the messages that its sink accepted.
Every step of a send is booked on both sides, in these numbers and in the state of the send. -/

namespace Courier

def Command.isPublish (command : Command) : Bool := command.payload?.isSome

def Sink.published (sink : Sink) : Nat := sink.accepted.countP Command.isPublish

structure Outlay where
  attempts : Nat
  sent : Nat
  acked : Nat
  dropped : Nat
  retried : Nat
  accepted : Nat

def Outlay.settled (outlay : Outlay) : Nat := outlay.sent + outlay.dropped + outlay.retried

namespace Shared

def outlay (s : Shared) : Outlay where
  attempts := s.stats.sendAttempts
  sent := s.stats.sent
  acked := s.stats.acked
  dropped := s.stats.dropped
  retried := s.stats.retried
  accepted := s.sink.published

variable (s : Shared)

@[simp] theorem outlay_note (entry : Log.Entry) : (s.note entry).outlay = s.outlay := rfl

@[simp] theorem outlay_addCredits (amount : Nat) : (s.addCredits amount).outlay = s.outlay := rfl

@[simp] theorem outlay_offer (command : Command) : (s.offer command).1.outlay = s.outlay := rfl

@[simp] theorem outlay_withdraw : s.withdraw.outlay = s.outlay := rfl

@[simp] theorem outlay_settle_failed (command : Command) (error : StreamError) :
    (s.settle command (.failed error)).outlay = s.outlay := rfl

@[simp] theorem outlay_settle_accepted (command : Command) :
    (s.settle command .accepted).outlay =
      { s.outlay with accepted := s.outlay.accepted + command.isPublish.toNat } := by
  simp only [outlay, settle, Sink.settle, Sink.published, List.countP_append,
    List.countP_singleton]
  cases command.isPublish <;> rfl

@[simp] theorem outlay_attempt :
    (s.record .attempt).outlay = { s.outlay with attempts := s.outlay.attempts + 1 } := rfl

@[simp] theorem outlay_sent (latency : Span) :
    (s.record (.sent latency)).outlay =
      { s.outlay with sent := s.outlay.sent + 1, acked := s.outlay.acked + 1 } := rfl

@[simp] theorem outlay_retry :
    (s.record .retry).outlay = { s.outlay with retried := s.outlay.retried + 1 } := rfl

@[simp] theorem outlay_dropped :
    (s.record .dropped).outlay = { s.outlay with dropped := s.outlay.dropped + 1 } := rfl

theorem outlay_recordLine {s s' : Shared} {line : String}
    (recorded : s.recordLine? line = some s') : s'.outlay = s.outlay := by
  obtain ⟨ledger, same⟩ := ledger_of_recordLine recorded
  rw [same]
  rfl

end Shared

structure Posting where
  /-- An attempt is counted, and it is not counted yet how it ended. -/
  isOpen : Bool
  hasLanded : Bool
  outcome : Option SendOutcome

structure Posting.Booked (before after : Outlay) (posting posting' : Posting) : Prop where
  sent : after.sent + (decide (posting.outcome = some .sent)).toNat =
    before.sent + (decide (posting'.outcome = some .sent)).toNat
  acked : after.acked + before.sent = before.acked + after.sent
  dropped : after.dropped + (decide (posting.outcome = some .dropped)).toNat =
    before.dropped + (decide (posting'.outcome = some .dropped)).toNat
  accepted : after.accepted + posting.hasLanded.toNat =
    before.accepted + posting'.hasLanded.toNat
  covered : after.settled + posting'.isOpen.toNat + before.attempts ≤
    after.attempts + (before.settled + posting.isOpen.toNat)
  /-- Only a send that ends as cancelled leaves an attempt without an end. -/
  covering : after.attempts + (before.settled + posting.isOpen.toNat) +
      (decide (posting.outcome = some .cancelled)).toNat ≤
    after.settled + posting'.isOpen.toNat + before.attempts +
      (decide (posting'.outcome = some .cancelled)).toNat

theorem Posting.Booked.refl (outlay : Outlay) (posting : Posting) :
    Posting.Booked outlay outlay posting posting where
  sent := rfl
  acked := rfl
  dropped := rfl
  accepted := rfl
  covered := by omega
  covering := by omega

namespace Sending

def posting (m : Sending) : Posting :=
  match m.stage with
  | .counted | .transit _ | .refused _ | .refunded _ => ⟨true, false, none⟩
  | .accepted | .rewarded => ⟨true, true, none⟩
  | .ended outcome => ⟨false, outcome = .sent, some outcome⟩
  | .wanting | .looking | .starved _ | .charged | .resting _ => ⟨false, false, none⟩

def Carries (m : Sending) : Prop :=
  ∀ transit, m.stage = .transit transit → transit.command.isPublish = true

variable {s s' : Shared} {m m' : Sending}

theorem Move.booked (move : Move s m s' m') (carries : m.Carries) :
    Posting.Booked s.outlay s'.outlay m.posting m'.posting := by
  cases move with
  | charge stage =>
      change Posting.Booked s.outlay s.outlay _ _
      simp only [posting, stage, goto]
      exact .refl ..
  | miss stage | find stage | starve stage | wake stage | again stage | offer stage
  | refuse stage | reward stage | refund stage =>
      simp only [posting, stage, goto, Shared.outlay_offer, Shared.outlay_settle_failed,
        Shared.outlay_addCredits]
      exact .refl ..
  | accept stage =>
      have publishes := carries _ stage
      constructor <;> simp [posting, stage, goto, publishes, Outlay.settled] <;> omega
  | crash stage | abandon stage | despair stage | yield stage | count stage | forgo stage
  | withdraw stage | confirm stage | drop stage | retry stage =>
      constructor <;> simp [posting, stage, goto, Outlay.settled] <;> omega

theorem Move.unbroken (move : Move s m s' m') (sound : s.overflows = false) :
    m'.posting.outcome ≠ some .broken := by
  cases move with
  | crash stage overflows => cases sound.symm.trans overflows
  | miss | find | abandon | starve | despair | wake | yield | again | charge | count | forgo
  | offer | withdraw | accept | refuse | reward | confirm | refund | drop | retry => exact nofun

theorem Move.carries (move : Move s m s' m') : m'.Carries := by
  intro transit stage'
  cases move with
  | offer =>
      cases stage'
      rfl
  | crash | miss | find | abandon | starve | despair | wake | yield | again | charge | count | forgo
  | withdraw | accept | refuse | reward | confirm | refund | drop | retry => cases stage'

end Sending

end Courier
