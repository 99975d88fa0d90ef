import Courier.Proofs.Publishing.Accounts

/-! How far a publisher has come, and that its report accounts for every message. -/

namespace Courier

/-- A report that accounts for every message, where `base` messages were accepted before and so many
sends have panicked. -/
structure PublishReport.Accounts (count base : Nat) (outlay : Outlay) (broken : Nat)
    (report : PublishReport) : Prop where
  total : report.sent + report.dropped + report.cancelled = count
  sent : outlay.sent = report.sent
  acked : outlay.acked = report.sent
  dropped : outlay.dropped + broken = report.dropped
  accepted : outlay.accepted = base + report.sent
  covered : outlay.settled ≤ outlay.attempts
  covering : outlay.attempts ≤ outlay.settled + report.cancelled

namespace Throttled

def Placed (p : Publication) (admitted : Nat) (t : Throttled) : Prop :=
  match t.stage with
  | .waiting _ | .acquiring _ | .admitting => admitted = t.index ∧ t.index < p.count
  | .pausing _ => admitted = t.index + 1 ∧ t.index < p.count
  | .joining => admitted ≤ p.count

variable {p : Publication} {s s' : Shared} {t t' : Throttled} {started : Option SendTask}
  {admitted base : Nat} {tasks : List SendTask}

theorem placed_visit {index : Nat} (bound : index ≤ p.count) :
    (t.visit p index).Placed p index := by
  by_cases more : index < p.count
  · simp [visit, Placed, more]
  · simpa [visit, Placed, more] using bound

theorem placed_pause (bound : t.index < p.count) :
    (t.pause p s).Placed p (t.index + 1) := by
  unfold pause
  dsimp only
  split
  · exact ⟨rfl, bound⟩
  · exact placed_visit bound

theorem placed_joining (bound : admitted ≤ p.count) : (t.goto .joining).Placed p admitted := bound

theorem Move.outlay (move : Move p s t s' t' started) : s'.outlay = s.outlay := by
  cases move with
  | acquire stage moved =>
      obtain ⟨slots, same⟩ := SlotWait.slots_of_step moved
      rw [same]
      rfl
  | find | giveUp | wait | hold | leave | launch | quit | resume => rfl

theorem Move.placed (move : Move p s t s' t' started) (placed : t.Placed p admitted) :
    t'.Placed p (admitted + started.toList.length) := by
  cases move with
  | find stage | wait stage | hold stage | acquire stage =>
      simp only [Placed, stage] at placed
      exact placed
  | giveUp stage | leave stage =>
      simp only [Placed, stage] at placed
      exact placed_joining (placed.1 ▸ Nat.le_of_lt placed.2)
  | launch stage =>
      simp only [Placed, stage] at placed
      rw [placed.1]
      exact placed_pause placed.2
  | quit stage =>
      simp only [Placed, stage] at placed
      exact placed_joining (placed.1 ▸ placed.2)
  | resume stage =>
      simp only [Placed, stage] at placed
      rw [placed.1]
      exact placed_visit placed.2

end Throttled

namespace Unthrottled

def posting (u : Unthrottled) : Posting :=
  match u.stage with
  | .counted _ | .transit .. | .refused _ => ⟨true, false, none⟩
  | .accepted .. => ⟨true, true, none⟩
  | .checking | .recording _ | .pausing _ | .ended => ⟨false, false, none⟩

def Placed (p : Publication) (u : Unthrottled) : Prop :=
  match u.stage with
  | .checking => u.sent + u.dropped = u.index ∧ u.index ≤ p.count ∧ u.cancelled = 0
  | .counted _ | .transit .. | .accepted .. | .refused _ =>
      u.sent + u.dropped = u.index ∧ u.index < p.count ∧ u.cancelled = 0
  | .recording _ | .pausing _ =>
      u.sent + u.dropped = u.index + 1 ∧ u.index < p.count ∧ u.cancelled = 0
  | .ended => u.sent + u.dropped + u.cancelled = p.count

def Carries (u : Unthrottled) : Prop :=
  ∀ started payload transit, u.stage = .transit started payload transit →
    transit.command.isPublish = true

structure Accounted (p : Publication) (base : Nat) (outlay : Outlay) (u : Unthrottled) : Prop where
  placed : u.Placed p
  carries : u.Carries
  sent : outlay.sent = u.sent
  acked : outlay.acked = u.sent
  dropped : outlay.dropped = u.dropped
  accepted : outlay.accepted = base + u.sent + u.posting.hasLanded.toNat
  covered : outlay.settled + u.posting.isOpen.toNat ≤ outlay.attempts
  covering : outlay.attempts ≤ outlay.settled + u.posting.isOpen.toNat + u.cancelled

variable {p : Publication} {base : Nat} {s s' : Shared} {u u' : Unthrottled}

theorem accounted_start {outlay : Outlay} (fresh : outlay = ⟨0, 0, 0, 0, 0, base⟩) :
    start.Accounted p base outlay := by
  cases fresh
  refine ⟨?_, nofun, rfl, rfl, rfl, rfl, Nat.le_refl 0, Nat.le_refl 0⟩
  exact ⟨rfl, Nat.zero_le _, rfl⟩

@[simp] theorem posting_advance : (u.advance p s).posting = ⟨false, false, none⟩ := by
  unfold advance
  split <;> rfl

@[simp] theorem sent_advance : (u.advance p s).sent = u.sent := by
  unfold advance
  split <;> rfl

@[simp] theorem dropped_advance : (u.advance p s).dropped = u.dropped := by
  unfold advance
  split <;> rfl

theorem placed_advance (place : u.sent + u.dropped = u.index + 1) (bound : u.index < p.count)
    (running : u.cancelled = 0) :
    (u.advance p s).Placed p := by
  unfold advance
  split <;> exact ⟨place, bound, running⟩

theorem carries_advance : (u.advance p s).Carries := by
  intro started payload transit stage
  unfold advance at stage
  split at stage <;> cases stage

theorem carries_recording (u : Unthrottled) (line : String) :
    (u.goto (.recording line)).Carries := by
  intro started payload transit stage
  cases stage

theorem Move.placed (move : Move p s u s' u') (placed : u.Placed p) : u'.Placed p := by
  cases move with
  | finish stage done =>
      simp only [Placed, stage] at placed
      simp only [Placed, goto]
      omega
  | quit stage | forgo stage | withdraw stage | halt stage =>
      simp only [Placed, stage] at placed
      simp only [Placed, stop]
      omega
  | count stage more =>
      simp only [Placed, stage] at placed
      exact ⟨placed.1, more, placed.2.2⟩
  | offer stage | accept stage | refuse stage =>
      simp only [Placed, stage] at placed
      exact placed
  | confirm stage =>
      simp only [Placed, stage] at placed
      have place : u.sent + 1 + u.dropped = u.index + 1 := by omega
      split
      · exact ⟨place, placed.2⟩
      · exact placed_advance place placed.2.1 placed.2.2
  | record stage =>
      simp only [Placed, stage] at placed
      exact placed_advance placed.1 placed.2.1 placed.2.2
  | drop stage =>
      simp only [Placed, stage] at placed
      have place : u.sent + (u.dropped + 1) = u.index + 1 := by omega
      exact placed_advance place placed.2.1 placed.2.2
  | resume stage =>
      simp only [Placed, stage] at placed
      exact ⟨placed.1, placed.2⟩

theorem Move.carries (move : Move p s u s' u') : u'.Carries := by
  intro started payload transit stage'
  cases move with
  | offer =>
      cases stage'
      rfl
  | confirm =>
      split at stage'
      · cases stage'
      · exact carries_advance _ _ _ stage'
  | record | drop => exact carries_advance _ _ _ stage'
  | finish | quit | count | forgo | withdraw | accept | refuse | halt | resume => cases stage'

theorem accounted_advance {outlay : Outlay}
    (place : u.sent + u.dropped = u.index + 1) (bound : u.index < p.count)
    (running : u.cancelled = 0)
    (sent : outlay.sent = u.sent) (acked : outlay.acked = u.sent)
    (dropped : outlay.dropped = u.dropped) (accepted : outlay.accepted = base + u.sent)
    (settled : outlay.attempts = outlay.settled) :
    (u.advance p s).Accounted p base outlay where
  placed := placed_advance place bound running
  carries := carries_advance
  sent := by rw [sent, sent_advance]
  acked := by rw [acked, sent_advance]
  dropped := by rw [dropped, dropped_advance]
  accepted := by
    rw [accepted, sent_advance, posting_advance]
    rfl
  covered := by
    rw [posting_advance, settled]
    exact Nat.le_refl _
  covering := by
    rw [posting_advance, settled]
    exact Nat.le_add_right ..

theorem Move.accounted (move : Move p s u s' u') (accounted : u.Accounted p base s.outlay) :
    u'.Accounted p base s'.outlay := by
  have placed := move.placed accounted.placed
  have carries := move.carries
  obtain ⟨place, carried, sent, acked, dropped, accepted, covered, covering⟩ := accounted
  cases move with
  | finish stage | quit stage | halt stage | resume stage =>
      simp only [Placed, stage] at place
      simp only [posting, stage] at accepted covered covering
      refine ⟨placed, carries, sent, acked, dropped, accepted, covered, ?_⟩
      simp only [posting, stop, goto]
      omega
  | forgo stage | withdraw stage =>
      -- Here an attempt is left without an end, and its message is one of the cancelled.
      simp only [Placed, stage] at place
      simp only [posting, stage, Bool.toNat_true, Bool.toNat_false] at accepted covered covering
      refine ⟨placed, carries, sent, acked, dropped, accepted, ?_, ?_⟩
      · simp only [posting, stop, Shared.outlay_withdraw, Bool.toNat_false]
        omega
      · simp only [posting, stop, Shared.outlay_withdraw, Bool.toNat_false]
        omega
  | offer stage | refuse stage =>
      simp only [posting, stage] at accepted covered covering
      exact ⟨placed, carries, sent, acked, dropped, accepted, covered, covering⟩
  | count stage =>
      simp only [posting, stage] at accepted covered covering
      refine ⟨placed, carries, sent, acked, dropped, accepted, ?_, ?_⟩
      · exact Nat.succ_le_succ covered
      · have counted := Nat.succ_le_succ covering
        simp [posting, goto, Outlay.settled] at counted ⊢
        omega
  | accept stage =>
      have publishes := carried _ _ _ stage
      simp only [posting, stage] at accepted covered covering
      rw [Shared.outlay_settle_accepted, publishes]
      refine ⟨placed, carries, sent, acked, dropped, ?_, covered, covering⟩
      exact congrArg (· + 1) accepted
  | confirm stage noted =>
      cases noted
      simp only [Placed, stage] at place
      simp only [posting, stage, Bool.toNat_true, place.2.2] at accepted covered covering
      have passed : u.sent + 1 + u.dropped = u.index + 1 := by omega
      have sent' : s.outlay.sent + 1 = u.sent + 1 := congrArg (· + 1) sent
      have acked' : s.outlay.acked + 1 = u.sent + 1 := congrArg (· + 1) acked
      have settled : s.outlay.attempts =
          s.outlay.sent + 1 + s.outlay.dropped + s.outlay.retried := by
        simp only [Outlay.settled] at covered covering
        omega
      rw [Shared.outlay_note, Shared.outlay_sent]
      split
      · exact ⟨⟨passed, place.2⟩, carries_recording _ _, sent', acked', dropped, accepted,
          Nat.le_of_eq settled.symm, settled ▸ Nat.le_add_right ..⟩
      · exact accounted_advance (u := { u with sent := u.sent + 1 }) passed place.2.1 place.2.2
          sent' acked' dropped accepted settled
  | record stage recorded =>
      rw [Shared.outlay_recordLine recorded]
      simp only [Placed, stage] at place
      simp only [posting, stage, place.2.2] at accepted covered covering
      exact accounted_advance place.1 place.2.1 place.2.2 sent acked dropped accepted
        (Nat.le_antisymm covering covered)
  | drop stage =>
      simp only [Placed, stage] at place
      simp only [posting, stage, Bool.toNat_true, place.2.2] at accepted covered covering
      have passed : u.sent + (u.dropped + 1) = u.index + 1 := by omega
      have dropped' : s.outlay.dropped + 1 = u.dropped + 1 := congrArg (· + 1) dropped
      have settled : s.outlay.attempts = (s.record .dropped).outlay.settled := by
        simp only [Outlay.settled, Shared.outlay_dropped] at covered covering ⊢
        omega
      exact accounted_advance (u := { u with dropped := u.dropped + 1 }) passed place.2.1
        place.2.2 sent acked dropped' accepted settled

end Unthrottled

end Courier
