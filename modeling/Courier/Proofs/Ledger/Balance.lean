import Courier.Proofs.Publishing.TaskMoves
import Courier.Publishing.Publication

/-! The ledger beside the messages. For every message that the sink accepted and for every delivery
that came to the gates lines are due, and each of these is in the ledger, or a part still owes it.
-/

namespace Courier

def Publication.lines (p : Publication) (payload : List UInt8) : List String :=
  if p.records then [Ledger.publishLine p.sender payload] else []

def Delivery.envelope? : Delivery → Option Envelope
  | .message _ envelope => some envelope
  | .trace _ => none

def Deed.line? : Deed → Option String
  | .record line => some line
  | .print .. | .log _ | .keep _ | .rest _ => none

def Gate.lines (gate : Gate) (delivery : Delivery) : List String :=
  if gate.accepts delivery then (gate.work delivery).filterMap Deed.line? else []

def linesOf (gates : List Gate) (delivery : Delivery) : List String :=
  gates.flatMap (·.lines delivery)

theorem linesOf_append (gates later : List Gate) (delivery : Delivery) :
    linesOf (gates ++ later) delivery = linesOf gates delivery ++ linesOf later delivery :=
  List.flatMap_append

theorem linesOf_ledger (receiver : String) (delivery : Delivery) :
    linesOf [.ledger receiver] delivery =
      delivery.envelope?.toList.map fun envelope =>
        Ledger.receiveLine receiver envelope.publisher envelope.message := by
  cases delivery <;> rfl

def Silent (gates : List Gate) : Prop :=
  ∀ gate ∈ gates, ∀ delivery line, Deed.record line ∉ gate.work delivery

theorem Silent.linesOf {gates : List Gate} (silent : Silent gates) (delivery : Delivery) :
    linesOf gates delivery = [] := by
  rw [Courier.linesOf, List.flatMap_eq_nil_iff]
  intro gate member
  rw [Gate.lines]
  split
  case isFalse => rfl
  case isTrue =>
      rw [List.filterMap_eq_nil_iff]
      intro deed done
      cases deed with
      | record line => exact absurd done (silent gate member delivery line)
      | print | log | keep | rest => rfl

def Sink.payloads (sink : Sink) : List (List UInt8) := sink.accepted.filterMap Command.payload?

def Ledger.entries (ledger : Ledger) : List String := ledger.lines ++ ledger.queue

/-- What the lines of the ledger are to agree with, and the lines. -/
structure Deposit where
  header : Option String
  entries : List String
  payloads : List (List UInt8)
  received : Nat

def Shared.deposit (s : Shared) : Deposit where
  header := s.ledger.map (·.header)
  entries := s.ledger.elim [] Ledger.entries
  payloads := s.sink.payloads
  received := s.stats.received

namespace Shared

variable {s s' : Shared}

theorem deposit_recordLine {line : String} (kept : s.deposit.header.isSome = true)
    (recorded : s.recordLine? line = some s') :
    s'.deposit = { s.deposit with entries := s.deposit.entries ++ [line] } := by
  simp only [deposit, Option.isSome_map] at kept
  obtain ⟨ledger, same⟩ := Option.isSome_iff_exists.mp kept
  simp only [recordLine?, same, Ledger.record?, Option.map_eq_some_iff] at recorded
  obtain ⟨ledger', recorded, rfl⟩ := recorded
  split at recorded
  case isTrue =>
      cases recorded
      simp [deposit, same, Ledger.entries]
  case isFalse => cases recorded

theorem deposit_write {ledger ledger' : Ledger} (present : s.ledger = some ledger)
    (written : ledger.write? = some ledger') :
    ({ s with ledger := some ledger' } : Shared).deposit = s.deposit := by
  unfold Ledger.write? at written
  split at written
  case h_1 => cases written
  case h_2 line queue filled =>
      cases written
      simp [deposit, present, Ledger.entries, filled]

theorem deposit_accepted (command : Command) :
    (s.settle command .accepted).deposit =
      { s.deposit with payloads := s.deposit.payloads ++ command.payload?.toList } := by
  simp only [deposit, settle, Sink.settle, Sink.payloads, List.filterMap_append, Sink.leave,
    Deposit.mk.injEq, true_and, and_true]
  cases command <;> rfl

end Shared

/-- A part owed some lines and owes others now. What it wrote into the ledger and what it owes is
what it owed and what was due for what came. -/
structure Deposit.Step (p : Publication) (gates : List Gate) (before after : Deposit)
    (owed owed' : List String) (landed : List (List UInt8)) (delivered : List Delivery) : Prop where
  header : after.header = before.header
  payloads : after.payloads = before.payloads ++ landed
  received : after.received = before.received + (delivered.filterMap Delivery.envelope?).length
  entries : ∃ written, after.entries = before.entries ++ written ∧
    ∀ line, (written ++ owed').count line =
      (owed ++ (landed.flatMap p.lines ++ delivered.flatMap (linesOf gates))).count line

namespace Deposit.Step

variable {p : Publication} {gates : List Gate} {before after : Deposit} {owed owed' : List String}

theorem same (kept : after = before) (owes : owed' = owed) :
    Step p gates before after owed owed' [] [] := by
  subst kept owes
  refine ⟨rfl, (List.append_nil _).symm, rfl, [], (List.append_nil _).symm, ?_⟩
  intro line
  simp

theorem land (payload : List UInt8)
    (moved : after = { before with payloads := before.payloads ++ [payload] })
    (owes : owed = []) (owes' : owed' = p.lines payload) :
    Step p gates before after owed owed' [payload] [] := by
  subst moved owes owes'
  refine ⟨rfl, rfl, rfl, [], (List.append_nil _).symm, ?_⟩
  intro line
  simp

theorem write (line : String) (moved : after = { before with entries := before.entries ++ [line] })
    (owes : owed = line :: owed') :
    Step p gates before after owed owed' [] [] := by
  subst moved owes
  refine ⟨rfl, (List.append_nil _).symm, rfl, [line], rfl, ?_⟩
  intro other
  simp

theorem deliver (delivery : Delivery)
    (moved : after =
      { before with received := before.received + delivery.envelope?.toList.length })
    (owes : owed = []) (owes' : owed' = linesOf gates delivery) :
    Step p gates before after owed owed' [] [delivery] := by
  subst moved owes owes'
  refine ⟨rfl, (List.append_nil _).symm, ?_, [], (List.append_nil _).symm, ?_⟩
  · cases delivery <;> rfl
  · intro line
    simp

end Deposit.Step

/-- Every line that is due is in the ledger or owed. -/
structure Balanced (p : Publication) (gates : List Gate) (base : List (List UInt8))
    (deposit : Deposit) (owed : List String) (landed : List (List UInt8))
    (delivered : List Delivery) : Prop where
  payloads : deposit.payloads = base ++ landed
  received : deposit.received = (delivered.filterMap Delivery.envelope?).length
  balance : ∀ line, (deposit.entries ++ owed).count line =
    (landed.flatMap p.lines ++ delivered.flatMap (linesOf gates)).count line

theorem Balanced.perm {p : Publication} {gates : List Gate} {base landed : List (List UInt8)}
    {deposit : Deposit} {delivered : List Delivery}
    (balanced : Balanced p gates base deposit [] landed delivered) :
    deposit.entries.Perm (landed.flatMap p.lines ++ delivered.flatMap (linesOf gates)) := by
  rw [List.perm_iff_count]
  intro line
  rw [← balanced.balance line, List.append_nil]

theorem Balanced.step {p : Publication} {gates : List Gate} {base landed landed' : List (List UInt8)}
    {before after : Deposit} {owed owed' all all' : List String} {delivered delivered' : List Delivery}
    (balanced : Balanced p gates base before all landed delivered)
    (step : Deposit.Step p gates before after owed owed' landed' delivered')
    (others : ∀ line, (all' ++ owed).count line = (all ++ owed').count line) :
    Balanced p gates base after all' (landed ++ landed') (delivered ++ delivered') where
  payloads := by
    rw [step.payloads, balanced.payloads, List.append_assoc]
  received := by
    rw [step.received, balanced.received, List.filterMap_append, List.length_append]
  balance := by
    intro line
    obtain ⟨written, entries, moved⟩ := step.entries
    have balance := balanced.balance line
    have moved := moved line
    have others := others line
    rw [entries]
    simp only [List.count_append, List.flatMap_append] at balance moved others ⊢
    omega

end Courier
