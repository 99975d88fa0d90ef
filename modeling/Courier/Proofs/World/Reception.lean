import Courier.Proofs.Intake.Gates
import Courier.Proofs.World.Reach

/-! Messages are received by the workers alone. The other parts neither count a message as received
nor tell how far the workers have come, and they do nothing that gates do, but that senders write into
the ledger as well. -/

namespace Courier

structure Unheard (s s' : Shared) : Prop where
  received : s'.stats.received = s.stats.received
  progress : Log.progress s'.log = Log.progress s.log
  recording : s'.ledger.isSome = s.ledger.isSome
  leaves : ∃ lines : List String, Leaves s s' (lines.map .record)

structure Output where
  received : Nat
  console : List Console.Line
  ledger : Option Ledger
  kept : List Kept

def Shared.output (s : Shared) : Output := ⟨s.stats.received, s.console, s.ledger, s.kept⟩

variable {s s' : Shared}

namespace Unheard

theorem same (output : s'.output = s.output) (log : s'.log = s.log) : Unheard s s' := by
  obtain ⟨received, console, ledger, kept⟩ := (Output.mk.injEq ..).mp output
  refine ⟨received, by rw [log], by rw [ledger], [], .nothing ?_ ?_ ?_ kept⟩
  · rw [console]
  · rw [log]
  · rw [ledger]

theorem refl (s : Shared) : Unheard s s := .same rfl rfl

theorem notesAll {entries : List Log.Entry} (output : s'.output = s.output)
    (log : s'.log = s.log ++ entries)
    (aside : ∀ entry ∈ entries, entry.isProgress = false ∧ entry.deed? = none) : Unheard s s' := by
  obtain ⟨received, console, ledger, kept⟩ := (Output.mk.injEq ..).mp output
  have unpaced : Log.progress entries = 0 :=
    List.countP_eq_zero.mpr fun entry member => Bool.not_eq_true _ ▸ (aside entry member).1
  have undone : entries.filterMap Log.Entry.deed? = [] :=
    List.filterMap_eq_nil_iff.mpr fun entry member => (aside entry member).2
  refine ⟨received, ?_, by rw [ledger], [], .nothing ?_ ?_ ?_ kept⟩
  · rw [log, Log.progress_append, unpaced, Nat.add_zero]
  · rw [console]
  · rw [log, List.filterMap_append, undone, List.append_nil]
  · rw [ledger]

theorem notes {entry : Log.Entry} (output : s'.output = s.output) (log : s'.log = s.log ++ [entry])
    (progress : entry.isProgress = false) (undone : entry.deed? = none) : Unheard s s' :=
  .notesAll output log fun _ member => List.mem_singleton.mp member ▸ ⟨progress, undone⟩

theorem prints {line : Console.Line} (received : s'.stats.received = s.stats.received)
    (log : s'.log = s.log) (console : s'.console = s.console ++ [line])
    (ledger : s'.ledger = s.ledger) (kept : s'.kept = s.kept) (other : line.deed? = none) :
    Unheard s s' := by
  refine ⟨received, by rw [log], by rw [ledger], [], .nothing ?_ ?_ ?_ kept⟩
  · simp [console, other]
  · rw [log]
  · rw [ledger]

theorem recordLine {line : String} (recorded : s.recordLine? line = some s') : Unheard s s' := by
  obtain ⟨leaves, recording⟩ := Leaves.recordLine recorded
  obtain ⟨ledger, rfl⟩ := Shared.ledger_of_recordLine recorded
  refine ⟨rfl, rfl, recording, if s.ledger.isSome then [line] else [], ?_⟩
  rwa [apply_ite (List.map Deed.record)]

theorem write {ledger ledger' : Ledger} (present : s.ledger = some ledger)
    (written : ledger.write? = some ledger') : Unheard s { s with ledger := some ledger' } := by
  refine ⟨rfl, rfl, present ▸ rfl, [], .nothing rfl rfl ?_ rfl⟩
  exact congrArg Deposit.entries (Shared.deposit_write present written)

end Unheard

theorem Sending.Move.unheard {m m' : Sending} (move : Sending.Move s m s' m') : Unheard s s' := by
  cases move with
  | crash | charge | miss | find | abandon | starve | despair | wake | count | forgo | offer
  | withdraw | accept | refuse | reward | confirm | refund | yield | again => exact .same rfl rfl
  | drop | retry => exact .notes rfl rfl rfl rfl

theorem SendTask.unheard_of_finish {task task' : SendTask} {outcome : SendOutcome}
    (finished : task.finish s outcome = (s', task')) : Unheard s s' := by
  unfold SendTask.finish at finished
  dsimp only at finished
  split at finished <;> cases finished
  all_goals first | exact .refl s | exact .notes rfl rfl rfl rfl

theorem SendTask.Move.unheard {task task' : SendTask} (move : SendTask.Move s task s' task') :
    Unheard s s' := by
  cases move with
  | begin | enter | leave | conclude | lower => exact .same rfl rfl
  | wait stage moved =>
      obtain ⟨slots, rfl⟩ := SlotWait.slots_of_step moved
      exact .same rfl rfl
  | send stage moved => exact (Sending.move_of_step moved).unheard
  | finish stage finished =>
      obtain ⟨received, progress, recording, leaves⟩ := unheard_of_finish finished
      exact ⟨received, progress, recording, leaves⟩
  | record stage recorded => exact .recordLine recorded

theorem Unthrottled.Move.unheard {p : Publication} {u u' : Unthrottled}
    (move : Unthrottled.Move p s u s' u') : Unheard s s' := by
  cases move with
  | confirm stage noted =>
      rw [noted]
      exact .notes rfl rfl rfl rfl
  | record stage recorded => exact .recordLine recorded
  | drop => exact .notes rfl rfl rfl rfl
  | finish | quit | count | forgo | offer | withdraw | accept | refuse | halt | resume =>
      exact .same rfl rfl

theorem Publisher.Move.unheard {p : Publication} {tasks : List SendTask}
    {publisher publisher' : Publisher} {started : Option SendTask}
    (move : Publisher.Move p s tasks publisher s' publisher' started) : Unheard s s' := by
  cases move with
  | throttled stage moved =>
      obtain ⟨slots, rfl⟩ := (Throttled.move_of_step moved).reach
      exact .same rfl rfl
  | unthrottled stage moved => exact (Unthrottled.move_of_step moved).unheard
  | join | finish =>
      refine .notesAll rfl rfl fun entry member => ?_
      rcases List.mem_append.mp member with panicked | batch
      · rw [List.eq_of_mem_replicate panicked]
        exact ⟨rfl, rfl⟩
      · rw [List.mem_singleton.mp batch]
        exact ⟨rfl, rfl⟩

theorem Session.Move.unheard {view : View} {session session' : Session}
    (move : Session.Move view s session s' session') : Unheard s s' := by
  cases move with
  | accept => exact .prints rfl rfl rfl rfl rfl rfl
  | publish | forgo | subscribe | withdraw | refuse | unsubscribe | watch | lose | wait | rouse | part
  | interrupt | linger | halt | settle | depart | drained | joined => exact .same rfl rfl
  | tear | abandon | drain | stop => exact .notes rfl rfl rfl rfl

theorem Pump.unheard_of_fail {status : Status} {pump : Pump}
    (failed : Pump.fail s status = (s', pump)) : Unheard s s' := by
  unfold Pump.fail at failed
  split at failed <;> cases failed
  · refine .notesAll rfl (List.append_assoc s.log [.pingLimited] [.pingAdvice]) ?_
    decide
  · exact .notes rfl rfl rfl rfl

theorem Pump.Move.unheard {pump pump' : Pump} (move : Pump.Move s pump s' pump') :
    Unheard s s' := by
  cases move with
  | cancel | receive | store | refuse | count => exact .same rfl rfl
  | close | overflow => exact .notes rfl rfl rfl rfl
  | fail active arrived failed =>
      obtain ⟨received, progress, recording, leaves⟩ := Pump.unheard_of_fail failed
      exact ⟨received, progress, recording, leaves⟩

end Courier
