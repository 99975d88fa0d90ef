import Courier.Proofs.Publishing.Stalling
import Courier.Proofs.World.Aftermath

/-! Runs in which nothing takes longer than it has to. The clock goes on only when no part can move,
and then no further than to the next time that a part waits for. So a client that was cancelled
lets no time go by, but where its session waits for the sink or for its workers. -/

namespace Courier

theorem Pump.ended_of_stalled {s : Shared} {pump : Pump} (cancelled : s.cancelled = true)
    (stalled : pump.step s = none) : pump.exit?.isSome = true := by
  cases pump with
  | ended => rfl
  | listening =>
      simp only [step, cancelled, if_true] at stalled
      cases stalled
  | holding =>
      simp only [step] at stalled
      split at stalled <;> cases stalled
  | stored => cases stalled

theorem Ledger.write?_of_record? {ledger : Ledger} {line : String}
    (full : ledger.record? line = none) : ledger.write?.isSome = true := by
  unfold record? at full
  split at full
  case isTrue => cases full
  case isFalse many =>
      unfold write?
      split
      case h_1 empty => simp [empty, queueDepth] at many
      case h_2 => rfl

namespace Session

variable {view : View} {s : Shared} {session : Session}

/-- Where a session may wait although it was cancelled. -/
def isPatient : Session → Bool
  | .unsubscribing .. | .draining _ | .joining _ | .ended _ => true
  | _ => false

theorem patient_of_stalled (cancelled : s.cancelled = true)
    (lost : view.pumpExit.isSome = true)
    (reported : ∀ exit, session = .halting exit → view.published.isSome = true)
    (stalled : session.step view s = none) : session.isPatient = true := by
  cases session with
  | unsubscribing | draining | joining | ended => rfl
  | starting =>
      simp only [step, cancelled, if_true] at stalled
      split at stalled <;> cases stalled
  | watching => cases stalled
  | subscribing | listening | waiting | lingering =>
      simp only [step, cancelled, true_or, if_true] at stalled
      cases stalled
  | publishing =>
      obtain ⟨exit, lost⟩ := Option.isSome_iff_exists.mp lost
      cases published : view.published <;>
        simp [step, published, lost, cancelled] at stalled
  | halting exit =>
      have reported := reported exit rfl
      simp only [step, Option.map_eq_none_iff] at stalled
      rw [stalled] at reported
      cases reported
  | closing =>
      simp only [step] at stalled
      split at stalled <;> cases stalled

theorem due_of_unsubscribing {transit : Transit} {deadline : Nat}
    (stalled : (unsubscribing transit deadline).step view s = none) :
    ∃ due, (unsubscribing transit deadline).deadline? = some due ∧ s.now < due ∧
      due ≤ deadline := by
  simp only [step] at stalled
  split at stalled
  case h_1 => cases stalled
  case h_2 silent =>
      split at stalled
      case isTrue => cases stalled
      case isFalse early =>
          cases arrival : transit.arrival with
          | none =>
              refine ⟨deadline, ?_, Nat.lt_of_not_le early, Nat.le_refl _⟩
              simp only [deadline?, Transit.deadline?, arrival, Option.map_none, Option.elim_none]
          | some arrival' =>
              obtain ⟨time, reply⟩ := arrival'
              have later : ¬time ≤ s.now := by
                intro past
                simp [Transit.reply?, arrival, past] at silent
              refine ⟨min deadline time, ?_, ?_, Nat.min_le_left ..⟩
              · simp only [deadline?, Transit.deadline?, arrival, Option.map_some,
                  Option.elim_some]
              · omega

end Session

namespace World

def isStuck (w : World) : Bool := w.agents.all fun agent => (w.step agent).isNone

/-- The clock goes on only when no part can move, and then no further than to what is waited for. -/
def isPrompt (made : Transition World Motion) : Bool :=
  match made.label with
  | .part _ => true
  | .clock now =>
      made.before.isStuck &&
        made.before.deadlines.all fun due => due ≤ made.before.shared.now || now ≤ due

variable {config : Config} {around : Surroundings} {records : Bool} {gates : List Gate}
  {past : List (Transition World Motion)} {w w' : World} {now : Nat} {session : Session}

theorem stalled_of_stuck (agent : Agent) (stuck : w.isStuck = true)
    (member : agent ∈ w.agents) : w.step agent = none :=
  Option.isNone_iff_eq_none.mp (List.all_eq_true.mp stuck agent member)

private theorem session_of_stuck (stuck : w.isStuck = true) (driving : w.session = some session) :
    session.step w.view w.shared = none := by
  have stalled := stalled_of_stuck .session stuck (by simp [agents])
  simp only [step, stepSession, driving] at stalled
  exact Option.map_eq_none_iff.mp stalled

private theorem roomy_of_stuck (stuck : w.isStuck = true) (line : String) :
    w.shared.recordLine? line ≠ none := by
  intro full
  have stalled := stalled_of_stuck .writer stuck (by simp [agents])
  cases kept : w.shared.ledger with
  | none => simp [Shared.recordLine?, kept] at full
  | some ledger =>
      simp only [Shared.recordLine?, kept, Option.map_eq_none_iff] at full
      simp only [step, stepWriter, kept, Option.map_eq_none_iff] at stalled
      have written := Ledger.write?_of_record? full
      rw [stalled] at written
      cases written

private theorem lost_of_stuck (stuck : w.isStuck = true) (cancelled : w.shared.cancelled = true)
    {pump : Pump} (running : w.pump = some pump) : w.pumpExit?.isSome = true := by
  have stalled := stalled_of_stuck .pump stuck (by simp [agents])
  simp only [step, stepPump, running, Option.map_eq_none_iff] at stalled
  rw [pumpExit?, running, Option.bind_some]
  exact Pump.ended_of_stalled cancelled stalled

private theorem ended_of_stuck (stuck : w.isStuck = true) (cancelled : w.shared.cancelled = true)
    (admitted : ∀ task ∈ w.tasks, task.Admitted) : ∀ task ∈ w.tasks, task.isEnded = true := by
  intro task member
  obtain ⟨index, bound, running⟩ := List.mem_iff_getElem.mp member
  have stalled := stalled_of_stuck (.task index) stuck (by simp [agents, bound])
  simp only [step, stepTask, List.getElem?_eq_getElem bound, running,
    Option.map_eq_none_iff] at stalled
  exact SendTask.ended_of_stalled cancelled (roomy_of_stuck stuck) (admitted task member) stalled

private theorem reported_of_stuck (stuck : w.isStuck = true)
    (cancelled : w.shared.cancelled = true) (admitted : ∀ task ∈ w.tasks, task.Admitted)
    {publisher : Publisher} (running : w.publisher = some publisher) :
    w.publishReport?.isSome = true := by
  have stalled := stalled_of_stuck .publisher stuck (by simp [agents])
  simp only [step, stepPublisher, running, Option.map_eq_none_iff] at stalled
  rw [publishReport?, running, Option.bind_some]
  exact Publisher.reported_of_stalled cancelled (roomy_of_stuck stuck)
    (ended_of_stuck stuck cancelled admitted) stalled

/-- When nothing of a cancelled client can move, its session waits for the sink or for workers. -/
theorem patient_of_stuck
    (history : History advance (ofSession config around records gates) past w)
    (stuck : w.isStuck = true) (cancelled : w.shared.cancelled = true)
    (driving : w.session = some session) {pump : Pump} (running : w.pump = some pump) :
    session.isPatient = true := by
  have admitted := (seated_of_history history).admitted
  refine Session.patient_of_stalled cancelled (lost_of_stuck stuck cancelled running) ?_
    (session_of_stuck stuck driving)
  rintro exit rfl
  have orderly := (governed_of_history history).orderly _ driving
  obtain ⟨publisher, publishing, _⟩ :=
    (accounted_of_history (.inSession orderly.1 records gates) history).publisher
  exact reported_of_stuck stuck cancelled admitted publishing

theorem le_due_of_prompt {due : Nat} (prompt : isPrompt ⟨w, .clock now, w'⟩ = true)
    (member : due ∈ w.deadlines) (future : w.shared.now < due) : now ≤ due := by
  simp only [isPrompt, Bool.and_eq_true, List.all_eq_true] at prompt
  have timely := prompt.2 due member
  simp only [Bool.or_eq_true, decide_eq_true_eq] at timely
  exact timely.resolve_left (Nat.not_le_of_lt future)

theorem le_deadline_of_prompt {transit : Transit} {deadline : Nat}
    (prompt : isPrompt ⟨w, .clock now, w'⟩ = true)
    (driving : w.session = some (.unsubscribing transit deadline)) : now ≤ deadline := by
  have stuck : w.isStuck = true := (Bool.and_eq_true_iff.mp prompt).1
  obtain ⟨due, known, future, bound⟩ :=
    Session.due_of_unsubscribing (session_of_stuck stuck driving)
  have member : due ∈ w.deadlines := by
    simp [deadlines, driving, known]
  exact Nat.le_trans (le_due_of_prompt prompt member future) bound

end World

end Courier
