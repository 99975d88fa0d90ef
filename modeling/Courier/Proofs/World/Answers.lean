import Courier.Proofs.World.Subscribing

/-! Two clients that subscribe, with sinks that differ in nothing but the answer to the unsubscription.
As long as it is not handed over, the same steps lead both to the same state. -/

namespace Courier

def Sink.answering (sink : Sink) (outcome : Call → Outcome) : Sink := { sink with outcome }

def Surroundings.answering (around : Surroundings) (outcome : Call → Outcome) : Surroundings :=
  { around with sink := around.sink.answering outcome }

namespace Shared

def answering (s : Shared) (outcome : Call → Outcome) : Shared :=
  { s with sink := s.sink.answering outcome }

variable {s : Shared} {outcome : Call → Outcome}

theorem recordLine?_answering (line : String) :
    (s.answering outcome).recordLine? line =
      (s.recordLine? line).map (·.answering outcome) := by
  have ledger : (s.answering outcome).ledger = s.ledger := rfl
  rw [recordLine?, recordLine?, ledger]
  cases s.ledger with
  | none => rfl
  | some ledger =>
      dsimp only
      cases ledger.record? line <;> rfl

theorem offer_answering {command : Command}
    (same : outcome (s.sink.callOf command) = s.sink.outcome (s.sink.callOf command)) :
    (s.answering outcome).offer command =
      ((s.offer command).1.answering outcome, (s.offer command).2) := by
  have call : (s.sink.answering outcome).callOf command = s.sink.callOf command := rfl
  simp only [offer, Sink.offer, answering, call]
  simp only [Sink.answering, same]

theorem settle_answering (command : Command) (reply : Reply) :
    (s.answering outcome).settle command reply = (s.settle command reply).answering outcome := by
  cases reply <;> rfl

end Shared

variable {s : Shared} {outcome : Call → Outcome}

theorem Pump.step_answering (pump : Pump) :
    pump.step (s.answering outcome) =
      (pump.step s).map fun (s, pump) => (s.answering outcome, pump) := by
  have cancelled : (s.answering outcome).cancelled = s.cancelled := rfl
  have buffer : (s.answering outcome).buffer = s.buffer := rfl
  have next : (s.answering outcome).feed.next? (s.answering outcome).now = s.feed.next? s.now := rfl
  cases pump with
  | stored | ended => rfl
  | holding frame =>
      simp only [step, buffer]
      cases s.buffer.put frame <;> rfl
  | listening =>
      simp only [step, cancelled, next]
      cases s.cancelled with
      | true => rfl
      | false =>
          simp only [Bool.false_eq_true, if_false]
          cases s.feed.next? s.now with
          | none => rfl
          | some next =>
              obtain ⟨arrival, feed⟩ := next
              cases arrival with
              | frame | ended => rfl
              | failed status =>
                  simp only [fail, Option.map_some]
                  cases StreamError.ofStatus status <;> rfl

namespace Worker

variable {worker : Worker}

private theorem fetch_answering :
    worker.fetch (s.answering outcome) =
      ((worker.fetch s).1.answering outcome, (worker.fetch s).2) := by
  have buffer : (s.answering outcome).buffer = s.buffer := rfl
  rw [fetch, fetch, buffer]
  cases s.buffer.take? with
  | some next => rfl
  | none =>
      dsimp only
      cases s.buffer.fed <;> rfl

private theorem classify_answering (gates : List Gate) (frame : Wire.Response) :
    worker.classify (s.answering outcome) gates frame =
      ((worker.classify s gates frame).1.answering outcome,
        (worker.classify s gates frame).2) := by
  unfold classify
  cases Inbound.ofResponse frame with
  | trace | unknown => rfl
  | message data =>
      dsimp only
      cases Envelope.decode data <;> rfl

private theorem acknowledge_answering (seq : Nat) :
    acknowledge (s.answering outcome) seq = (acknowledge s seq).answering outcome := by
  by_cases hundredth : seq % progressEvery = 0 <;> cases enabled : s.flow.enabled <;>
    simp [acknowledge, hundredth, enabled, Shared.note, Shared.addCredits, Shared.answering]

private theorem handle_answering (visit : Visit) (deeds : List Deed) :
    worker.handle (s.answering outcome) visit deeds =
      (worker.handle s visit deeds).map fun (s, worker) => (s.answering outcome, worker) := by
  cases deeds with
  | nil => rfl
  | cons deed deeds =>
      cases deed with
      | print | log | keep | rest => rfl
      | record line =>
          simp only [handle, Shared.recordLine?_answering]
          cases s.recordLine? line <;> rfl

theorem step_answering (gates : List Gate) (worker : Worker) :
    worker.step gates (s.answering outcome) =
      (worker.step gates s).map fun (s, worker) => (s.answering outcome, worker) := by
  have shutdown : (s.answering outcome).shutdown = s.shutdown := rfl
  have buffer : (s.answering outcome).buffer = s.buffer := rfl
  have now : (s.answering outcome).now = s.now := rfl
  unfold step
  cases worker.stage with
  | idle =>
      cases told : s.shutdown <;> simp [shutdown, told, fetch_answering]
      rfl
  | parked =>
      cases told : s.shutdown with
      | true =>
          simp [shutdown, told]
          rfl
      | false =>
          by_cases waits : worker.id ∈ s.buffer.parked ∧ s.buffer.fed = true
          · simp [shutdown, buffer, told, waits]
          · simp only [shutdown, buffer, told, Bool.false_eq_true, if_false, if_neg waits,
              Option.map_some]
            exact congrArg some
              (fetch_answering (s := { s with
                shutdown := false, buffer.parked := s.buffer.parked.erase worker.id }))
  | fetched frame => rfl
  | counted frame => simp only [classify_answering, Option.map_some]
  | numbered seq envelope => simp only [acknowledge_answering, Option.map_some]
  | delivering delivery gates =>
      cases gates <;> rfl
  | handling visit deeds => exact handle_answering visit deeds
  | resting deadline visit deeds =>
      by_cases due : deadline ≤ s.now <;> simp [now, due]
  | stopped => rfl

end Worker

/-- Before it leaves a sink that it listens to, a session does not see how that would answer. -/
theorem Session.step_answering {view : View} (session : Session)
    (same : ∀ call, call.command ≠ .unsubscribe view.topic → outcome call = s.sink.outcome call)
    (stays : session = .listening → s.cancelled = false) :
    session.step view (s.answering outcome) =
      (session.step view s).map fun (s, session) => (s.answering outcome, session) := by
  have cancelled : (s.answering outcome).cancelled = s.cancelled := rfl
  have now : (s.answering outcome).now = s.now := rfl
  cases session with
  | starting =>
      have asked := same (s.sink.callOf (.subscribe view.topic)) nofun
      cases mode : view.mode with
      | publish => simp [step, mode]
      | subscribe =>
          cases told : s.cancelled <;>
            simp [step, mode, cancelled, told, Shared.offer_answering asked]
  | subscribing transit =>
      cases told : s.cancelled with
      | true =>
          simp [step, cancelled, told]
          rfl
      | false =>
          cases replied : transit.reply? s.now with
          | none => simp [step, cancelled, told, now, replied]
          | some reply =>
              cases reply <;>
                simp [step, cancelled, told, now, replied, Shared.settle_answering]
              rfl
  | listening =>
      simp only [step, cancelled, stays rfl, Bool.false_eq_true, if_false]
      rfl
  | watching => rfl
  | waiting =>
      by_cases called : s.cancelled = true ∨ view.pumpExit.isSome = true <;>
        simp [step, cancelled, called]
  | unsubscribing transit deadline =>
      cases replied : transit.reply? s.now with
      | some reply =>
          cases reply <;> simp [step, now, replied, Shared.settle_answering]
          rfl
      | none =>
          by_cases due : deadline ≤ s.now <;> simp [step, now, replied, due]
          rfl
  | publishing =>
      cases published : view.published with
      | some report =>
          cases told : s.cancelled <;> simp [step, published, cancelled, told]
          rfl
      | none =>
          cases lost : view.pumpExit <;> simp [step, published, lost]
          rfl
  | halting exit => cases published : view.published <;> simp [step, published]
  | lingering report deadline =>
      by_cases due : s.cancelled = true ∨ deadline ≤ s.now <;> simp [step, cancelled, now, due]
  | closing driven => cases ended : driven.streamEnded <;> simp [step, ended] <;> rfl
  | draining driven =>
      cases stopped : view.workersStopped with
      | true =>
          simp only [step, stopped, if_true, Option.map_some]
          rfl
      | false => simp [step, stopped]
  | joining driven =>
      by_cases joined : view.workersStopped ∧ (driven.pumpSeen ∨ view.pumpExit.isSome) <;>
        simp [step, joined]
      rfl
  | ended => rfl

theorem Session.Move.keepsOutcome {view : View} {s' : Shared} {session session' : Session}
    (move : Session.Move view s session s' session') : s'.sink.outcome = s.sink.outcome := by
  cases move <;> rfl

namespace World

def answering (w : World) (outcome : Call → Outcome) : World :=
  { w with shared := w.shared.answering outcome }

variable {config : Config} {around : Surroundings} {records : Bool} {gates : List Gate}
  {past past' : List (Transition World Motion)} {w w' : World} {motion : Motion}

theorem Move.answering (move : Move w motion w') (governed : w.Governed .subscribe)
    (same : ∀ call, call.command ≠ .unsubscribe w.topic →
      outcome call = w.shared.sink.outcome call)
    (stays : motion = .part .session → w.session = some .listening → w.shared.cancelled = false) :
    (w.answering outcome).advance motion = some (w'.answering outcome) := by
  obtain ⟨publisher, tasks⟩ := governed.silent rfl
  cases move with
  | session running moved =>
      have stays : _ = Session.listening → w.shared.cancelled = false :=
        fun listens => stays rfl (listens ▸ running)
      have moved' : Session.step w.view (w.shared.answering outcome) _ = _ :=
        Session.step_answering _ same stays
      rw [moved] at moved'
      simp only [advance, step, stepSession, World.answering, running]
      exact congrArg (Option.map _) moved'
  | publisher running =>
      rw [publisher] at running
      cases running
  | task running =>
      rw [tasks] at running
      cases running
  | worker running moved =>
      simp only [advance, step, stepWorker, World.answering, running, Worker.step_answering, moved,
        Option.map_some]
  | pump running moved =>
      simp only [advance, step, stepPump, World.answering, running, Pump.step_answering, moved,
        Option.map_some]
  | outside planned due =>
      rename_i event later
      simp only [advance, step, stepOutside, World.answering, planned]
      rw [if_pos (show _ ≤ (w.shared.answering outcome).now from due)]
      cases event <;> rfl
  | signal planned due =>
      rename_i signal
      have due : signal.isDue (w.shared.answering outcome) = true := by
        cases signal <;> exact due
      simp only [advance, step, stepSignal, World.answering, planned]
      rw [if_pos due]
      rfl
  | writer kept written =>
      have kept : (w.shared.answering outcome).ledger = some _ := kept
      simp only [advance, step, stepWriter, World.answering, kept, written, Option.map_some]
      rfl
  | clock later => exact if_pos later

theorem Move.keepsOutcome (move : Move w motion w') (governed : w.Governed .subscribe) :
    w'.shared.sink.outcome = w.shared.sink.outcome := by
  rcases move.sink_of_subscriber governed with rfl | same
  · cases move with
    | session _ moved => exact (Session.move_of_step moved).keepsOutcome
  · rw [same]

theorem outcome_of_history (mode : config.mode = .subscribe)
    (history : History advance (ofSession config around records gates) past w) :
    w.shared.sink.outcome = around.sink.outcome := by
  induction history with
  | start =>
      rw [ofSession_eq]
      rfl
  | next history moved induction =>
      have governed := governed_of_history history
      exact ((move_of_advance moved).keepsOutcome (mode ▸ governed)).trans induction

theorem Move.unsubscribes (move : Move w (.part .session) w')
    (listens : w.session = some .listening) (cancelled : w.shared.cancelled = true) :
    .unsubscribe w.topic ∈ handed ⟨w, .part .session, w'⟩ := by
  cases move with
  | session running moved =>
      cases listens.symm.trans running
      cases Session.move_of_step moved with
      | watch active => cases active.symm.trans cancelled
      | unsubscribe =>
          rw [World.handed, Shared.handed_offer]
          exact List.mem_singleton_self _

theorem answering_of_history (mode : config.mode = .subscribe)
    (same : ∀ call, call.command ≠ .unsubscribe config.topic →
      outcome call = around.sink.outcome call)
    (history : History advance (ofSession config around records gates) past w)
    (history' : History advance (ofSession config (around.answering outcome) records gates) past' w')
    (labels : past'.map (·.label) = past.map (·.label))
    (stays : ∀ made ∈ past, .unsubscribe config.topic ∉ handed made) :
    w' = w.answering outcome := by
  induction history generalizing past' w' with
  | start =>
      cases history' with
      | next => simp at labels
      | start =>
          simp only [ofSession_eq, mode]
          rfl
  | next history moved induction =>
      rename_i past before after motion
      cases history' with
      | start => simp at labels
      | next history' moved' =>
          simp only [List.map_append, List.map_cons, List.map_nil] at labels
          obtain ⟨earlier, last⟩ := List.append_inj' labels rfl
          cases last
          rw [List.forall_mem_append, List.forall_mem_singleton] at stays
          cases induction history' earlier stays.1
          have move := move_of_advance moved
          have governed := governed_of_history history
          have topic := topic_of_history history
          have outcomes := outcome_of_history mode history
          have next :
              (before.answering outcome).advance motion = some (after.answering outcome) := by
            refine move.answering (mode ▸ governed) (by rw [topic, outcomes]; exact same) ?_
            rintro rfl listens
            rw [← Bool.not_eq_true]
            intro cancelled
            exact stays.2 (topic ▸ move.unsubscribes listens cancelled)
          exact Option.some.inj (moved'.symm.trans next)

end World

end Courier
