import Courier.Proofs.World.Commands
import Courier.Proofs.World.Endings

/-! What a subscriber says to its node: that it subscribes and, if it sees that it is interrupted while
it listens, that it unsubscribes. A client that is interrupted between the two looks of its subscriber,
at the interrupt and at the pump, may find that the pump has stopped already, and says nothing more.
How far a subscriber has come can be told from its state, and at its end from its result. -/

namespace Courier

/-- How far a subscriber has come with its node. -/
inductive Dialogue where
  | silent
  | asked
  | subscribed
  /-- The pump had stopped for the interrupt before the subscriber saw it. -/
  | overtaken
  | parting
  | parted
  deriving DecidableEq

namespace Dialogue

def commands (topic : String) : Dialogue → List Command
  | .silent => []
  | .asked | .subscribed | .overtaken => [.subscribe topic]
  | .parting | .parted => [.subscribe topic, .unsubscribe topic]

def agreements (topic : String) : Dialogue → List Command
  | .silent | .asked => []
  | .subscribed | .overtaken | .parting => [.subscribe topic]
  | .parted => [.subscribe topic, .unsubscribe topic]

variable {topic : String} {dialogue : Dialogue}

theorem commands_isPrefix (topic : String) (dialogue : Dialogue) :
    dialogue.commands topic <+: [.subscribe topic, .unsubscribe topic] := by
  cases dialogue with
  | silent => exact List.nil_prefix
  | asked | subscribed | overtaken => exact ⟨[.unsubscribe topic], rfl⟩
  | parting | parted => exact List.prefix_rfl

theorem unsubscribe_mem_commands :
    .unsubscribe topic ∈ dialogue.commands topic ↔ dialogue = .parting ∨ dialogue = .parted := by
  cases dialogue <;> simp [commands]

theorem subscribe_mem_agreements :
    .subscribe topic ∈ dialogue.agreements topic ↔
      dialogue ≠ .silent ∧ dialogue ≠ .asked := by
  cases dialogue <;> simp [agreements]

end Dialogue

namespace Session

def Concludes : Except StreamError Exit → Dialogue → Prop
  | .error _, dialogue => dialogue = .asked
  | .ok .interrupted, dialogue => dialogue ≠ .subscribed
  | .ok .published, _ => False
  | .ok (.streamEnded _), dialogue => dialogue = .subscribed

/-- Where a subscriber is with its node. -/
def Says (topic : String) : Session → Dialogue → Prop
  | .starting, dialogue => dialogue = .silent
  | .subscribing transit, dialogue => dialogue = .asked ∧ transit.command = .subscribe topic
  | .listening, dialogue | .watching, dialogue | .waiting, dialogue => dialogue = .subscribed
  | .unsubscribing transit _, dialogue =>
      dialogue = .parting ∧ transit.command = .unsubscribe topic
  | .closing driven, dialogue | .draining driven, dialogue | .joining driven, dialogue =>
      Concludes driven.exit dialogue
  | .ended result, dialogue => Concludes (result.map (·.exit)) dialogue
  | .publishing, _ | .halting _, _ | .lingering .., _ => False

variable {view : View} {s s' : Shared} {session session' : Session} {dialogue : Dialogue}
  {topic : String}

theorem Concludes.parted_iff {result : Except StreamError Exit}
    (concludes : Concludes result dialogue) :
    (dialogue = .parting ∨ dialogue = .parted) ↔
      (dialogue ≠ .silent ∧ dialogue ≠ .asked) ∧ result = .ok .interrupted ∧
        dialogue ≠ .overtaken := by
  match result, concludes with
  | .error error, rfl => simp
  | .ok (.streamEnded exit), rfl => simp
  | .ok .interrupted, talked =>
      cases dialogue with
      | subscribed => exact (talked rfl).elim
      | silent | asked | overtaken | parting | parted => simp

theorem Concludes.interrupted_of_overtaken {result : Except StreamError Exit}
    (concludes : Concludes result .overtaken) : result = .ok .interrupted := by
  match result, concludes with
  | .ok .interrupted, _ => rfl

def lostTo : Pump.Exit → Dialogue
  | .cancelled => .overtaken
  | _ => .subscribed

private theorem concludes_pumpStopped (exit : Pump.Exit) (publish : Option PublishReport) :
    Concludes (Driven.pumpStopped exit publish).exit (lostTo exit) := by
  cases exit with
  | cancelled => rintro ⟨⟩
  | endOfStream | pingLimit | failed | bufferClosed => rfl

private theorem spoken_finish {driven : Driven} (concludes : Concludes driven.exit dialogue)
    (s : Shared) : (finish s driven).Says topic dialogue := by
  unfold finish
  cases reached : driven.exit with
  | error error =>
      rw [reached] at concludes
      exact concludes
  | ok exit =>
      rw [reached] at concludes
      exact concludes

/-- What a step of a subscriber adds to its dialogue. If it has been silent and was cancelled before
it spoke, it stays silent. -/
theorem Move.speaks (move : Move view s session s' session') (mode : view.mode = .subscribe)
    (spoken : session.Says view.topic dialogue) :
    ∃ dialogue', session'.Says view.topic dialogue' ∧
      dialogue'.commands view.topic = dialogue.commands view.topic ++ s.sink.handed s'.sink ∧
      dialogue'.agreements view.topic =
        dialogue.agreements view.topic ++ s.sink.agreed s'.sink ∧
      (dialogue' = .overtaken ↔
        dialogue = .overtaken ∨ session = .watching ∧ view.pumpExit = some .cancelled) ∧
      (dialogue = .silent → (session = .starting → s.cancelled = true) → dialogue' = .silent) := by
  cases move with
  | publish mode' => cases mode.symm.trans mode'
  | interrupt | linger | halt | settle | depart => exact spoken.elim
  | forgo =>
      cases spoken
      exact ⟨.silent, by rintro ⟨⟩, by simp, by simp, by simp, fun _ _ => rfl⟩
  | subscribe _ active =>
      cases spoken
      refine ⟨.asked, ⟨rfl, rfl⟩, ?_, ?_, by simp, fun _ cancelled => ?_⟩
      · rw [Shared.handed_offer]
        rfl
      · rw [Shared.agreed_offer]
        rfl
      · cases active.symm.trans (cancelled rfl)
  | withdraw =>
      obtain ⟨rfl, _⟩ := spoken
      exact ⟨.asked, by rintro ⟨⟩, by simp [Shared.withdraw], by simp [Shared.withdraw], by simp,
        by simp⟩
  | accept =>
      obtain ⟨rfl, same⟩ := spoken
      refine ⟨.subscribed, rfl, ?_, ?_, by simp, by simp⟩
      · simp [Shared.print, Shared.settle, Dialogue.commands]
      · simp [Shared.print, Shared.settle, Dialogue.agreements, same]
  | refuse =>
      obtain ⟨rfl, _⟩ := spoken
      exact ⟨.asked, rfl, by simp [Shared.settle], by simp [Shared.settle], by simp, by simp⟩
  | unsubscribe =>
      cases spoken
      refine ⟨.parting, ⟨rfl, rfl⟩, ?_, ?_, by simp, by simp⟩
      · rw [Shared.handed_offer]
        rfl
      · rw [Shared.agreed_offer]
        rfl
  | watch | rouse =>
      cases spoken
      exact ⟨.subscribed, rfl, by simp, by simp, by simp, by simp⟩
  | wait quiet =>
      cases spoken
      exact ⟨.subscribed, rfl, by simp, by simp, by simp [quiet], by simp⟩
  | @lose exit lost =>
      cases spoken
      refine ⟨lostTo exit, concludes_pumpStopped exit none, ?_, ?_, ?_, by simp⟩
      all_goals cases exit <;> simp [lostTo, lost, Dialogue.commands, Dialogue.agreements]
  | part =>
      obtain ⟨rfl, same⟩ := spoken
      refine ⟨.parted, by rintro ⟨⟩, ?_, ?_, by simp, by simp⟩
      · simp [Shared.settle, Dialogue.commands]
      · simp [Shared.settle, Dialogue.agreements, same]
  | tear =>
      obtain ⟨rfl, _⟩ := spoken
      exact ⟨.parting, by rintro ⟨⟩, by simp [Shared.settle, Shared.note],
        by simp [Shared.settle, Shared.note], by simp, by simp⟩
  | abandon =>
      obtain ⟨rfl, _⟩ := spoken
      exact ⟨.parting, by rintro ⟨⟩, by simp [Shared.withdraw, Shared.note],
        by simp [Shared.withdraw, Shared.note], by simp, by simp⟩
  | drain | stop =>
      exact ⟨dialogue, spoken, by simp [stopAll, Shared.note], by simp [stopAll, Shared.note],
        by simp, fun silent _ => silent⟩
  | drained | joined =>
      exact ⟨dialogue, spoken_finish spoken s, by simp [stopAll], by simp [stopAll], by simp,
        fun silent _ => silent⟩

end Session

namespace World

/-- The session finds that the pump has stopped for an interrupt that it has not seen itself. -/
def Finds (made : Transition World Motion) : Prop :=
  made.label = .part .session ∧ made.before.session = some .watching ∧
    made.before.pumpExit? = some .cancelled

/-- The client was interrupted after its session had looked whether it was, and before the session
looked at the pump, which had stopped by then. -/
def Overtaken (past : List (Transition World Motion)) : Prop :=
  ∃ earlier look between found later, past = earlier ++ look :: between ++ found :: later ∧
    look.before.session = some .listening ∧ look.before.shared.cancelled = false ∧
      (∀ made ∈ between, made.label ≠ .part .session) ∧
        Finds found ∧ found.before.shared.cancelled = true

def CancelledFirst (around : Surroundings) (past : List (Transition World Motion)) : Prop :=
  around.cancelled = true ∨
    ∃ made ∈ past, made.label = .part .session ∧ made.before.session = some .starting ∧
      made.before.shared.cancelled = true

variable {config : Config} {around : Surroundings} {records : Bool} {gates : List Gate}
  {past : List (Transition World Motion)} {w w' : World} {motion : Motion}

/-- What a subscriber has said agrees with its state. -/
structure Speaks (topic : String) (around : Surroundings) (past : List (Transition World Motion))
    (session : Session) (cancelled : Bool) (dialogue : Dialogue) : Prop where
  spoken : session.Says topic dialogue
  commands : commands past = dialogue.commands topic
  agreements : agreements past = dialogue.agreements topic
  overtaken : (∃ made ∈ past, Finds made) ↔ dialogue = .overtaken
  silent : CancelledFirst around past → dialogue = .silent ∧
    (session = .starting → cancelled = true)

theorem Speaks.drive {topic : String} {session session' : Session} {shared : Shared}
    {dialogue : Dialogue}
    (speaks : Speaks topic around past session w.shared.cancelled dialogue)
    (running : w.session = some session) (viewed : w.topic = topic)
    (subscribes : w.mode = .subscribe)
    (move : Session.Move w.view w.shared session shared session') :
    ∃ dialogue', Speaks topic around
      (past ++ [⟨w, .part .session, { w with shared, session := some session' }⟩]) session'
      shared.cancelled dialogue' := by
  subst viewed
  obtain ⟨dialogue', spoken, commands, agreements, overtaken, silent⟩ :=
    move.speaks subscribes speaks.spoken
  refine ⟨dialogue', spoken, ?_, ?_, ?_, ?_⟩
  · rw [commands_append, speaks.commands]
    exact commands.symm
  · rw [agreements_append, speaks.agreements]
    exact agreements.symm
  · rw [overtaken, ← speaks.overtaken]
    simp only [Finds, List.mem_append, List.mem_singleton, or_and_right, exists_or,
      exists_eq_left, true_and, running, Option.some.injEq]
    rfl
  · have left : session' ≠ .starting := by
      rintro rfl
      cases move
    intro first
    have quiet : dialogue = .silent ∧ (session = .starting → w.shared.cancelled = true) := by
      rcases first with before | ⟨made, member, own, starting, cancelled⟩
      · exact speaks.silent (.inl before)
      · rcases List.mem_append.mp member with earlier | last
        · exact speaks.silent (.inr ⟨made, earlier, own, starting, cancelled⟩)
        · cases List.mem_singleton.mp last
          cases running.symm.trans starting
          exact ⟨speaks.spoken, fun _ => cancelled⟩
    exact ⟨silent quiet.1 quiet.2, fun starting => (left starting).elim⟩

theorem Speaks.elsewhere {topic : String} {session : Session} {dialogue : Dialogue}
    (speaks : Speaks topic around past session w.shared.cancelled dialogue)
    (other : motion ≠ .part .session) (same : w'.shared.sink = w.shared.sink)
    (cancelled : w.shared.cancelled = true → w'.shared.cancelled = true) :
    Speaks topic around (past ++ [⟨w, motion, w'⟩]) session w'.shared.cancelled dialogue where
  spoken := speaks.spoken
  commands := by
    rw [commands_append, handed, same, Sink.handed_self, List.append_nil]
    exact speaks.commands
  agreements := by
    rw [agreements_append, same, Sink.agreed_self, List.append_nil]
    exact speaks.agreements
  overtaken := by
    rw [← speaks.overtaken]
    simp only [Finds, List.mem_append, List.mem_singleton, or_and_right, exists_or,
      exists_eq_left, other, false_and, or_false]
  silent := by
    intro first
    have before : CancelledFirst around past := by
      rcases first with before | ⟨made, member, own, rest⟩
      · exact .inl before
      · rcases List.mem_append.mp member with earlier | last
        · exact .inr ⟨made, earlier, own, rest⟩
        · cases List.mem_singleton.mp last
          exact (other own).elim
    obtain ⟨silent, starting⟩ := speaks.silent before
    exact ⟨silent, fun same => cancelled (starting same)⟩

theorem Move.topic (move : Move w motion w') : w'.topic = w.topic := by
  cases move <;> rfl

theorem topic_of_history
    (history : History advance (ofSession config around records gates) past w) :
    w.topic = config.topic := by
  induction history with
  | start =>
      rw [ofSession_eq]
  | next _ moved induction => exact (move_of_advance moved).topic.trans induction

theorem speaks_of_history (mode : config.mode = .subscribe)
    (history : History advance (ofSession config around records gates) past w) :
    ∃ session dialogue, w.session = some session ∧
      Speaks config.topic around past session w.shared.cancelled dialogue := by
  induction history with
  | start =>
      rw [ofSession_eq]
      refine ⟨.starting, .silent, rfl, rfl, rfl, rfl, ?_, ?_⟩
      · simp
      · rintro (before | ⟨made, member, _⟩)
        · exact ⟨rfl, fun _ => before⟩
        · cases member
  | next history moved induction =>
      obtain ⟨session, dialogue, running, speaks⟩ := induction
      have move := move_of_advance moved
      have governed := governed_of_history history
      cases move with
      | session running' moved =>
          cases running.symm.trans running'
          obtain ⟨dialogue', speaks⟩ := speaks.drive running (topic_of_history history)
            (governed.driven.trans mode) (Session.move_of_step moved)
          exact ⟨_, dialogue', rfl, speaks⟩
      | publisher | task | worker | pump | outside | signal | writer | clock =>
          have same := (move_of_advance moved).sink_of_subscriber (mode ▸ governed)
          exact ⟨session, dialogue, running, speaks.elsewhere nofun (same.resolve_left nofun)
            (move_of_advance moved).cancelled⟩

private theorem listened_of_watching (move : Move w (.part .session) w')
    (watching : w'.session = some .watching) :
    w.session = some .listening ∧ w.shared.cancelled = false := by
  cases move with
  | session running moved =>
      cases watching
      cases Session.move_of_step moved with
      | watch active => exact ⟨running, active⟩

theorem looked_of_watching
    (history : History advance (ofSession config around records gates) past w)
    (watching : w.session = some .watching) :
    ∃ earlier look later, past = earlier ++ look :: later ∧
      look.before.session = some .listening ∧ look.before.shared.cancelled = false ∧
        ∀ made ∈ later, made.label ≠ .part .session := by
  induction history with
  | start =>
      rw [ofSession_eq] at watching
      cases watching
  | @next past w w' motion _ moved induction =>
      by_cases own : motion = .part .session
      · subst own
        obtain ⟨listening, active⟩ := listened_of_watching (move_of_advance moved) watching
        exact ⟨past, _, [], rfl, listening, active, by simp⟩
      · have same := (move_of_advance moved).session_cases.resolve_left own
        obtain ⟨earlier, look, later, rfl, listening, active, apart⟩ :=
          induction (same ▸ watching)
        refine ⟨earlier, look, later ++ [⟨w, motion, w'⟩], by simp, listening, active, ?_⟩
        rw [List.forall_mem_append, List.forall_mem_singleton]
        exact ⟨apart, own⟩

theorem overtaken_iff
    (history : History advance (ofSession config around records gates) past w) :
    Overtaken past ↔ ∃ made ∈ past, Finds made := by
  constructor
  · rintro ⟨earlier, look, between, found, later, rfl, -, -, -, finds, -⟩
    exact ⟨found, by simp, finds⟩
  · rintro ⟨found, member, finds⟩
    obtain ⟨before, later, rfl⟩ := List.append_of_mem member
    have sooner := history.before_of_append
    obtain ⟨earlier, look, between, rfl, listening, active, apart⟩ :=
      looked_of_watching sooner finds.2.1
    exact ⟨earlier, look, between, found, later, by simp, listening, active, apart, finds,
      (witnessed_of_history sooner).lost finds.2.2⟩

end World

end Courier
