import Courier.Proofs.World.Parting

/-! The whole conversation of a session with its node about a subscription. -/

namespace Courier.World

/-- In the step `made`, after the steps `earlier`, the unsubscription was handed over. -/
def PartsAfter (topic : String) (past earlier : List (Transition World Motion))
    (made : Transition World Motion) : Prop :=
  .unsubscribe topic ∈ handed made ∧ ∃ later, past = earlier ++ made :: later

/-- Two sessions that unsubscribed in the same state have ended in the same way. Their counters
differ only by the frames that were handled in the meantime. -/
structure EndedAlike (since : World) (report report' : Session.Report) : Prop where
  exit : report'.exit = report.exit
  publish : report'.publish = report.publish
  sending : report'.stats.sending = report.stats.sending
  /-- The pump takes nothing more, and counts only what it has in its hands. -/
  unhandled : since.inHand = 0 → report'.stats.unhandled = report.stats.unhandled
  counts : since.shared.stats.CountsFrames since.inHand report.stats
  counts' : since.shared.stats.CountsFrames since.inHand report'.stats

structure Conversation (config : Config) (around : Surroundings) (records : Bool)
    (gates : List Gate) (past : List (Transition World Motion)) (w : World) : Prop where
  order : commands past <+: [.subscribe config.topic, .unsubscribe config.topic]
  silent : CancelledFirst around past → commands past = []
  /-- At its end it has unsubscribed if it had subscribed and was interrupted, and only then, unless
  the pump had stopped for the interrupt before the session saw it. -/
  parted : ∀ result, w.sessionResult? = some result →
    (.unsubscribe config.topic ∈ commands past ↔
      .subscribe config.topic ∈ agreements past ∧ result.map (·.exit) = .ok .interrupted ∧
        ¬Overtaken past)
  overtaken : Overtaken past → commands past = [.subscribe config.topic] ∧
    ∀ result, w.sessionResult? = some result → result.map (·.exit) = .ok .interrupted
  once : .unsubscribe config.topic ∈ commands past →
    commands past = [.subscribe config.topic, .unsubscribe config.topic]
  streamEnded : ∀ report exit, w.sessionResult? = some (.ok report) →
    report.exit = .streamEnded exit → commands past = [.subscribe config.topic]
  failed : ∀ error, w.sessionResult? = some (.error error) →
    commands past = [.subscribe config.topic]
  /-- A session does not wait for the answer to its unsubscription any longer than that. -/
  limited : ∀ earlier made, PartsAfter config.topic past earlier made →
    made.before.shared.now + Session.unsubscribeTimeout.ticks ≤ w.shared.now →
    ∀ transit deadline, w.session = some (.unsubscribing transit deadline) →
      ∃ w', w.advance (.part .session) = some w' ∧
        w'.session = some (.closing (.interrupted none))
  /-- How the node answers the unsubscription makes no difference. -/
  indifferent : ∀ outcome : Call → Outcome,
    (∀ call, call.command ≠ .unsubscribe config.topic →
      outcome call = around.sink.outcome call) →
    ∀ past' w', History advance (ofSession config (around.answering outcome) records gates)
      past' w' →
    ∀ earlier made earlier' made', PartsAfter config.topic past earlier made →
      PartsAfter config.topic past' earlier' made' →
      earlier'.map (·.label) = earlier.map (·.label) →
    ∀ result result', w.sessionResult? = some result → w'.sessionResult? = some result' →
      ∃ report report', result = .ok report ∧ result' = .ok report' ∧
        EndedAlike made.before report report'

variable {config : Config} {around : Surroundings} {records : Bool} {gates : List Gate}
  {past past' earlier earlier' : List (Transition World Motion)} {w w' : World}
  {made made' : Transition World Motion} {outcome : Call → Outcome}

theorem parting_of_partsAfter (mode : config.mode = .subscribe)
    (history : History advance (ofSession config around records gates) past w)
    (parts : PartsAfter config.topic past earlier made) : Parting made.before w := by
  obtain ⟨handed, later, course⟩ := parts
  exact parting_of_history mode history course handed

theorem PartsAfter.first (parts : PartsAfter config.topic past earlier made)
    (order : commands past <+: [.subscribe config.topic, .unsubscribe config.topic]) :
    ∀ made ∈ earlier, .unsubscribe config.topic ∉ handed made := by
  obtain ⟨handed, later, rfl⟩ := parts
  intro before member again
  have often : 2 ≤ (commands (earlier ++ made :: later)).count (.unsubscribe config.topic) := by
    have once := List.one_le_count_iff.mpr handed
    have twice : 1 ≤ (commands earlier).count (.unsubscribe config.topic) :=
      List.one_le_count_iff.mpr (List.mem_flatMap.mpr ⟨before, member, again⟩)
    simp only [commands, List.flatMap_append, List.flatMap_cons, List.count_append] at twice ⊢
    omega
  have few := order.sublist.count_le (.unsubscribe config.topic)
  simp at few
  omega

theorem endedAlike_of_parting {since : World} (parting : Parting since w)
    (parting' : Parting (since.answering outcome) w')
    {result result' : Except StreamError Session.Report}
    (ended : w.sessionResult? = some result) (ended' : w'.sessionResult? = some result') :
    ∃ report report', result = .ok report ∧ result' = .ok report' ∧
      EndedAlike since report report' := by
  obtain ⟨session, running, leaving⟩ := parting.leaving
  obtain ⟨session', running', leaving'⟩ := parting'.leaving
  cases running.symm.trans (session_of_sessionResult? ended)
  cases running'.symm.trans (session_of_sessionResult? ended')
  obtain ⟨stats, rfl, counts⟩ := leaving
  obtain ⟨stats', rfl, counts'⟩ := leaving'
  refine ⟨_, _, rfl, rfl, rfl, rfl, ?_, ?_, counts, counts'⟩
  · exact counts'.sending.trans counts.sending.symm
  · intro none
    rw [none] at counts
    have counts' : since.shared.stats.CountsFrames since.inHand stats' := counts'
    rw [none] at counts'
    exact counts'.unhandled.trans counts.unhandled.symm

theorem limited_of_parting {since : World} (parting : Parting since w)
    (late : since.shared.now + Session.unsubscribeTimeout.ticks ≤ w.shared.now)
    {transit : Transit} {deadline : Nat}
    (waits : w.session = some (.unsubscribing transit deadline)) :
    ∃ w', w.advance (.part .session) = some w' ∧
      w'.session = some (.closing (.interrupted none)) := by
  obtain ⟨session, running, leaving⟩ := parting.leaving
  cases running.symm.trans waits
  have due : deadline ≤ w.shared.now := leaving ▸ late
  simp only [advance, step, stepSession, waits, Session.step]
  cases transit.reply? w.shared.now with
  | some reply => exact ⟨_, rfl, rfl⟩
  | none =>
      simp only [if_pos due]
      exact ⟨_, rfl, rfl⟩

theorem conversation_of_history (mode : config.mode = .subscribe)
    (history : History advance (ofSession config around records gates) past w) :
    Conversation config around records gates past w := by
  obtain ⟨session, dialogue, running, speaks⟩ := speaks_of_history mode history
  have order : commands past <+: [.subscribe config.topic, .unsubscribe config.topic] :=
    speaks.commands ▸ dialogue.commands_isPrefix config.topic
  have concludes {result : Except StreamError Session.Report}
      (ended : w.sessionResult? = some result) :
      Session.Concludes (result.map (·.exit)) dialogue := by
    cases running.symm.trans (session_of_sessionResult? ended)
    exact speaks.spoken
  have overtaken : Overtaken past ↔ dialogue = .overtaken :=
    (overtaken_iff history).trans speaks.overtaken
  refine ⟨order, ?_, ?_, ?_, ?_, ?_, ?_, ?_, ?_⟩
  · intro first
    rw [speaks.commands, (speaks.silent first).1]
    rfl
  · intro result ended
    rw [speaks.commands, speaks.agreements, Dialogue.unsubscribe_mem_commands,
      Dialogue.subscribe_mem_agreements, overtaken]
    exact (concludes ended).parted_iff
  · intro late
    cases overtaken.mp late
    refine ⟨speaks.commands, fun result ended => ?_⟩
    exact (concludes ended).interrupted_of_overtaken
  · intro parts
    rw [speaks.commands, Dialogue.unsubscribe_mem_commands] at parts
    rw [speaks.commands]
    rcases parts with rfl | rfl <;> rfl
  · intro report exit ended reached
    have concludes := concludes ended
    simp only [Except.map, reached] at concludes
    rw [speaks.commands, show dialogue = .subscribed from concludes]
    rfl
  · intro error ended
    rw [speaks.commands, show dialogue = .asked from concludes ended]
    rfl
  · intro earlier made parts late transit deadline waits
    exact limited_of_parting (parting_of_partsAfter mode history parts) late waits
  · intro outcome same past' w' history' earlier made earlier' made' parts parts' labels result
      result' ended ended'
    have stays := parts.first order
    obtain ⟨_, later, rfl⟩ := id parts
    obtain ⟨_, later', rfl⟩ := id parts'
    have before : made'.before = made.before.answering outcome :=
      answering_of_history mode same history.before_of_append history'.before_of_append labels
        stays
    have parting' := parting_of_partsAfter mode history' parts'
    rw [before] at parting'
    exact endedAlike_of_parting (parting_of_partsAfter mode history parts) parting' ended ended'

/-- A session that subscribes hands over its subscription and, if it sees that it is interrupted after
that was accepted, the end of it, and a session that publishes hands over messages only. -/
theorem subscription_begun_and_ended (config : Config) (around : Surroundings) (records : Bool)
    (gates : List Gate)
    (history : History advance (ofSession config around records gates) past w) :
    (config.mode = .subscribe → Conversation config around records gates past w) ∧
      (config.mode = .publish → ∀ command ∈ commands past, command.isPublish = true) := by
  constructor
  · intro mode
    exact conversation_of_history mode history
  · intro mode
    exact commands_of_publishes (.inSession mode records gates) history

private def newsreader : Config := { topic := "news", consumer := { workers := 1 } }

private def welcoming : Surroundings :=
  { Surroundings.alone .accepting (.ofScript [(0, .frame ⟨2, [1]⟩)] false) with
    outside := [(5, .cancel)] }

private def unanswered (call : Call) : Outcome :=
  if call.command = .unsubscribe "news" then ⟨0, none⟩ else .immediate

private def untilParting : List Motion :=
  times
    [(2, .part .session), (3, .part .pump), (1, .clock 5), (1, .part .outside), (1, .part .pump)]

private def atOnce : List Motion :=
  untilParting ++ times [(3, .part .session), (1, .part (.worker 0)), (1, .part .session)]

private def afterDeadline : List Motion :=
  untilParting ++
    times
      [(1, .part .session), (5, .part (.worker 0)), (1, .clock 1005), (3, .part .session)]

private theorem partsAfter_of_handed {topic : String} {place : Nat}
    (parts : past[place]?.map handed = some [.unsubscribe topic]) :
    ∃ made, PartsAfter topic past (past.take place) made := by
  obtain ⟨made, present, same⟩ := Option.map_eq_some_iff.mp parts
  obtain ⟨bound, rfl⟩ := List.getElem?_eq_some_iff.mp present
  refine ⟨_, same ▸ List.mem_singleton_self _, past.drop (place + 1), ?_⟩
  rw [← List.drop_eq_getElem_cons bound, List.take_append_drop]

private theorem ended_of_replay {start : World} {motions : List Motion} {processed : Nat}
    (course :
      (replay advance start motions).map (fun run =>
        ((run.1.take 8).map (·.label), run.1[8]?.map handed,
          (run.2.sessionResult?.bind Except.toOption).map (·.stats.processed))) =
      some (untilParting, some [.unsubscribe "news"], some processed)) :
    ∃ past w report made, History advance start past w ∧
      w.sessionResult? = some (.ok report) ∧ report.stats.processed = processed ∧
        PartsAfter "news" past (past.take 8) made ∧
          (past.take 8).map (·.label) = untilParting := by
  obtain ⟨⟨past, w⟩, replayed, course⟩ := Option.map_eq_some_iff.mp course
  simp only [Prod.mk.injEq, Option.map_eq_some_iff, Option.bind_eq_some_iff] at course
  obtain ⟨labels, handed, report, ⟨result, ended, succeeded⟩, processed⟩ := course
  obtain ⟨made, parts⟩ := partsAfter_of_handed (Option.map_eq_some_iff.mpr handed)
  cases result with
  | error error => cases succeeded
  | ok report' =>
      cases succeeded
      exact ⟨past, w, report, made, .ofReplay replayed, ended, processed, parts, labels⟩

theorem subscription_begun_and_ended_where_mute :
    ∃ past w report past' w' report' since,
      History advance (ofSession newsreader welcoming false []) past w ∧
        History advance (ofSession newsreader (welcoming.answering unanswered) false []) past' w' ∧
          w.sessionResult? = some (.ok report) ∧ w'.sessionResult? = some (.ok report') ∧
            report.stats.processed = 0 ∧ report'.stats.processed = 1 ∧
              commands past = [.subscribe "news", .unsubscribe "news"] ∧
                EndedAlike since report report' := by
  have quick : ∃ past w report made,
      History advance (ofSession newsreader welcoming false []) past w ∧
        w.sessionResult? = some (.ok report) ∧ report.stats.processed = 0 ∧
          PartsAfter "news" past (past.take 8) made ∧
            (past.take 8).map (·.label) = untilParting :=
    ended_of_replay (by decide : (replay advance _ atOnce).map _ = _)
  have slow : ∃ past w report made,
      History advance (ofSession newsreader (welcoming.answering unanswered) false []) past w ∧
        w.sessionResult? = some (.ok report) ∧ report.stats.processed = 1 ∧
          PartsAfter "news" past (past.take 8) made ∧
            (past.take 8).map (·.label) = untilParting :=
    ended_of_replay (by decide : (replay advance _ afterDeadline).map _ = _)
  obtain ⟨past, w, report, made, history, ended, processed, parts, labels⟩ := quick
  obtain ⟨past', w', report', made', history', ended', processed', parts', labels'⟩ := slow
  have conversation :=
    (subscription_begun_and_ended newsreader welcoming false [] history).1 rfl
  have otherwise : ∀ call, call.command ≠ .unsubscribe newsreader.topic →
      unanswered call = welcoming.sink.outcome call := by
    intro call other
    exact if_neg other
  obtain ⟨_, _, same, same', alike⟩ := conversation.indifferent unanswered otherwise past' w'
    history' _ made _ made' parts parts' (labels'.trans labels.symm) _ _ ended ended'
  cases same
  cases same'
  obtain ⟨handed, later, course⟩ := id parts
  have handedOver : .unsubscribe "news" ∈ commands past :=
    List.mem_flatMap.mpr ⟨made, course ▸ List.mem_append_right _ List.mem_cons_self, handed⟩
  exact ⟨past, w, report, past', w', report', made.before, history, history', ended, ended',
    processed, processed', conversation.once handedOver, alike⟩

private def fading : Surroundings :=
  { Surroundings.alone .accepting (.ofScript [(5, .ended)] false) with outside := [(5, .cancel)] }

/-- The client is interrupted, and the pump stops for that, between two looks of the session. -/
private def betweenLooks : List Motion :=
  times
    [(3, .part .session), (1, .clock 5), (1, .part .outside), (1, .part .pump),
      (2, .part .session), (1, .part (.worker 0)), (1, .part .session)]

private def afterEnd : List Motion :=
  times
    [(4, .part .session), (1, .clock 5), (1, .part .pump), (1, .part .outside),
      (2, .part .session)]

/-- A session that had subscribed and was interrupted may not unsubscribe, and one whose stream has
ended by itself may. -/
theorem unsubscription_missing_or_late :
    (∃ past w report, History advance (ofSession newsreader welcoming false []) past w ∧
      w.sessionResult? = some (.ok report) ∧ report.exit = .interrupted ∧
        agreements past = [.subscribe "news"] ∧ commands past = [.subscribe "news"]) ∧
      ∃ past w made, History advance (ofSession newsreader fading false []) past w ∧
        made ∈ past ∧ made.before.pumpExit? = some .endOfStream ∧
          .unsubscribe "news" ∈ handed made := by
  constructor
  · have course : (replay advance (ofSession newsreader welcoming false []) betweenLooks).map
        (fun (past, w) => ((w.sessionResult?.bind Except.toOption).map (·.exit),
          agreements past, commands past)) =
        some (some .interrupted, [.subscribe "news"], [.subscribe "news"]) := by
      decide
    obtain ⟨⟨past, w⟩, replayed, course⟩ := Option.map_eq_some_iff.mp course
    simp only [Prod.mk.injEq, Option.map_eq_some_iff, Option.bind_eq_some_iff] at course
    obtain ⟨⟨report, ⟨result, ended, succeeded⟩, interrupted⟩, agreed, handed⟩ := course
    cases result with
    | error error => cases succeeded
    | ok report' =>
        cases succeeded
        exact ⟨past, w, report, .ofReplay replayed, ended, interrupted, agreed, handed⟩
  · have course : (replay advance (ofSession newsreader fading false []) afterEnd).map
        (fun (past, _) => past[8]?.map fun made => (made.before.pumpExit?, handed made)) =
        some (some (some .endOfStream, [.unsubscribe "news"])) := by
      decide
    obtain ⟨⟨past, w⟩, replayed, course⟩ := Option.map_eq_some_iff.mp course
    obtain ⟨made, present, course⟩ := Option.map_eq_some_iff.mp course
    simp only [Prod.mk.injEq] at course
    exact ⟨past, w, made, .ofReplay replayed, List.mem_of_getElem? present, course.1,
      course.2 ▸ List.mem_singleton_self _⟩

end Courier.World
