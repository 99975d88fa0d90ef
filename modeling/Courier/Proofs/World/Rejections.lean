import Courier.Proofs.Intake.Inlet
import Courier.Proofs.Publishing.Rejections
import Courier.Proofs.Text.Casing
import Courier.Proofs.World.Control
import Courier.Proofs.World.Receiving

/-! A node that ends a stream says why in a status. What the message tells decides alike for the pump
that takes the status, for the session that ends by it, and for a send that fails with it. -/

namespace Courier

/-- A message that tells of a rejection by policy, in whatever letters and wherever in it. -/
def TellsRejection (message : String) : Prop :=
  ∃ pattern ∈ pingLimitPatterns, Text.Names pattern.toList message.toList

theorem namesPingLimit_iff {message : String} :
    namesPingLimit message.toList = true ↔ TellsRejection message := by
  have small : ∀ pattern ∈ pingLimitPatterns, pattern.toList.map Char.toLower = pattern.toList := by
    decide
  rw [namesPingLimit, List.any_eq_true]
  exact exists_congr fun pattern => and_congr_right fun member =>
    Text.occurs_toLower_iff (small pattern member)

namespace StreamError

variable {status : Status}

theorem ofStatus_of_rejection (rejection : TellsRejection status.message) :
    ofStatus status = .pingLimit status.message :=
  if_pos (namesPingLimit_iff.mpr rejection)

theorem ofStatus_of_other (other : ¬TellsRejection status.message) :
    ofStatus status = .status status :=
  if_neg (mt namesPingLimit_iff.mp other)

theorem isPingLimit_ofStatus_iff :
    (ofStatus status).isPingLimit = true ↔ TellsRejection status.message := by
  by_cases rejection : TellsRejection status.message
  · simp [ofStatus_of_rejection rejection, rejection, isPingLimit]
  · simp [ofStatus_of_other rejection, rejection, isPingLimit]

end StreamError

theorem Pump.step_failed {s : Shared} {status : Status} {feed : Feed} {exit : Exit}
    (active : s.cancelled = false) (arrived : s.feed.next? s.now = some (.failed status, feed))
    (ends : (Arrival.failed status).exit? = some exit) :
    ∃ s', Pump.listening.step s = some (s', .ended exit) := by
  simp only [step, active, arrived, Bool.false_eq_true, if_false, fail]
  simp only [Arrival.exit?] at ends
  cases kind : StreamError.ofStatus status with
  | closed | pingLimit | status =>
      simp only [kind] at ends
      cases ends
      exact ⟨_, rfl⟩

theorem Pump.Move.exit_of_arrival {s s' : Shared} {pump pump' : Pump} {arrival : Arrival}
    {exit : Exit} (move : Pump.Move s pump s' pump') (heard : pump.arrival? s = some arrival)
    (ends : arrival.exit? = some exit) : pump'.exit? = some exit := by
  cases move with
  | cancel cancelled => simp [arrival?, cancelled] at heard
  | receive active arrived =>
      cases (arrival?_of_next active arrived).symm.trans heard
      cases ends
  | fail active arrived failed =>
      cases (arrival?_of_next active arrived).symm.trans heard
      exact (exit?_of_fail failed).symm.trans ends
  | close active arrived =>
      cases (arrival?_of_next active arrived).symm.trans heard
      exact ends
  | store | overflow | refuse | count => cases heard

namespace Session

def Exit.pump? : Exit → Option Pump.Exit
  | .streamEnded exit => some exit
  | .interrupted | .published => none

def Driven.lost? (driven : Driven) : Option Pump.Exit := driven.exit.toOption.bind Exit.pump?

def lost? : Session → Option Pump.Exit
  | .halting exit => some exit
  | .closing driven | .draining driven | .joining driven => driven.lost?
  | .ended (.ok report) => report.exit.pump?
  | _ => none

variable {view : View} {s s' : Shared} {session session' : Session} {exit reason : Pump.Exit}

private theorem eq_of_pumpStopped {publish : Option PublishReport}
    (lost : (Driven.pumpStopped exit publish).lost? = some reason) : exit = reason := by
  cases exit with
  | cancelled => cases lost
  | endOfStream | pingLimit | failed | bufferClosed => exact Option.some.inj lost

private theorem lost?_finish (s : Shared) (driven : Driven) :
    (finish s driven).lost? = driven.lost? := by
  unfold finish Driven.lost?
  cases driven.exit <;> rfl

theorem Move.lost (move : Move view s session s' session') (lost : session'.lost? = some reason) :
    session.lost? = some reason ∨ view.pumpExit = some reason := by
  cases move with
  | publish | subscribe | accept | unsubscribe | watch | wait | rouse | linger => cases lost
  | forgo | withdraw | refuse | part | tear | abandon | interrupt | depart => cases lost
  | lose ended => exact .inr (eq_of_pumpStopped lost ▸ ended)
  | halt _ ended => exact .inr (Option.some.inj lost ▸ ended)
  | settle => exact .inl (congrArg some (eq_of_pumpStopped lost))
  | drain | stop => exact .inl lost
  | drained | joined => exact .inl ((lost?_finish ..).symm.trans lost)

end Session

namespace World

variable {config : Config} {around : Surroundings} {records : Bool} {gates : List Gate}
  {past : List (Transition World Motion)} {w w' : World} {motion : Motion} {exit : Pump.Exit}

theorem Move.pump_ended (move : Move w motion w') (ended : w.pumpExit? = some exit) :
    w'.pumpExit? = some exit := by
  rcases move.pump_cases with same | ⟨pump, pump', shared, before, after, _, moved⟩
  · rw [pumpExit?, same]
    exact ended
  · rw [pumpExit?, before, Option.bind_some, moved.running] at ended
    cases ended

theorem Move.pump_arrival {arrival : Arrival} (move : Move w motion w')
    (heard : arrival? ⟨w, motion, w'⟩ = some arrival) (ends : arrival.exit? = some exit) :
    w'.pumpExit? = some exit := by
  cases move with
  | pump running moved =>
      simp only [arrival?, running, Option.bind_some] at heard
      exact (Pump.move_of_step moved).exit_of_arrival heard ends
  | session | publisher | outside | signal | task | worker | writer | clock => cases heard

/-- What ends the stream decides how its pump ends, however long ago it came. -/
theorem pumpExit?_of_arrival {start : World} {arrival : Arrival}
    (history : History advance start past w)
    (heard : ∃ made ∈ past, arrival? made = some arrival) (ends : arrival.exit? = some exit) :
    w.pumpExit? = some exit := by
  induction history with
  | start =>
      obtain ⟨_, member, _⟩ := heard
      cases member
  | next _ moved induction =>
      have move := move_of_advance moved
      obtain ⟨made, member, heard⟩ := heard
      rcases List.mem_append.mp member with earlier | last
      · exact move.pump_ended (induction ⟨made, earlier, heard⟩)
      · cases List.mem_singleton.mp last
        exact move.pump_arrival heard ends

theorem pumpExit?_of_lost (history : History advance (ofSession config around records gates) past w)
    {session : Session} (running : w.session = some session) (lost : session.lost? = some exit) :
    w.pumpExit? = some exit := by
  induction history generalizing session exit with
  | start =>
      rw [ofSession_eq] at running
      cases running
      cases lost
  | next _ advanced induction =>
      have move := move_of_advance advanced
      rcases move.session_cases with rfl | same
      · cases move with
        | session running' moved =>
            cases running
            -- It names an end that it named before, or one that it sees at its pump now.
            rcases (Session.move_of_step moved).lost lost with before | ended
            · exact induction running' before
            · exact ended
      · exact move.pump_ended (induction (same ▸ running) lost)

/-- A status on the stream ends the pump that takes it with an exit, and of a session that ends by
this end of its pump the report has such an error. -/
structure EndsStream (status : Status) (exit : Pump.Exit) (error? : Option StreamError) :
    Prop where
  pump : ∀ (s : Shared) (feed : Feed), s.cancelled = false →
    s.feed.next? s.now = some (.failed status, feed) →
      ∃ s', Pump.listening.step s = some (s', .ended exit)
  session : ∀ (config : Config) (around : Surroundings) (records : Bool) (gates : List Gate)
    (past : List (Transition World Motion)) (w : World),
      History advance (ofSession config around records gates) past w →
        (∃ made ∈ past, arrival? made = some (.failed status)) →
          w.pumpExit? = some exit ∧ ∀ report reason, w.sessionResult? = some (.ok report) →
            report.exit = .streamEnded reason → reason = exit ∧ report.error? = error?

theorem endsStream_of_exit {status : Status} {error? : Option StreamError}
    (ends : (Arrival.failed status).exit? = some exit)
    (told : ∀ report : Session.Report, report.exit = .streamEnded exit → report.error? = error?) :
    EndsStream status exit error? where
  pump := fun s feed active arrived => Pump.step_failed active arrived ends
  session := by
    intro config around records gates past w history heard
    have ended := pumpExit?_of_arrival history heard ends
    refine ⟨ended, fun report reason reported reached => ?_⟩
    have lost : (Session.ended (.ok report)).lost? = some reason := by
      rw [Session.lost?, reached, Session.Exit.pump?]
    have known := pumpExit?_of_lost history (session_of_sessionResult? reported) lost
    cases ended.symm.trans known
    exact ⟨rfl, told report reached⟩

/-- A message alone decides, whatever the code: by a rejection the stream ends as it is expected to,
and nothing is sent again; any other status is an error as it stands, and sends are tried again. -/
theorem rejections_told_alike (status : Status) :
    ((StreamError.ofStatus status).isPingLimit = true ↔ TellsRejection status.message) ∧
      (TellsRejection status.message →
        StreamError.ofStatus status = .pingLimit status.message ∧
          EndsStream status (.pingLimit status.message) none ∧
            (StreamError.ofStatus status).EndsSend) ∧
      (¬TellsRejection status.message →
        StreamError.ofStatus status = .status status ∧
          EndsStream status (.failed (.status status)) (some (.status status)) ∧
            (StreamError.ofStatus status).LetsRetry) := by
  refine ⟨StreamError.isPingLimit_ofStatus_iff, ?_, ?_⟩
  · intro rejection
    have kind := StreamError.ofStatus_of_rejection rejection
    refine ⟨kind, endsStream_of_exit ?_ ?_, StreamError.endsSend_of_final ?_⟩
    · rw [Arrival.exit?, kind]
    · intro report reached
      rw [Session.Report.error?, reached]
    · rw [kind]
      rfl
  · intro other
    have kind := StreamError.ofStatus_of_other other
    refine ⟨kind, endsStream_of_exit ?_ ?_, StreamError.letsRetry_of_retriable ?_⟩
    · rw [Arrival.exit?, kind]
    · intro report reached
      rw [Session.Report.error?, reached]
    · rw [kind]
      rfl

private def shouted : Status := ⟨.internal, "stream reset: Enhance_Your_CALM!"⟩

private def mild : Config := { topic := "news", consumer := { workers := 1 } }

private def shouting : Surroundings :=
  .alone (.start (fun _ _ => none) fun call =>
      ⟨0, some (match call.command with
        | .publish .. => .failed (.ofStatus shouted)
        | _ => .accepted)⟩)
    (.ofScript [(0, .failed shouted)] false)

private def shoutingMotions : List Motion :=
  times
    [(2, .part .session), (1, .part .pump), (3, .part .session), (1, .part (.worker 0)),
      (1, .part .session)]

theorem rejections_told_alike_where_shouted :
    TellsRejection shouted.message ∧
      (∃ past w report, History advance (ofSession mild shouting false []) past w ∧
        w.sessionResult? = some (.ok report) ∧
          report.exit = .streamEnded (.pingLimit shouted.message) ∧ report.error? = none) ∧
      ∃ past e, History Errand.step (.start (.start mild shouting) "news" [1] 0) past e ∧
        e.sending.stage = .ended .dropped ∧ (Errand.attempts past).length = 1 ∧
          Errand.growth (·.stats.retried) past = 0 := by
  obtain ⟨told, rejected, -⟩ := rejections_told_alike shouted
  have rejection := told.mp (by decide)
  obtain ⟨-, stream, send⟩ := rejected rejection
  refine ⟨rejection, ?_, ?_⟩
  · have course :
        (replay advance (ofSession mild shouting false []) shoutingMotions).map (fun (past, w) =>
          ((w.sessionResult?.bind Except.toOption).map (·.exit),
            (past.filterMap arrival?).contains (.failed shouted))) =
        some (some (.streamEnded (.pingLimit shouted.message)), true) := by
      decide
    obtain ⟨⟨past, w⟩, replayed, course⟩ := Option.map_eq_some_iff.mp course
    simp only [Prod.mk.injEq, Option.map_eq_some_iff, Option.bind_eq_some_iff,
      List.contains_iff_mem, List.mem_filterMap] at course
    obtain ⟨⟨report, ⟨result, ended, succeeded⟩, reached⟩, heard⟩ := course
    have history := History.ofReplay replayed
    cases result with
    | error error => cases succeeded
    | ok report' =>
        cases succeeded
        have known := (stream.session _ _ _ _ past w history heard).2 report _ ended reached
        exact ⟨past, w, report, history, ended, reached, known.2⟩
  · have course :
        (replay Errand.step (.start (.start mild shouting) "news" [1] 0)
          (List.replicate 6 .advance)).map (fun (past, _) =>
            match past.drop 3 with
            | made :: later => (Errand.failure? made, Errand.own later,
                (Errand.attempts (past.take 3 ++ [made])).length)
            | [] => (none, 0, 0)) =
        some (some (.ofStatus shouted), 2, 1) := by
      decide
    obtain ⟨⟨past, e⟩, replayed, course⟩ := Option.map_eq_some_iff.mp course
    have history := History.ofReplay replayed
    cases rest : past.drop 3 with
    | nil => simp [rest] at course
    | cons made later =>
        simp only [rest, Prod.mk.injEq] at course
        obtain ⟨heard, late, number⟩ := course
        have whole : past.take 3 ++ made :: later = past := rest ▸ past.take_append_drop 3
        have failure : Errand.Failure _ _ (past.take 3) made later e :=
          ⟨⟨_, _, _, whole.symm ▸ history⟩, heard⟩
        have gives := send _ _ _ _ _ failure
        obtain ⟨ended, calls, retried, -⟩ := gives.dropped (Nat.le_of_eq late.symm)
        rw [whole] at calls retried
        rw [number] at calls retried
        exact ⟨past, e, history, ended, calls, retried⟩

end World

end Courier
