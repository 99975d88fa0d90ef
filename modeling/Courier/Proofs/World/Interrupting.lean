import Courier.Proofs.World.Cancelling
import Courier.Proofs.World.Receiving
import Courier.Proofs.World.Timing

/-! How soon the workers stop after a client is cancelled from outside. They take no frame any more
when the session has given up to unsubscribe, at the latest; but where the stream has ended before,
they go on until the buffer is empty, however long that takes. -/

namespace Courier

theorem Worker.Move.shutdown_of_take {gates : List Gate} {s s' : Shared} {worker worker' : Worker}
    {frame : Wire.Response} (move : Worker.Move gates s worker s' worker')
    (taken : worker'.fetched? = some frame) : s.shutdown = false := by
  cases move with
  | take wakes active => exact active
  | park | quit | stop | count | reject | number | trace | ignore | acknowledge | enter | pass | done
  | print | log | record | keep | rest | wake | leave => cases taken

namespace Session

def Timely (now : Nat) : Session → Prop
  | .unsubscribing _ deadline => now ≤ deadline ∧ deadline ≤ now + unsubscribeTimeout.ticks
  | _ => True

def Answers (start now : Nat) : Session → Prop
  | .unsubscribing _ deadline => now ≤ deadline ∧ deadline ≤ start + unsubscribeTimeout.ticks
  | .closing _ => now ≤ start + unsubscribeTimeout.ticks
  | .draining _ | .joining _ | .ended _ => True
  | _ => now = start

variable {view : View} {s s' : Shared} {session session' : Session} {start now : Nat}

theorem Move.timely (move : Move view s session s' session') : session'.Timely s.now := by
  cases move with
  | unsubscribe => exact ⟨Nat.le_add_right .., Nat.le_refl _⟩
  | publish | forgo | subscribe | withdraw | accept | refuse | watch | lose | wait | rouse | part
  | tear | abandon | interrupt | linger | halt | settle | depart | drain | stop | drained
  | joined => trivial

theorem Timely.answers (timely : session.Timely now) : session.Answers now now := by
  cases session with
  | unsubscribing => exact timely
  | closing => exact Nat.le_add_right ..
  | draining | joining | ended => trivial
  | starting | subscribing | listening | watching | waiting | publishing | halting
  | lingering => exact rfl

theorem Move.answers (move : Move view s session s' session')
    (answers : session.Answers start s.now) : session'.Answers start s.now := by
  have soon (same : s.now = start) : s.now ≤ start + unsubscribeTimeout.ticks :=
    same ▸ Nat.le_add_right ..
  cases move with
  | publish | subscribe | accept | watch | wait | rouse | linger | halt => exact answers
  | unsubscribe =>
      have same : s.now = start := answers
      exact ⟨Nat.le_add_right .., Nat.add_le_add_right (Nat.le_of_eq same) _⟩
  | forgo | withdraw | refuse | lose | interrupt | settle | depart => exact soon answers
  | part | tear | abandon => exact Nat.le_trans answers.1 answers.2
  | drain | stop | drained | joined => trivial

end Session

namespace World

variable {config : Config} {around : Surroundings} {records : Bool} {gates : List Gate}
  {past : List (Transition World Motion)} {w w' : World} {motion : Motion}
  {interrupt take : Transition World Motion}

theorem now_le_of_mem (history : History advance (ofSession config around records gates) past w)
    {made : Transition World Motion} (member : made ∈ past) :
    made.before.shared.now ≤ w.shared.now := by
  induction history with
  | start => cases member
  | next _ moved induction =>
      have later := (move_of_advance moved).now_le
      rcases List.mem_append.mp member with earlier | last
      · exact Nat.le_trans (induction earlier) later
      · rw [List.mem_singleton.mp last]
        exact later

theorem Move.timely (move : Move w motion w') (prompt : isPrompt ⟨w, motion, w'⟩ = true)
    (timely : ∀ session, w.session = some session → session.Timely w.shared.now) :
    ∀ session, w'.session = some session → session.Timely w'.shared.now := by
  intro session' driving
  cases motion with
  | part agent =>
      rw [move.now_eq_of_part]
      rcases move.session_cases with own | same
      · cases own
        cases move with
        | session running moved =>
            cases driving
            exact (Session.move_of_step moved).timely
      · exact timely session' (same ▸ driving)
  | clock now =>
      cases move with
      | clock later =>
          cases session' with
          | unsubscribing transit deadline =>
              have bound := (timely _ driving).2
              refine ⟨le_deadline_of_prompt prompt driving, ?_⟩
              exact Nat.le_trans bound (Nat.add_le_add_right later _)
          | starting | subscribing | listening | watching | waiting | publishing | halting
          | lingering | closing | draining | joining | ended => trivial

theorem timely_of_history
    (history : History advance (ofSession config around records gates) past w)
    (prompt : past.all isPrompt = true) :
    ∀ session, w.session = some session → session.Timely w.shared.now := by
  induction history with
  | start =>
      rw [ofSession_eq]
      rintro session ⟨⟩
      trivial
  | next _ moved induction =>
      rw [List.all_append, Bool.and_eq_true, List.all_cons, Bool.and_eq_true] at prompt
      exact (move_of_advance moved).timely prompt.2.1 (induction prompt.1)

/-- What holds from the time on at which a client was interrupted. -/
structure Answered (interrupt : Transition World Motion) (w : World) : Prop where
  cancelled : w.shared.cancelled = true
  answers : ∀ session, w.session = some session →
    session.Answers interrupt.before.shared.now w.shared.now
  lost : ∀ exit, w.pumpExit? = some exit → exit.isOfStream = true →
    interrupt.before.pumpExit? = some exit

private theorem Move.elsewhere_of_cancels (move : Move w motion w')
    (cancelling : cancels ⟨w, motion, w'⟩ = true) :
    w'.session = w.session ∧ w'.pump = w.pump ∧ w'.shared.now = w.shared.now := by
  cases move with
  | signal => exact ⟨rfl, rfl, rfl⟩
  | outside planned due =>
      rename_i event _
      cases event <;> exact ⟨rfl, rfl, rfl⟩
  | session | publisher | task | worker | pump | writer | clock => cases cancelling

theorem Move.answered_of_cancels (move : Move w motion w')
    (cancelling : cancels ⟨w, motion, w'⟩ = true)
    (timely : ∀ session, w.session = some session → session.Timely w.shared.now) :
    Answered ⟨w, motion, w'⟩ w' := by
  obtain ⟨driving, pumping, now⟩ := move.elsewhere_of_cancels cancelling
  refine ⟨move.cancelled_of_cancels cancelling, ?_, ?_⟩
  · intro session same
    rw [now]
    exact (timely session (driving ▸ same)).answers
  · intro exit lost _
    rwa [pumpExit?, pumping] at lost

theorem Move.answered (move : Move w motion w') (prompt : isPrompt ⟨w, motion, w'⟩ = true)
    (patient : w.isStuck = true → ∀ session, w.session = some session → session.isPatient = true)
    (answered : Answered interrupt w) : Answered interrupt w' := by
  refine ⟨move.cancelled answered.cancelled, ?_, ?_⟩
  · intro session' driving
    cases motion with
    | part agent =>
        rw [move.now_eq_of_part]
        rcases move.session_cases with own | same
        · cases own
          cases move with
          | session running moved =>
              cases driving
              exact (Session.move_of_step moved).answers (answered.answers _ running)
        · exact answered.answers session' (same ▸ driving)
    | clock now =>
        cases move with
        | clock later =>
            have stuck : w.isStuck = true := (Bool.and_eq_true_iff.mp prompt).1
            have patient := patient stuck session' driving
            cases session' with
            | unsubscribing transit deadline =>
                exact ⟨le_deadline_of_prompt prompt driving, (answered.answers _ driving).2⟩
            | draining | joining | ended => trivial
            | starting | subscribing | listening | watching | waiting | publishing | halting
            | lingering | closing => cases patient
  · intro exit lost ofStream
    rcases move.pump_cases with same | ⟨pump, pump', shared, _, after, _, moved⟩
    · rw [pumpExit?, same] at lost
      exact answered.lost exit lost ofStream
    · rw [pumpExit?, after, Option.bind_some] at lost
      cases (moved.active_of_exit lost ofStream).symm.trans answered.cancelled

theorem answered_of_history (valid : config.error? = none)
    (unplanned : ∀ planned ∈ around.outside, planned.2 ≠ .shutdown)
    (history : History advance (ofSession config around records gates) past w)
    (prompt : past.all isPrompt = true) (member : interrupt ∈ past)
    (cancelling : cancels interrupt = true) : Answered interrupt w := by
  induction history with
  | start => cases member
  | next history moved induction =>
      rw [List.all_append, Bool.and_eq_true, List.all_cons, Bool.and_eq_true] at prompt
      have move := move_of_advance moved
      rcases List.mem_append.mp member with earlier | last
      · have answered := induction prompt.1 earlier
        obtain ⟨_, pump, receives⟩ := receives_of_history valid unplanned history
        refine move.answered prompt.2.1 ?_ answered
        intro stuck session driving
        exact patient_of_stuck history stuck answered.cancelled driving receives.pumping
      · rw [List.mem_singleton.mp last] at cancelling ⊢
        exact move.answered_of_cancels cancelling (timely_of_history history prompt.1)

/-- The frame is taken in time after an interrupt, or it was in the buffer when the stream ended. -/
def InTime (interrupt take : Transition World Motion) : Prop :=
  take.before.shared.now ≤
      interrupt.before.shared.now + Session.unsubscribeTimeout.ticks ∨
    ∃ driven exit, take.before.session = some (.draining driven) ∧
      driven.exit = .ok (.streamEnded exit) ∧ interrupt.before.pumpExit? = some exit

theorem Answered.inTime {mode : Mode} {session : Session} {pump : Pump}
    {taken : Nat × Wire.Response} (answered : Answered interrupt w) (governed : w.Governed mode)
    (receives : Receives past w session pump) (move : Move w motion w')
    (took : taken? ⟨w, motion, w'⟩ = some taken) : InTime interrupt ⟨w, motion, w'⟩ := by
  have untold : w.shared.shutdown = false := by
    cases move with
    | worker running moved =>
        simp only [taken?, getElem?_set_of_getElem? running, Option.bind_some,
          Option.map_eq_some_iff] at took
        obtain ⟨frame, took, _⟩ := took
        exact (Worker.move_of_step moved).shutdown_of_take took
    | session | publisher | outside | signal | task | pump | writer | clock => cases took
  have answers := answered.answers session receives.driving
  have orderly := governed.orderly session receives.driving
  have faithful := receives.faithful
  cases session with
  | starting | subscribing | listening | watching | waiting | publishing | halting
  | lingering =>
      have same : w.shared.now = interrupt.before.shared.now := answers
      exact .inl (same ▸ Nat.le_add_right ..)
  | unsubscribing => exact .inl (Nat.le_trans answers.1 answers.2)
  | closing => exact .inl answers
  | joining => cases untold.symm.trans orderly.2.1
  | ended => cases untold.symm.trans orderly.2.2.2.1
  | draining driven =>
      obtain ⟨_, knows, streamEnded⟩ := faithful
      unfold Session.Driven.streamEnded at streamEnded
      split at streamEnded
      case h_1 exit reached =>
          obtain ⟨ended, ofStream⟩ := knows.ofStream exit reached
          have lost : w.pumpExit? = some exit := by
            rw [pumpExit?, receives.pumping, Option.bind_some, ended]
          exact .inr ⟨driven, exit, receives.driving, reached, answered.lost exit lost ofStream⟩
      case h_2 => cases streamEnded

/-- After an interrupt no worker takes a frame later than the session gives up to unsubscribe, but
for frames that are left over from a stream that ended before. -/
theorem interrupt_stops_workers (config : Config) (valid : config.error? = none)
    (around : Surroundings) (cancellations : List Nat) (records : Bool) (gates : List Gate)
    (history : History advance
      (ofSession config { around with outside := cancellations.map (·, .cancel) } records gates)
      past w)
    (prompt : past.all isPrompt = true) (interrupting : interrupt ∈ past)
    (cancelling : cancels interrupt = true) (taking : take ∈ past)
    {taken : Nat × Wire.Response} (took : taken? take = some taken) : InTime interrupt take := by
  have unplanned := unplanned_of_cancellations cancellations
  induction history with
  | start => cases taking
  | next history moved induction =>
      rw [List.all_append, Bool.and_eq_true] at prompt
      rcases List.mem_append.mp interrupting with before | last
      · rcases List.mem_append.mp taking with before' | last'
        · exact induction prompt.1 before before'
        · have answered := answered_of_history valid unplanned history prompt.1 before cancelling
          obtain ⟨session, pump, receives⟩ := receives_of_history valid unplanned history
          rw [List.mem_singleton.mp last'] at took ⊢
          exact answered.inTime (governed_of_history history) receives (move_of_advance moved) took
      · rw [List.mem_singleton.mp last]
        rcases List.mem_append.mp taking with before' | last'
        · have earlier := now_le_of_mem history before'
          exact .inl (Nat.le_trans earlier (Nat.le_add_right ..))
        · rw [List.mem_singleton.mp last']
          exact .inl (Nat.le_add_right ..)

def interruptions (past : List (Transition World Motion)) : List Nat :=
  (past.filter cancels).map (·.before.shared.now)

def takings (past : List (Transition World Motion)) : List Nat :=
  (past.filter fun made => (taken? made).isSome).map (·.before.shared.now)

private theorem exists_of_interruptions {time : Nat} (occurs : time ∈ interruptions past) :
    ∃ interrupt ∈ past, cancels interrupt = true ∧ interrupt.before.shared.now = time := by
  obtain ⟨interrupt, found, same⟩ := List.mem_map.mp occurs
  obtain ⟨member, cancelling⟩ := List.mem_filter.mp found
  exact ⟨interrupt, member, cancelling, same⟩

private theorem exists_of_takings {time : Nat} (occurs : time ∈ takings past) :
    ∃ take ∈ past, ∃ taken, taken? take = some taken ∧ take.before.shared.now = time := by
  obtain ⟨take, found, same⟩ := List.mem_map.mp occurs
  obtain ⟨member, took⟩ := List.mem_filter.mp found
  obtain ⟨taken, took⟩ := Option.isSome_iff_exists.mp took
  exact ⟨take, member, taken, took, same⟩

private def solitary : Config := { topic := "news", consumer := { bufferSize := 8, workers := 1 } }

private def reticent : Surroundings :=
  .alone
    (.start (fun _ _ => none) fun call =>
      match call.attempt with
      | 0 => .immediate
      | _ => ⟨0, none⟩)
    (.ofScript [(0, .frame ⟨2, [1]⟩), (0, .frame ⟨2, [2]⟩)] false)

private def reticentMotions : List Motion :=
  times
    [(4, .part .session), (6, .part .pump), (5, .part (.worker 0)), (1, .clock 100),
      (1, .part .outside), (1, .part .pump), (2, .part .session), (1, .clock 500),
      (5, .part (.worker 0))]

theorem interrupt_stops_workers_where_reticent :
    ∃ past w interrupt take taken, solitary.error? = none ∧
      History advance
        (ofSession solitary { reticent with outside := [100].map (·, .cancel) } false
          [.keeper "slow" true true 500]) past w ∧
      past.all isPrompt = true ∧ interrupt ∈ past ∧ cancels interrupt = true ∧
        take ∈ past ∧ taken? take = some taken ∧ interrupt.before.shared.now = 100 ∧
          take.before.shared.now = 500 ∧ InTime interrupt take := by
  have valid : solitary.error? = none := by decide
  have course :
      (replay advance
        (ofSession solitary { reticent with outside := [100].map (·, .cancel) } false
          [.keeper "slow" true true 500])
        reticentMotions).map (fun (past, _) =>
          (past.all isPrompt, interruptions past, takings past)) =
      some (true, [100], [0, 500]) := by
    decide
  obtain ⟨⟨past, w⟩, replayed, course⟩ := Option.map_eq_some_iff.mp course
  simp only [Prod.mk.injEq] at course
  obtain ⟨prompt, interrupted, taking⟩ := course
  have history := History.ofReplay replayed
  have interrupted : 100 ∈ interruptions past := by rw [interrupted]; decide
  have taking : 500 ∈ takings past := by rw [taking]; decide
  obtain ⟨interrupt, member, cancelling, time⟩ := exists_of_interruptions interrupted
  obtain ⟨take, member', taken, took, time'⟩ := exists_of_takings taking
  exact ⟨past, w, interrupt, take, taken, valid, history, prompt, member, cancelling, member', took,
    time, time',
    interrupt_stops_workers solitary valid reticent [100] false [.keeper "slow" true true 500]
      history prompt member cancelling member' took⟩

private def backlogged : Surroundings :=
  .alone .accepting
    (.ofScript [(10, .frame ⟨2, [97]⟩), (10, .frame ⟨2, [98]⟩), (20, .ended)] false)

private def backloggedMotions : List Motion :=
  times
    [(4, .part .session), (1, .part (.worker 0)), (1, .clock 10), (6, .part .pump),
      (5, .part (.worker 0)), (1, .clock 20), (1, .part .pump), (4, .part .session),
      (1, .clock 100), (1, .part .outside), (1, .clock 3010), (5, .part (.worker 0))]

/-- A frame that is left over from a stream is taken as late as the one before it allows. -/
theorem frame_taken_long_after_interrupt :
    ∃ past w interrupt take taken,
      History advance
        (ofSession solitary { backlogged with outside := [100].map (·, .cancel) } false
          [.keeper "slow" true true 3000]) past w ∧
      past.all isPrompt = true ∧ interrupt ∈ past ∧ cancels interrupt = true ∧
        take ∈ past ∧ taken? take = some taken ∧
          interrupt.before.shared.now + Session.unsubscribeTimeout.ticks <
            take.before.shared.now := by
  have course :
      (replay advance
        (ofSession solitary { backlogged with outside := [100].map (·, .cancel) } false
          [.keeper "slow" true true 3000])
        backloggedMotions).map (fun (past, _) =>
          (past.all isPrompt, interruptions past, takings past)) =
      some (true, [100], [10, 3010]) := by
    decide
  obtain ⟨⟨past, w⟩, replayed, course⟩ := Option.map_eq_some_iff.mp course
  simp only [Prod.mk.injEq] at course
  obtain ⟨prompt, interrupted, taking⟩ := course
  have interrupted : 100 ∈ interruptions past := by rw [interrupted]; decide
  have taking : 3010 ∈ takings past := by rw [taking]; decide
  obtain ⟨interrupt, member, cancelling, time⟩ := exists_of_interruptions interrupted
  obtain ⟨take, member', taken, took, time'⟩ := exists_of_takings taking
  refine ⟨past, w, interrupt, take, taken, History.ofReplay replayed, prompt, member, cancelling,
    member', took, ?_⟩
  rw [time, time']
  decide

end World

end Courier
