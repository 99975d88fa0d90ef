import Courier.Proofs.World.Receiving

/-! What became of the frames of a session by the time of its report. -/

namespace Courier.World

variable {past : List (Transition World Motion)} {w : World}

structure Handover (past : List (Transition World Motion)) (report : Session.Report) : Prop where
  arrived : (stored past).Sublist (framesOf (arrivals past))
  enqueued : report.stats.enqueued = (stored past).length
  frames : report.stats.frames = report.stats.enqueued + report.stats.bufferDropped
  taken : (taken past).map (·.2) = (stored past).take report.stats.processed
  processed : (World.taken past).length = report.stats.processed
  /-- Those that left it are handled, each once. -/
  handled : ((told past).map (·.2)).Perm ((stored past).take report.stats.processed)
  /-- A worker handles what it took, in the order in which it took it. -/
  byWorker : ∀ worker, byWorker worker (told past) = byWorker worker (World.taken past)
  classified : report.stats.processed = report.stats.received + report.stats.traces +
    report.stats.unknown + report.stats.decodeErrors
  /-- After the end of the stream nothing is left in the buffer. -/
  drained : ∀ exit, report.exit = .streamEnded exit →
    report.stats.processed = (stored past).length ∧
      report.stats.frames = (framesOf (arrivals past)).length ∧
        ∃ ending, ending.frame? = none ∧
          arrivals past = (framesOf (arrivals past)).map .frame ++ [ending]

/-- Whatever the configuration, whatever arrives, whenever the session is cancelled and in whatever
order its parts move, by the time of its report no frame is lost and none is handled twice. -/
theorem frames_neither_lost_nor_duplicated (config : Config) (valid : config.error? = none)
    (around : Surroundings) (cancellations : List Nat) (records : Bool) (gates : List Gate)
    (history : History advance
      (ofSession config { around with outside := cancellations.map (·, .cancel) } records gates)
      past w)
    {report : Session.Report} (reported : w.sessionResult? = some (.ok report)) :
    Handover past report := by
  have unplanned : ∀ planned ∈ cancellations.map (·, Outside.cancel), planned.2 ≠ .shutdown := by
    intro planned member
    obtain ⟨time, _, rfl⟩ := List.mem_map.mp member
    exact nofun
  obtain ⟨session, pump, receives⟩ := receives_of_history valid unplanned history
  have ended : session = .ended (.ok report) := by
    simp only [sessionResult?, receives.driving, Option.bind_some] at reported
    unfold Session.result? at reported
    split at reported
    · exact congrArg Session.ended (Option.some.inj reported)
    · cases reported
  subst ended
  have final : report.Final w.shared.intake pump.exit? w.workers := receives.faithful
  have tally : report.stats.tally = w.shared.stats.tally := final.tally
  have pumped := receives.pumped
  rw [← tally] at pumped
  obtain ⟨processed, classified, handled⟩ := receives.handled.settled final.stopped
  rw [← final.tally] at processed classified
  have order := receives.handled.order
  have length : ((taken past).map (·.2)).length = report.stats.processed := by
    rw [List.length_map]
    exact processed
  have prefixed : (taken past).map (·.2) = (stored past).take report.stats.processed := by
    rw [order, List.take_left' length]
  refine ⟨?_, pumped.enqueued_of_ended final.exited, pumped.frames, prefixed, processed, ?_, ?_,
    classified, ?_⟩
  · exact (List.sublist_append_left ..).trans pumped.kept
  · rw [← prefixed]
    exact ((perm_of_byWorker handled).symm).map _
  · intro worker
    exact (handled worker).symm
  · intro exit reached
    obtain ⟨ended, ofStream, empty⟩ := final.drained exit reached
    rw [empty, List.append_nil] at order
    exact ⟨order ▸ length.symm, pumped.arrived_of_ofStream ended ofStream⟩

private def narrow : Config :=
  { topic := "news", consumer := { bufferSize := 1, workers := 2 } }

/-- Three frames, of which the second finds the buffer full, and then the end of the stream. -/
private def crowded : Surroundings :=
  .alone .accepting
    (.ofScript
      [(0, .frame ⟨2, [1]⟩), (0, .frame ⟨9, []⟩), (0, .frame ⟨9, [2]⟩), (0, .ended)] false)

private def crowdedMotions : List Motion :=
  times
    [(2, .part .session), (5, .part .pump), (1, .part (.worker 0)), (1, .part (.worker 1)),
      (4, .part .pump), (4, .part (.worker 1)), (4, .part (.worker 0)), (4, .part .session)]

theorem frames_neither_lost_nor_duplicated_where_crowded :
    ∃ past w report, narrow.error? = none ∧
      History advance
        (ofSession narrow { crowded with outside := [100].map (·, .cancel) } false []) past w ∧
      w.sessionResult? = some (.ok report) ∧ report.exit = .streamEnded .endOfStream ∧
        (stored past).length = 2 ∧ report.stats.bufferDropped = 1 ∧
          report.stats.processed = 2 ∧ report.stats.frames = 2 + 1 := by
  have valid : narrow.error? = none := by decide
  have counts :
      (replay advance (ofSession narrow { crowded with outside := [100].map (·, .cancel) } false [])
        crowdedMotions).map (fun (past, w) =>
          ((w.sessionResult?.bind Except.toOption).map fun report =>
            (report.exit, report.stats.bufferDropped), (stored past).length)) =
      some (some (.streamEnded .endOfStream, 1), 2) := by
    decide
  obtain ⟨⟨past, w⟩, replayed, counts⟩ := Option.map_eq_some_iff.mp counts
  simp only [Prod.mk.injEq, Option.map_eq_some_iff, Option.bind_eq_some_iff] at counts
  obtain ⟨⟨report, ⟨result, ended, succeeded⟩, exit, dropped⟩, length⟩ := counts
  have history := History.ofReplay replayed
  cases result with
  | error error => cases succeeded
  | ok report' =>
      cases succeeded
      have handover := frames_neither_lost_nor_duplicated narrow valid crowded [100] false []
        history ended
      have processed := (handover.drained _ exit).1
      refine ⟨past, w, report, valid, history, ended, exit, length, dropped, ?_, ?_⟩
      · exact processed.trans length
      · rw [handover.frames, handover.enqueued, length, dropped]

end Courier.World
