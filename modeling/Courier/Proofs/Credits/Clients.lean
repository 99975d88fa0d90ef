import Courier.Proofs.Credits.Starvation
import Courier.Proofs.World.Frames

/-! Credits in a running client. What a client does to its pool is done by its sends and by the
workers that receive messages, so every history of a client is one of sends and consumers, and what
is proved of these holds of it. -/

namespace Courier

namespace SendTask

def Mirrors (task : SendTask) (m : Sending) : Prop :=
  match task.stage with
  | .sending m' => m' = m
  | .lowering _ | .returning _ | .recording _ | .ended .. => m.holdsCredit = false
  | .delayed _ | .acquiring _ => False

variable {s s' : Shared} {task task' : SendTask} {m : Sending}

theorem Move.mirrors (move : Move s task s' task') (mirrors : task.Mirrors m) :
    (∃ m', m.step s = some (s', m') ∧ task'.Mirrors m') ∨
      (s'.funds = s.funds ∧ task'.Mirrors m) := by
  cases move with
  | begin stage | enter stage | leave stage | wait stage =>
      simp only [Mirrors, stage] at mirrors
  | send stage moved =>
      simp only [Mirrors, stage] at mirrors
      subst mirrors
      exact .inl ⟨_, moved, rfl⟩
  | conclude stage ended =>
      simp only [Mirrors, stage] at mirrors
      subst mirrors
      refine .inr ⟨rfl, ?_⟩
      simp only [Mirrors, goto, Sending.holdsCredit, ended]
  | lower stage =>
      simp only [Mirrors, stage] at mirrors
      exact .inr ⟨rfl, mirrors⟩
  | finish stage finished =>
      simp only [Mirrors, stage] at mirrors
      refine .inr ⟨(spared_of_finish finished).funds, ?_⟩
      unfold SendTask.finish at finished
      split at finished <;> cases finished <;> exact mirrors
  | record stage recorded =>
      simp only [Mirrors, stage] at mirrors
      exact .inr ⟨(Shared.spared_recordLine recorded).funds, mirrors⟩

end SendTask

theorem Publisher.Move.eq_of_started {p : Publication} {s s' : Shared} {tasks : List SendTask}
    {publisher publisher' : Publisher} {task : SendTask}
    (move : Publisher.Move p s tasks publisher s' publisher' (some task)) :
    s' = s ∧ ∃ topic payload index, task.Mirrors (.start topic payload index s.now) := by
  cases move with
  | throttled stage moved =>
      cases Throttled.move_of_step moved with
      | launch stage => exact ⟨rfl, _, _, _, rfl⟩

namespace World

/-- The sends of a client, as sends beside each other. -/
structure Mirrors (w : World) (t : Traffic) : Prop where
  shared : t.shared = w.shared
  sends : Alongside SendTask.Mirrors w.tasks t.sends

variable {config : Config} {around : Surroundings} {start w w' : World} {motion : Motion}
  {t : Traffic} {acts : List (Transition Traffic Traffic.Act)}

private theorem Mirrors.elsewhere
    (history : History Traffic.step (.start config around) acts t) (mirrors : w.Mirrors t)
    (funds : w'.shared.funds = w.shared.funds)
    (sends : Alongside SendTask.Mirrors w'.tasks t.sends) :
    ∃ acts t', History Traffic.step (.start config around) acts t' ∧ w'.Mirrors t' := by
  have moved : t.step (.elsewhere w'.shared) = some { t with shared := w'.shared } := by
    rw [← mirrors.shared] at funds
    have credits : w'.shared.credits = t.shared.credits := congrArg Funds.credits funds
    have flow : w'.shared.flow = t.shared.flow := congrArg Funds.flow funds
    simp only [Traffic.step, credits, flow, and_self, if_true]
  exact ⟨_, _, history.next moved, rfl, sends⟩

private theorem Mirrors.grant (history : History Traffic.step (.start config around) acts t)
    (mirrors : w.Mirrors t) {amount : Nat} (shared : w'.shared = w.shared.addCredits amount)
    (tasks : w'.tasks = w.tasks) :
    ∃ acts t', History Traffic.step (.start config around) acts t' ∧ w'.Mirrors t' := by
  have moved : t.step (.grant amount) = some { t with shared := t.shared.addCredits amount } := rfl
  refine ⟨_, _, history.next moved, ?_, tasks ▸ mirrors.sends⟩
  rw [shared, mirrors.shared]

theorem Move.mirrors (move : Move w motion w')
    (history : History Traffic.step (.start config around) acts t) (mirrors : w.Mirrors t) :
    ∃ acts t', History Traffic.step (.start config around) acts t' ∧ w'.Mirrors t' := by
  cases move with
  | session running moved =>
      exact mirrors.elsewhere history (Session.move_of_step moved).funds mirrors.sends
  | pump running moved =>
      exact mirrors.elsewhere history (Pump.move_of_step moved).funds mirrors.sends
  | signal | writer | clock => exact mirrors.elsewhere history rfl mirrors.sends
  | outside planned due =>
      rename_i event later
      cases event with
      | cancel | shutdown => exact mirrors.elsewhere history rfl mirrors.sends
      | addCredits amount => exact mirrors.grant history rfl rfl
  | worker running moved =>
      rcases (Worker.move_of_step moved).funds with funds | ⟨log, same⟩
      · exact mirrors.elsewhere history funds mirrors.sends
      · have noted : t.step (.elsewhere { w.shared with log }) =
            some { t with shared := { w.shared with log } } := by
          simp only [Traffic.step, mirrors.shared, and_self, if_true]
        have mirrors : ({ w with shared := { w.shared with log } } : World).Mirrors
            { t with shared := { w.shared with log } } := ⟨rfl, mirrors.sends⟩
        exact mirrors.grant (history.next noted) same rfl
  | publisher running moved =>
      rename_i publisher publisher' shared started
      have move := Publisher.move_of_step moved
      cases started with
      | none =>
          refine mirrors.elsewhere history move.spared.funds ?_
          rw [Option.toList_none, List.append_nil]
          exact mirrors.sends
      | some task =>
          obtain ⟨same, topic, payload, index, begun⟩ := move.eq_of_started
          cases same
          rw [← mirrors.shared] at begun
          have called : t.step (.call topic payload index) = some _ := rfl
          exact ⟨_, _, history.next called, mirrors.shared, mirrors.sends.append begun⟩
  | task running moved =>
      rename_i place task task' shared
      obtain ⟨m, present, related⟩ := mirrors.sends.exists_other running
      have move := SendTask.move_of_step moved
      rcases move.mirrors related with ⟨m', moved, after⟩ | ⟨funds, after⟩
      · have advanced : t.step (.advance place) = some ⟨shared, t.sends.set place m'⟩ := by
          simp only [Traffic.step, present, mirrors.shared, moved, Option.map_some]
        exact ⟨_, _, history.next advanced, rfl, mirrors.sends.set after⟩
      · exact mirrors.elsewhere history funds (mirrors.sends.set_left present after)

/-- Every history of a client that starts without a send is, for its pool, a history of sends and
consumers. -/
theorem traffic_of_history (shared : start.shared = .start config around) (idle : start.tasks = [])
    {past : List (Transition World Motion)} (history : History advance start past w) :
    ∃ acts t, History Traffic.step (.start config around) acts t ∧ w.Mirrors t := by
  induction history with
  | start => exact ⟨[], _, .start, shared.symm, idle ▸ .nil⟩
  | next _ moved induction =>
      obtain ⟨acts, t, history, mirrors⟩ := induction
      exact (move_of_advance moved).mirrors history mirrors

theorem task_holds_of_no_credits (shared : start.shared = .start config around)
    (idle : start.tasks = []) (fits : config.lowCeiling? = none)
    (begun : 1 ≤ config.flowControl.initialCredits)
    (rewarded : 1 ≤ config.flowControl.creditIncrement)
    {past : List (Transition World Motion)} (history : History advance start past w)
    (empty : w.shared.credits.available = 0) :
    ∃ task ∈ w.tasks, ∃ m, task.stage = .sending m ∧ m.holdsCredit = true := by
  obtain ⟨acts, t, history, mirrors⟩ := traffic_of_history shared idle history
  have somewhere := Traffic.credits_somewhere fits begun rewarded history
  rw [mirrors.shared, empty, Nat.zero_add] at somewhere
  obtain ⟨m, member, held⟩ := List.countP_pos_iff.mp somewhere
  obtain ⟨task, member, related⟩ := mirrors.sends.exists_part member
  refine ⟨task, member, m, ?_, held⟩
  unfold SendTask.Mirrors at related
  split at related
  case h_1 m' stage => exact related ▸ stage
  case h_2 | h_3 | h_4 | h_5 => cases held.symm.trans related
  case h_6 | h_7 => exact related.elim

end World

end Courier
