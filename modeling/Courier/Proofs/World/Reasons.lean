import Courier.Proofs.World.Cancelling

/-! Why a session ends, as it says itself: its subscription failed, it was disturbed, all was
published, or the stream came to its end. -/

namespace Courier

namespace Session

def Driven.failure? (driven : Driven) : Option StreamError :=
  match driven.exit with
  | .error error => some error
  | .ok _ => none

def failure? : Session → Option StreamError
  | .closing driven | .draining driven | .joining driven => driven.failure?
  | .ended (.error error) => some error
  | _ => none

def refusal? (now : Nat) : Session → Option StreamError
  | .subscribing transit =>
      match transit.reply? now with
      | some (.failed error) => some error
      | _ => none
  | _ => none

variable {view : View} {s s' : Shared} {session session' : Session} {disturbed disturbed' : Prop}
  {complete : PublishReport → Prop}

theorem failure?_finish (s : Shared) (driven : Driven) :
    (finish s driven).failure? = driven.failure? := by
  unfold finish Driven.failure?
  cases driven.exit <;> rfl

private theorem failure?_pumpStopped (exit : Pump.Exit) (publish : Option PublishReport) :
    (Driven.pumpStopped exit publish).failure? = none := by
  cases exit <;> rfl

theorem Move.failure_cases (move : Move view s session s' session') :
    (s.cancelled = false ∧ session.failure? = none ∧
        session'.failure? = session.refusal? s.now) ∨
      ((session.isDriving = true ∧ s.cancelled = true ∨ session.refusal? s.now = none) ∧
        session'.failure? = session.failure?) := by
  cases move with
  | withdraw cancelled => exact .inr ⟨.inl ⟨rfl, cancelled⟩, rfl⟩
  | accept active replied | refuse active replied =>
      refine .inl ⟨active, rfl, ?_⟩
      simp only [refusal?, replied]
      rfl
  | publish | forgo | subscribe | unsubscribe | watch | wait | rouse | part | tear | abandon
  | interrupt | linger | halt | depart | drain | stop => exact .inr ⟨.inr rfl, rfl⟩
  | lose | settle => exact .inr ⟨.inr rfl, failure?_pumpStopped ..⟩
  | drained | joined => exact .inr ⟨.inr rfl, failure?_finish ..⟩

def Exit.Candid (disturbed : Prop) (complete : PublishReport → Prop)
    (published : Option PublishReport) : Exit → Prop
  | .interrupted => disturbed
  | .published => ∃ report, published = some report ∧ complete report
  | .streamEnded _ => True

def Driven.Candid (disturbed : Prop) (complete : PublishReport → Prop) (driven : Driven) : Prop :=
  ∀ exit, driven.exit = .ok exit → exit.Candid disturbed complete driven.publish

/-- The reason that a session has for its end is a true one. -/
def Candid (disturbed : Prop) (complete : PublishReport → Prop) : Session → Prop
  | .unsubscribing .. => disturbed
  | .halting exit => exit = .cancelled → disturbed
  | .lingering report _ => complete report
  | .closing driven | .draining driven | .joining driven => driven.Candid disturbed complete
  | .ended (.ok report) => report.exit.Candid disturbed complete report.publish
  | _ => True

theorem Exit.Candid.later {published : Option PublishReport} {exit : Exit}
    (candid : exit.Candid disturbed complete published) (later : disturbed → disturbed') :
    exit.Candid disturbed' complete published := by
  cases exit with
  | interrupted => exact later candid
  | published | streamEnded => exact candid

theorem Candid.later (candid : session.Candid disturbed complete)
    (later : disturbed → disturbed') :
    session.Candid disturbed' complete := by
  cases session with
  | unsubscribing => exact later candid
  | halting => exact fun same => later (candid same)
  | closing | draining | joining => exact fun exit reached => (candid exit reached).later later
  | ended result =>
      cases result with
      | error error => trivial
      | ok report => exact Exit.Candid.later candid later
  | starting | subscribing | listening | watching | waiting | publishing => trivial
  | lingering => exact candid

private theorem candid_of_interrupted (happened : disturbed) (publish : Option PublishReport) :
    (Driven.interrupted publish).Candid disturbed complete := by
  intro exit reached
  cases reached
  exact happened

private theorem candid_of_pumpStopped {exit : Pump.Exit} (told : exit = .cancelled → disturbed)
    (publish : Option PublishReport) :
    (Driven.pumpStopped exit publish).Candid disturbed complete := by
  intro reason reached
  cases exit with
  | cancelled =>
      cases reached
      exact told rfl
  | endOfStream | pingLimit | failed | bufferClosed =>
      cases reached
      trivial

private theorem candid_finish {driven : Driven} (candid : driven.Candid disturbed complete)
    (s : Shared) :
    (finish s driven).Candid disturbed complete := by
  unfold finish
  cases reached : driven.exit with
  | error error => trivial
  | ok exit => exact candid exit reached

theorem Move.candid (move : Move view s session s' session')
    (told : session.isDriving = true → s.cancelled = true → disturbed)
    (lost : view.pumpExit = some .cancelled → s.cancelled = true)
    (published : session = .publishing → s.cancelled = false →
      ∀ report, view.published = some report → complete report)
    (candid : session.Candid disturbed complete) :
    session'.Candid disturbed complete := by
  cases move with
  | publish | subscribe | accept | watch | wait | rouse | drain | stop => exact candid
  | forgo mode cancelled => exact candid_of_interrupted (told rfl cancelled) none
  | withdraw cancelled => exact candid_of_interrupted (told rfl cancelled) none
  | refuse => exact nofun
  | unsubscribe cancelled => exact told rfl cancelled
  | lose ended =>
      refine candid_of_pumpStopped ?_ none
      rintro rfl
      exact told rfl (lost ended)
  | part | tear | abandon => exact candid_of_interrupted candid none
  | interrupt published cancelled => exact candid_of_interrupted (told rfl cancelled) _
  | linger reported active => exact published rfl active _ reported
  | halt unpublished ended =>
      rintro rfl
      exact told rfl (lost ended)
  | settle => exact candid_of_pumpStopped candid _
  | depart =>
      intro exit reached
      cases reached
      exact ⟨_, rfl, candid⟩
  | drained | joined => exact candid_finish candid _

end Session

end Courier
