import Courier.Publishing.Throttled
import Courier.Publishing.Unthrottled

/-! Publishing from its start to its report. -/

namespace Courier

namespace Publisher

inductive Stage where
  | throttled (t : Throttled)
  | unthrottled (u : Unthrottled)
  | ended (report : PublishReport)
  deriving DecidableEq, Repr

end Publisher

structure Publisher where
  started : Nat
  stage : Publisher.Stage
  deriving DecidableEq, Repr

namespace Publisher

def start (p : Publication) (s : Shared) : Publisher :=
  ⟨s.now, if s.flow.enabled then .throttled (.start p) else .unthrottled .start⟩

def report? (publisher : Publisher) : Option PublishReport :=
  match publisher.stage with
  | .ended report => some report
  | _ => none

def finish (p : Publication) (s : Shared) (publisher : Publisher) (broken : Nat)
    (report : PublishReport) : Shared × Publisher :=
  (s.noteAll (List.replicate broken .taskFailed ++
      [.batchPublished report.sent p.count p.topic report.elapsed report.dropped]),
    { publisher with stage := .ended report })

/-- A step beside the sends that were started, and the send that it starts, if it starts one. -/
def step (p : Publication) (s : Shared) (tasks : List SendTask) (publisher : Publisher) :
    Option (Shared × Publisher × Option SendTask) :=
  let elapsed := s.elapsedSince publisher.started
  match publisher.stage with
  | .throttled t =>
      match t.report? p tasks elapsed with
      | some report =>
          let broken := tasks.countP (·.outcome? = some .broken)
          let (s, publisher) := publisher.finish p s broken report
          some (s, publisher, none)
      | none =>
          (t.step p s).map fun (s, t, task) => (s, { publisher with stage := .throttled t }, task)
  | .unthrottled u =>
      match u.report? elapsed with
      | some report =>
          let (s, publisher) := publisher.finish p s 0 report
          some (s, publisher, none)
      | none =>
          (u.step p s).map fun (s, u) => (s, { publisher with stage := .unthrottled u }, none)
  | .ended _ => none

def deadline? (publisher : Publisher) : Option Nat :=
  match publisher.stage with
  | .throttled t => t.deadline?
  | .unthrottled u => u.deadline?
  | .ended _ => none

end Publisher

end Courier
