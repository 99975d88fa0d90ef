import Courier.Setup

/-! A session at its start. -/

namespace Courier

/-- The name under which a client sends, and under which it records what it receives. -/
def Config.tag (config : Config) : String :=
  String.ofList (Address.tag config.connection.address.toList)

namespace World

variable (config : Config) (around : Surroundings) (records : Bool) (gates : List Gate)

theorem ofSession_eq :
    ofSession config around records gates =
      { shared := .start config around
        mode := config.mode
        topic := config.topic
        publication := .ofConfig config config.tag records around.random
        gates
        session := some .starting
        publisher :=
          match config.mode with
          | .subscribe => none
          | .publish =>
              some (.start (.ofConfig config config.tag records around.random)
                (.start config around))
        tasks := []
        workers := (List.range config.consumer.workers).map .start
        pump := some .listening
        outside := around.outside
        signal := around.signal } := by
  unfold ofSession
  dsimp only
  cases mode : config.mode <;> simp only [withPublisher, withWorkers, idle, mode] <;> rfl

end World

end Courier
