import Courier.Proofs.Intake.Staff

/-! What a pump took from the stream and put into the buffer. Its counters agree with it at every
moment. -/

namespace Courier

def Arrival.frame? : Arrival → Option Wire.Response
  | .frame response => some response
  | _ => none

def framesOf (arrivals : List Arrival) : List Wire.Response := arrivals.filterMap Arrival.frame?

namespace Pump

def arrival? (s : Shared) : Pump → Option Arrival
  | .listening => if s.cancelled then none else (s.feed.next? s.now).map (·.1)
  | _ => none

def stored? : Pump → Pump → Option Wire.Response
  | .holding frame, .stored => some frame
  | _, _ => none

def held? : Pump → Option Wire.Response
  | .holding frame => some frame
  | _ => none

/-- Whether a frame has arrived that is not counted yet, or never will be. -/
def isAhead : Pump → Bool
  | .holding _ | .stored | .ended .bufferClosed => true
  | _ => false

def hasStored : Pump → Bool
  | .stored => true
  | _ => false

end Pump

/-- What a pump has heard: frames only, and what ended the stream when it has. -/
def Heard (arrivals : List Arrival) (pump : Pump) : Prop :=
  match pump.exit?.filter Pump.Exit.isOfStream with
  | none => arrivals = (framesOf arrivals).map .frame
  | some _ => ∃ ending : Arrival, ending.frame? = none ∧
      arrivals = (framesOf arrivals).map .frame ++ [ending]

structure Pumped (arrivals : List Arrival) (stored : List Wire.Response) (tally : Tally)
    (pump : Pump) : Prop where
  frames : tally.frames = tally.enqueued + tally.bufferDropped
  enqueued : tally.enqueued + pump.hasStored.toNat = stored.length
  arrived : (framesOf arrivals).length = tally.frames + pump.isAhead.toNat
  kept : (stored ++ pump.held?.toList).Sublist (framesOf arrivals)
  heard : Heard arrivals pump

namespace Pumped

variable {arrivals : List Arrival} {stored : List Wire.Response} {s s' : Shared}
  {pump pump' : Pump}

@[simp] theorem framesOf_append_frame (frame : Wire.Response) :
    framesOf (arrivals ++ [.frame frame]) = framesOf arrivals ++ [frame] := by
  simp [framesOf, Arrival.frame?]

private theorem ended (pumped : Pumped arrivals stored s.stats.tally .listening)
    {ending : Arrival} (last : ending.frame? = none) {exit : Pump.Exit}
    (ofStream : exit.isOfStream = true) :
    Pumped (arrivals ++ [ending]) stored s.stats.tally (.ended exit) := by
  have same : framesOf (arrivals ++ [ending]) = framesOf arrivals := by
    simp [framesOf, last]
  have ahead : (Pump.ended exit).isAhead = false := by
    cases exit with
    | bufferClosed => cases ofStream
    | cancelled | endOfStream | pingLimit | failed => rfl
  refine ⟨pumped.frames, pumped.enqueued, ?_, ?_, ?_⟩
  · rw [same, ahead]
    exact pumped.arrived
  · rw [same]
    exact pumped.kept
  · have heard : arrivals = (framesOf arrivals).map .frame := pumped.heard
    simp only [Heard, Pump.exit?, Option.filter_some, ofStream, if_true]
    refine ⟨ending, last, ?_⟩
    rw [same, ← heard]

theorem keep {tally tally' : Tally} (pumped : Pumped arrivals stored tally pump)
    (frames : tally'.frames = tally.frames) (enqueued : tally'.enqueued = tally.enqueued)
    (bufferDropped : tally'.bufferDropped = tally.bufferDropped) :
    Pumped arrivals stored tally' pump where
  frames := by
    rw [frames, enqueued, bufferDropped]
    exact pumped.frames
  enqueued := enqueued ▸ pumped.enqueued
  arrived := frames ▸ pumped.arrived
  kept := pumped.kept
  heard := pumped.heard

theorem step (pumped : Pumped arrivals stored s.stats.tally pump)
    (move : Pump.Move s pump s' pump') :
    Pumped (arrivals ++ (pump.arrival? s).toList) (stored ++ (pump.stored? pump').toList)
      s'.stats.tally pump' := by
  cases move with
  | cancel cancelled =>
      simp only [Pump.arrival?, cancelled, if_true, Pump.stored?, Option.toList_none,
        List.append_nil]
      exact ⟨pumped.frames, pumped.enqueued, pumped.arrived, pumped.kept, pumped.heard⟩
  | receive active arrived =>
      rename_i frame feed
      have heard : arrivals = (framesOf arrivals).map .frame := pumped.heard
      simp only [Pump.arrival?, active, arrived, Bool.false_eq_true, if_false, Option.map_some,
        Option.toList_some, Pump.stored?, Option.toList_none, List.append_nil]
      refine ⟨pumped.frames, pumped.enqueued, ?_, ?_, ?_⟩
      · rw [framesOf_append_frame, List.length_append]
        exact congrArg (· + 1) pumped.arrived
      · rw [framesOf_append_frame]
        have kept := pumped.kept
        simp only [Pump.held?, Option.toList_none, List.append_nil] at kept
        exact kept.append (List.Sublist.refl _)
      · simp only [Heard, Pump.exit?, Option.filter_none, framesOf_append_frame, List.map_append,
          List.map_singleton]
        rw [← heard]
  | fail active arrived failed ofStream =>
      simp only [Pump.arrival?, active, arrived, Bool.false_eq_true, if_false, Option.map_some,
        Option.toList_some, Pump.stored?, Option.toList_none, List.append_nil]
      exact pumped.ended rfl ofStream
  | close active arrived =>
      simp only [Pump.arrival?, active, arrived, Bool.false_eq_true, if_false, Option.map_some,
        Option.toList_some, Pump.stored?, Option.toList_none, List.append_nil]
      exact pumped.ended rfl rfl
  | store put =>
      simp only [Pump.arrival?, Option.toList_none, List.append_nil, Pump.stored?,
        Option.toList_some]
      refine ⟨pumped.frames, ?_, pumped.arrived, ?_, pumped.heard⟩
      · rw [List.length_append]
        exact congrArg (· + 1) pumped.enqueued
      · simp only [Pump.held?, Option.toList_none, List.append_nil]
        exact pumped.kept
  | overflow put =>
      simp only [Pump.arrival?, Option.toList_none, List.append_nil, Pump.stored?]
      refine ⟨?_, pumped.enqueued, pumped.arrived, ?_, pumped.heard⟩
      · exact congrArg (· + 1) pumped.frames
      · simp only [Pump.held?, Option.toList_none, List.append_nil]
        exact (List.sublist_append_left ..).trans pumped.kept
  | refuse put =>
      simp only [Pump.arrival?, Option.toList_none, List.append_nil, Pump.stored?]
      refine ⟨pumped.frames, pumped.enqueued, pumped.arrived, ?_, pumped.heard⟩
      simp only [Pump.held?, Option.toList_none, List.append_nil]
      exact (List.sublist_append_left ..).trans pumped.kept
  | count =>
      simp only [Pump.arrival?, Option.toList_none, List.append_nil, Pump.stored?]
      refine ⟨?_, pumped.enqueued, pumped.arrived, pumped.kept, pumped.heard⟩
      have frames := congrArg (· + 1) pumped.frames
      exact frames.trans (Nat.add_right_comm ..)

theorem enqueued_of_ended {tally : Tally} (pumped : Pumped arrivals stored tally pump)
    (ended : pump.exit?.isSome = true) :
    tally.enqueued = stored.length := by
  cases pump with
  | ended exit => exact pumped.enqueued
  | listening | holding | stored => cases ended

theorem arrived_of_ofStream {tally : Tally} {exit : Pump.Exit}
    (pumped : Pumped arrivals stored tally pump) (ended : pump.exit? = some exit)
    (ofStream : exit.isOfStream = true) :
    tally.frames = (framesOf arrivals).length ∧
      ∃ ending : Arrival, ending.frame? = none ∧
        arrivals = (framesOf arrivals).map .frame ++ [ending] := by
  have heard := pumped.heard
  rw [Heard, ended, Option.filter_some, if_pos ofStream] at heard
  refine ⟨?_, heard⟩
  cases pump with
  | listening | holding | stored => cases ended
  | ended exit =>
      cases ended
      have arrived := pumped.arrived
      cases exit with
      | bufferClosed | cancelled => cases ofStream
      | endOfStream | pingLimit | failed => exact arrived.symm

end Pumped

end Courier
