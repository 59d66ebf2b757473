/-
# Rehearsed acquisitions

A rehearsal says beforehand what an acquisition meets: cues in order, each of which may make the caller
give up, and what comes after them -- an error, or silence for as long as it takes.  While cues come no
time passes; in silence the clock runs.
-/
import Readout.Acquire.Run

namespace Readout

/-! ## 1. Silence -/

/-- A clock that stands still while so many things arrive, and runs after that. -/
def Clock.pausing (arrivals : Nat) : Clock where
  after count := ⟨(count - arrivals) * AcquisitionConfig.maxWait.nanos⟩

/-- More waits than the time for an answer has. -/
def AcquisitionConfig.patience (c : AcquisitionConfig) : Nat :=
  c.replyTimeout.nanos / AcquisitionConfig.maxWait.nanos + 2

/-! ## 2. Rehearsals -/

/-- What comes when a message is asked for, and whether the caller gives up meanwhile. -/
structure Cue where
  arrival : Arrival
  givesUp : Bool := false
  deriving DecidableEq, Repr

/-- What an acquisition meets. -/
structure Rehearsal where
  cues : List Cue
  /-- The error after the cues; silence if there is none. -/
  ending : Option LinkError
  /-- The moments other than cues at which the caller gives up. -/
  moments : List Moment := []
  /-- Why the request cannot be sent. -/
  sendFault : Option LinkError := none
  deriving DecidableEq, Repr

namespace Rehearsal

/-- Every moment at which the caller gives up. -/
def allMoments (s : Rehearsal) : List Moment :=
  s.moments ++ (s.cues.zipIdx 1).filterMap fun (cue, count) =>
    if cue.givesUp then some (.receiving count) else none

/-- What arrives. -/
def arrivals (s : Rehearsal) (c : AcquisitionConfig) : List Arrival :=
  s.cues.map Cue.arrival ++
    match s.ending with
    | some e => [.fails e]
    | none => List.replicate c.patience .quiet

/-- What the acquisition meets. -/
def surroundings (s : Rehearsal) (c : AcquisitionConfig) : Surroundings where
  arrivals := s.arrivals c
  clock := .pausing s.cues.length
  cancelAt := s.allMoments.mergeSort (fun a b => a.rank ≤ b.rank) |>.head?
  sendFault := s.sendFault

variable {S ω : Type}

/-- How many cues a run has taken. -/
def taken (s : Rehearsal) (run : Run S ω) : Nat := min run.receives s.cues.length

/-- Whether a run has come to a moment. -/
def reached (run : Run S ω) : Moment → Bool
  | .before => true
  | .opening => run.effects.any fun e => match e with
    | .opens _ => true
    | _ => false
  | .sending => run.effects.any fun e => match e with
    | .sends _ | .failsToSend _ => true
    | _ => false
  | .receiving count => count ≤ run.receives

/-- Whether the caller had given up by the end of a run. -/
def givenUp (s : Rehearsal) (run : Run S ω) : Bool := s.allMoments.any (reached run)

end Rehearsal

/-- What the channel sees of an effect. -/
def Effect.act? : Effect → Option ChannelAct
  | setsCapacity capacity => some (.capacitySet capacity)
  | sends message => some (.sent message)
  | failsToSend _ => some .sendFailed
  | _ => none

/-- What a run asks of the channel besides messages, in order. -/
def Run.acts {S ω : Type} (run : Run S ω) : List ChannelAct := run.effects.filterMap Effect.act?

/-- Whether a run has sent its request. -/
def Run.hasSent {S ω : Type} (run : Run S ω) : Bool :=
  run.effects.any fun e => match e with
    | .sends _ => true
    | _ => false

end Readout
