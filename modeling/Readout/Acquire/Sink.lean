/-
# Sinks: where the samples of a channel go

A sink takes the samples of one channel in order and is finished once.  Either can fail.  Sinks live
in a world that they may change, as files do; `SinkFactory` opens a sink for a channel.

`MemorySink` keeps its samples, counts the calls, and fails where it is told to.
-/
import Readout.Fault

namespace Readout

/-! ## 1. Sinks and factories -/

/-- What the samples of a channel are written to, in a world `ω`. -/
class SampleSink (S : Type) (ω : outParam Type) where
  /-- Appends samples.  Gives the fault, if any, and the sink and world afterwards. -/
  write : S → List UInt16 → ω → Option Fault × S × ω
  /-- Makes sure that everything appended is kept. -/
  finish : S → ω → Option Fault × S × ω

/-- Opens a sink for a channel. -/
abbrev SinkFactory (S ω : Type) := UInt32 → ω → Except Fault S × ω

/-! ## 2. Sinks in memory -/

/-- Where a sink in memory fails. -/
structure SinkFailure where
  /-- Writes fail after so many. -/
  writesAfter : Option Nat := none
  /-- Finishing fails. -/
  onFinish : Bool := false
  /-- What is said of a failure. -/
  text : String := "disk full"
  deriving DecidableEq, Repr

/-- A sink that keeps its samples. -/
structure MemorySink where
  channel : UInt32
  samples : List UInt16 := []
  /-- How many writes there were, failed ones too. -/
  writes : Nat := 0
  /-- How often the sink was finished, in vain too. -/
  finished : Nat := 0
  failure : SinkFailure := {}
  deriving DecidableEq, Repr

namespace MemorySink

/-- Appends samples, unless it is time to fail. -/
def write (s : MemorySink) (samples : List UInt16) : Option Fault × MemorySink :=
  let counted := { s with writes := s.writes + 1 }
  if s.failure.writesAfter.any (· ≤ s.writes) then (some (.other s.failure.text), counted)
  else (none, { counted with samples := s.samples ++ samples })

/-- Counts the finish. -/
def finish (s : MemorySink) : Option Fault × MemorySink :=
  (if s.failure.onFinish then some (.other s.failure.text) else none,
    { s with finished := s.finished + 1 })

instance : SampleSink MemorySink Unit where
  write s samples _ := let (fault, s) := s.write samples; (fault, s, ())
  finish s _ := let (fault, s) := s.finish; (fault, s, ())

/-- Opens a sink in memory for every channel, but for those where opening fails. -/
def factory (failure : UInt32 → SinkFailure) (openFails : UInt32 → Option Fault) :
    SinkFactory MemorySink Unit := fun channel _ =>
  match openFails channel with
  | some fault => (.error fault, ())
  | none => (.ok { channel := channel, failure := failure channel }, ())

end MemorySink

end Readout
