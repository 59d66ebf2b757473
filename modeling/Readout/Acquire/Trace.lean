/-
# What an acquisition does, in order

The effects of an acquisition on its surroundings are kept in order: which sinks it opens, writes and
finishes, what it sends, and when it waits.  `Traced` adds them to a world, and `TracedSink` to the
calls of a sink.
-/
import Readout.Acquire.Sink
import Readout.Duration
import Readout.Bytes

namespace Readout

/-- Something that an acquisition does. -/
inductive Effect where
  /-- A sink is opened for a channel. -/
  | opens (channel : UInt32)
  /-- The number of messages that may wait is set. -/
  | setsCapacity (capacity : Nat)
  /-- A message is sent. -/
  | sends (message : Bytes)
  /-- A message is not sent, as sending failed. -/
  | failsToSend (message : Bytes)
  /-- A message is asked for. -/
  | awaits (timeout : Duration)
  /-- So many samples are written to the sink of a channel. -/
  | writes (channel : UInt32) (samples : Nat)
  /-- The sink of a channel is finished. -/
  | finishes (channel : UInt32)
  deriving DecidableEq, Repr

/-- A world and what was done in it, the latest first. -/
structure Traced (ω : Type) where
  world : ω
  effects : List Effect := []
  deriving DecidableEq, Repr

/-- The world after one more effect. -/
def Traced.did {ω : Type} (w : Traced ω) (effect : Effect) : Traced ω :=
  { w with effects := effect :: w.effects }

/-- A sink whose calls are kept. -/
structure TracedSink (S : Type) where
  channel : UInt32
  sink : S
  deriving DecidableEq, Repr

instance {S ω : Type} [SampleSink S ω] : SampleSink (TracedSink S) (Traced ω) where
  write s samples w :=
    let (fault, sink, world) := SampleSink.write s.sink samples w.world
    (fault, { s with sink := sink },
      { w with world := world }.did (.writes s.channel samples.length))
  finish s w :=
    let (fault, sink, world) := SampleSink.finish s.sink w.world
    (fault, { s with sink := sink }, { w with world := world }.did (.finishes s.channel))

/-- A factory whose calls are kept. -/
def SinkFactory.traced {S ω : Type} (factory : SinkFactory S ω) :
    SinkFactory (TracedSink S) (Traced ω) := fun channel w =>
  match factory channel w.world with
  | (.error fault, world) => (.error fault, { w with world := world }.did (.opens channel))
  | (.ok sink, world) =>
    (.ok ⟨channel, sink⟩, { w with world := world }.did (.opens channel))

end Readout
