/-
# Reassembly: from batches of data to one sink for each channel

A reassembly has a sink for each channel and takes batches of whole waveforms.  A batch is taken apart
before any sink is touched, so that one of the wrong size changes nothing; then the sinks are written
in the order of the channels, up to the first that fails.

The waveforms that were appended are counted in a word.  Nothing looks at the sum: the count starts again from
zero behind the last word, and a machine that checks its words stops there, which is `appendInWords`.  No
acquisition asks for that many.

Closing finishes every sink, whether or not another one fails, and reports the failure of the first.
-/
import Readout.Acquire.Error
import Readout.Acquire.Sink

namespace Readout

variable {S ω : Type}

/-- The sinks of an acquisition and what they have got. -/
structure Reassembly (S : Type) where
  channels : List UInt32
  layout : Layout
  /-- The sinks, in the order of the channels. -/
  sinks : List S
  /-- How many waveforms were appended, as far as a word can count them. -/
  waveforms : UInt64 := 0
  deriving DecidableEq, Repr

namespace Reassembly

/-! ## 1. Opening -/

/-- Opens a sink for each channel, up to the first that fails.  Gives the failure, if any, and the
sinks opened before it. -/
def openEach (factory : SinkFactory S ω) :
    List UInt32 → ω → Option (UInt32 × Fault) × List S × ω
  | [], w => (none, [], w)
  | channel :: channels, w =>
    match factory channel w with
    | (.error fault, w) => (some (channel, fault), [], w)
    | (.ok sink, w) =>
      let (failure, sinks, w) := openEach factory channels w
      (failure, sink :: sinks, w)

/-- A reassembly whose sinks are open. -/
def start (channels : List UInt32) (samples : Nat) (sinks : List S) : Reassembly S :=
  { channels := channels, layout := ⟨channels.length, samples⟩, sinks := sinks }

/-! ## 2. Appending -/

section

variable [SampleSink S ω]

/-- Writes each channel's samples to its sink, up to the first that fails. -/
def writeEach :
    List UInt32 → List S → List (List UInt16) → ω → Option (UInt32 × Fault) × List S × ω
  | channel :: channels, sink :: sinks, samples :: more, w =>
    match SampleSink.write sink samples w with
    | (some fault, sink, w) => (some (channel, fault), sink :: sinks, w)
    | (none, sink, w) =>
      let (failure, sinks, w) := writeEach channels sinks more w
      (failure, sink :: sinks, w)
  | _, sinks, _, w => (none, sinks, w)

/-- Appends a batch of whole waveforms. -/
def append (r : Reassembly S) (waveforms : Nat) (data : List UInt32) (w : ω) :
    Option AcquireError × Reassembly S × ω :=
  match r.layout.demultiplex waveforms data with
  | .error e => (some (.layout e), r, w)
  | .ok batches =>
    match writeEach r.channels r.sinks batches w with
    | (some (channel, fault), sinks, w) =>
      (some (.sink channel fault), { r with sinks := sinks }, w)
    | (none, sinks, w) =>
      (none, { r with sinks := sinks, waveforms := r.waveforms + .ofNat waveforms }, w)

/-! ## 3. Closing -/

/-- Finishes every sink, and gives the first failure. -/
def finishEach : List UInt32 → List S → ω → Option (UInt32 × Fault) × List S × ω
  | channel :: channels, sink :: sinks, w =>
    let (fault, sink, w) := SampleSink.finish sink w
    let (failure, sinks, w) := finishEach channels sinks w
    ((fault.map fun fault => (channel, fault)).or failure, sink :: sinks, w)
  | _, sinks, w => (none, sinks, w)

/-- Finishes every sink.  Gives the error of the first that fails, and the sinks. -/
def close (r : Reassembly S) (w : ω) : Option AcquireError × List S × ω :=
  let (failure, sinks, w) := finishEach r.channels r.sinks w
  (failure.map fun (channel, fault) => .sink channel fault, sinks, w)

end

end Reassembly

end Readout
