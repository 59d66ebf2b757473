/-
# What a simulated device answers

A simulated device answers both kinds of dump with synthetic samples, and says of every other command
that it went well.  A message that it does not understand it passes over in silence.

It refuses a dump when it was told to, when no channel is named, and when a channel is out of range,
in this order.  The request is not checked otherwise: a channel may be named twice, and a dump may be
so large that there can be no block of its samples, which the device does not survive.

`Simulator.answer` is all that, for one message; `cuts` says how a stream is cut into chunks.
-/
import Readout.Acquire.Request
import Readout.Simulator.Samples

namespace Readout

open Control

/-! ## 1. Settings and counts -/

/-- How a simulated device behaves. -/
structure Simulator where
  /-- A stream ends after so many waveforms. -/
  deliverLimit : Option UInt32 := none
  /-- An unrelated message goes ahead of every chunk. -/
  noise : Bool := false
  /-- Every dump is refused, with this message. -/
  failWith : Option String := none
  deriving DecidableEq, Repr

/-- What a simulated device did in a session, as far as words can count it. -/
structure SessionStats where
  /-- The messages that were understood as far as their kind. -/
  requests : UInt64 := 0
  chunks : UInt64 := 0
  waveforms : UInt64 := 0
  deriving DecidableEq, Repr

/-- What a message makes a simulated device do. -/
structure SimulatorAnswer where
  /-- The messages that it sends. -/
  messages : List Bytes
  /-- The counts afterwards. -/
  stats : SessionStats
  /-- Whether it ends there, unable to hold the samples that it should send. -/
  crashes : Bool := false
  deriving DecidableEq, Repr

/-! ## 2. How a stream is cut -/

/-- A chunk of a stream: its first waveform, how many it has, and whether it is the last. -/
structure Cut where
  first : Nat
  waveforms : Nat
  isFinal : Bool
  deriving DecidableEq, Repr

/-- The chunks of a stream of `total` waveforms once `sent` are sent; a size of zero counts as one. -/
def cutsFrom (size total sent : Nat) : List Cut :=
  let waveforms := min (max size 1) (total - sent)
  if total ≤ sent + waveforms then [⟨sent, waveforms, true⟩]
  else ⟨sent, waveforms, false⟩ :: cutsFrom size total (sent + waveforms)
termination_by total - sent
decreasing_by omega

/-- The chunks of a stream; there is at least one, and only an empty stream has an empty one. -/
def cuts (size total : Nat) : List Cut := cutsFrom size total 0

namespace Simulator

/-! ## 3. Dumps -/

/-- Why a dump of some channels is refused, if it is. -/
def refusal (s : Simulator) (channels : List UInt32) : Option String :=
  match s.failWith with
  | some message => some message
  | none =>
    if channels = [] then some "empty channel list"
    else (channels.find? (maxChannel < ·)).map fun c => "invalid channel " ++ toString c.toNat

/-- The answer to a dump that is not refused. -/
def dumpReply (r : DumpRequest) : DumpReply where
  success := true
  channels := r.channels
  samples := r.samples
  waveforms := r.waveforms
  data := Synthetic.block r.channels 0 r.waveforms.toNat r.samples.toNat

/-- Answers a dump. -/
def answerDump (s : Simulator) (r : DumpRequest) (stats : SessionStats) : SimulatorAnswer :=
  match s.refusal r.channels with
  | some message =>
    ⟨[Envelope.encodeRecord .dump DumpReply.schema { message := message }], stats, false⟩
  | none =>
    if Synthetic.capacity ≤ Synthetic.blockSize r.channels r.waveforms.toNat r.samples.toNat then
      ⟨[], stats, true⟩
    else
      ⟨[Envelope.encodeRecord .dump DumpReply.schema (dumpReply r)],
        { stats with waveforms := stats.waveforms + r.waveforms.toUInt64 }, false⟩

/-- The message that is sent ahead of chunks when there is noise. -/
def unsolicited : Bytes :=
  Envelope.encodeRecord .readCurrentMonitor CommandReply.schema ⟨true, "unsolicited"⟩

/-- One chunk of a stream. -/
def chunkReply (r : ChunkRequest) (cut : Cut) : ChunkReply where
  label := r.label
  success := true
  waveforms := UInt32.ofNat cut.waveforms
  isFinal := cut.isFinal
  data := Synthetic.block r.channels cut.first cut.waveforms r.samples.toNat

/-- The messages of one chunk. -/
def chunkMessages (s : Simulator) (r : ChunkRequest) (cut : Cut) : List Bytes :=
  (if s.noise then [unsolicited] else []) ++
    [Envelope.encodeRecord .chunkReply ChunkReply.schema (chunkReply r cut)]

/-- How many waveforms a stream has. -/
def streamed (s : Simulator) (r : ChunkRequest) : Nat :=
  match s.deliverLimit with
  | none => r.waveforms.toNat
  | some limit => min limit.toNat r.waveforms.toNat

/-- The chunks of a stream. -/
def streamCuts (s : Simulator) (r : ChunkRequest) : List Cut := cuts r.chunkSize.toNat (s.streamed r)

/-- Answers a streamed dump; no chunk is larger than the first. -/
def answerChunks (s : Simulator) (r : ChunkRequest) (stats : SessionStats) : SimulatorAnswer :=
  match s.refusal r.channels with
  | some message =>
    ⟨[Envelope.encodeRecord .chunkReply ChunkReply.schema
        { label := r.label, message := message, isFinal := true }], stats, false⟩
  | none =>
    let first := min (max r.chunkSize.toNat 1) (s.streamed r)
    if Synthetic.capacity ≤ Synthetic.blockSize r.channels first r.samples.toNat then
      ⟨if s.noise then [unsolicited] else [], stats, true⟩
    else
      let cuts := s.streamCuts r
      ⟨cuts.flatMap (s.chunkMessages r),
        { stats with
          chunks := stats.chunks + .ofNat cuts.length
          waveforms := cuts.foldl (fun n cut => n + .ofNat cut.waveforms) stats.waveforms }, false⟩

/-! ## 4. Any message -/

/-- The answer to a command that is no dump. -/
def acknowledgement (kind : Kind) : Bytes :=
  Envelope.encodeRecord kind CommandReply.schema ⟨true, kind.name ++ " ok"⟩

/-- Answers a message whose outer form is understood, with that message counted already. -/
def answerEnvelope (s : Simulator) (e : Envelope) (stats : SessionStats) : SimulatorAnswer :=
  match e.kind with
  | .dump =>
    match e.record DumpRequest.schema with
    | .error _ => ⟨[], stats, false⟩
    | .ok r => s.answerDump r stats
  | .chunkRequest =>
    match e.record ChunkRequest.schema with
    | .error _ => ⟨[], stats, false⟩
    | .ok r => s.answerChunks r stats
  | kind => ⟨[acknowledgement kind], stats, false⟩

/-- Answers a message. -/
def answer (s : Simulator) (message : Bytes) (stats : SessionStats) : SimulatorAnswer :=
  match Envelope.decode message with
  | .error _ => ⟨[], stats, false⟩
  | .ok e => s.answerEnvelope e { stats with requests := stats.requests + 1 }

end Simulator

end Readout
