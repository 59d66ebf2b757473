/-
# Chunks as they come

While chunks come, a message is one of three things: it belongs to something else and is passed over,
it ends the acquisition with an error, or it is a chunk of this acquisition with the right size.  The
checks are made in this order: the envelope, the kind, the payload, the label, the device's word that
it succeeded, the count of waveforms, their sum, and the count of samples.

`StreamState.judge` is that decision, and `StreamState.accept` appends the chunks it lets through.
-/
import Readout.Acquire.Config
import Readout.Acquire.Reassembly

namespace Readout

open Control

/-- What is known of a stream of chunks. -/
structure StreamState where
  label : String
  layout : Layout
  /-- The most waveforms in a chunk. -/
  hint : Nat
  /-- The waveforms that were asked for. -/
  expected : Nat
  received : Nat := 0
  chunks : Nat := 0
  discarded : Nat := 0
  deriving DecidableEq, Repr

/-- What a message means to a stream. -/
inductive Verdict where
  /-- Nothing. -/
  | foreign
  /-- Its end, with this error. -/
  | fatal (error : AcquireError)
  /-- A chunk of it. -/
  | chunk (reply : ChunkReply)
  deriving DecidableEq, Repr

/-- What a message did to a stream. -/
inductive Step where
  | discarded
  | appended
  | final
  deriving DecidableEq, Repr

namespace StreamState

/-- The stream of a request before the first chunk. -/
def start (c : AcquisitionConfig) (r : AcquisitionRequest) (label : String) : StreamState where
  label := label
  layout := r.layout
  hint := (c.hintFor r).toNat
  expected := r.waveforms.toNat

/-- What is wrong with the sizes of a chunk. -/
def sizeError (s : StreamState) (reply : ChunkReply) : Option AcquireError :=
  let waveforms := reply.waveforms.toNat
  let samples := (s.layout.samplesIn? waveforms).getD Word.top
  if s.hint < waveforms then some (.sizeMismatch .chunkWaveforms s.hint waveforms)
  else if s.expected < s.received + waveforms then
    some (.sizeMismatch .allWaveforms s.expected (s.received + waveforms))
  else if reply.data.length ≠ samples then
    some (.sizeMismatch .chunkSamples samples reply.data.length)
  else none

/-- What a chunk means, once its payload is read. -/
def judgeReply (s : StreamState) (reply : ChunkReply) : Verdict :=
  if reply.label ≠ s.label then .foreign
  else if !reply.success then .fatal (.refused reply.message)
  else
    match s.sizeError reply with
    | some e => .fatal e
    | none => .chunk reply

/-- What a message means. -/
def judge (s : StreamState) (message : Bytes) : Verdict :=
  match Envelope.decode message with
  | .error (.unknownKind _) => .foreign
  | .error e => .fatal (.decode e)
  | .ok envelope =>
    if envelope.kind ≠ .chunkReply then .foreign
    else
      match envelope.record ChunkReply.schema with
      | .error e => .fatal (.decode e)
      | .ok reply => s.judgeReply reply

/-- The stream after a chunk was appended. -/
def advance (s : StreamState) (reply : ChunkReply) : StreamState :=
  { s with received := s.received + reply.waveforms.toNat, chunks := s.chunks + 1 }

variable {S ω : Type} [SampleSink S ω]

/-- Takes a message: passes it over, appends its chunk, or fails. -/
def accept (s : StreamState) (message : Bytes) (r : Reassembly S) (w : ω) :
    Except AcquireError (Step × StreamState) × Reassembly S × ω :=
  match s.judge message with
  | .foreign => (.ok (.discarded, { s with discarded := s.discarded + 1 }), r, w)
  | .fatal e => (.error e, r, w)
  | .chunk reply =>
    match r.append reply.waveforms.toNat reply.data w with
    | (some e, r, w) => (.error e, r, w)
    | (none, r, w) => (.ok (if reply.isFinal then .final else .appended, s.advance reply), r, w)

/-- The result of a stream whose last chunk has come. -/
def summary (s : StreamState) (request : AcquisitionRequest) (credit : Nat) : Summary where
  mode := .streaming
  label := some s.label
  channels := request.channels
  samples := request.samples
  expected := s.expected
  written := s.received
  chunks := s.chunks
  discarded := s.discarded
  credit := some credit
  completion :=
    if s.received < s.expected then .partialDelivery s.expected s.received else .complete

end StreamState

end Readout
