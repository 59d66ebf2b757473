/-
# The payloads of control messages

The records that commands, dumps and streamed dumps carry, and their schemas.
-/
import Readout.Wire.Schema

namespace Readout.Control

open Wire

/-! ## 1. Commands -/

/-- The head of every answer to a command: whether it succeeded, and a message for people. -/
structure CommandReply where
  success : Bool := false
  message : String := ""
  deriving DecidableEq, Repr, Inhabited

/-- Commands answer with these two fields first; further ones belong to the command. -/
def CommandReply.schema : Schema CommandReply where
  name := "CommandResponse"
  empty := {}
  fields :=
    [⟨1, "success", .flag (·.success) fun v m => { m with success := v }⟩,
      ⟨2, "message", .text (·.message) fun v m => { m with message := v }⟩]

/-- The payload of a command without arguments. -/
structure EmptyRequest where
  deriving DecidableEq, Repr, Inhabited

/-- No fields at all. -/
def EmptyRequest.schema : Schema EmptyRequest where
  name := "EmptyRequest"
  empty := {}
  fields := []

/-! ## 2. A dump in one answer -/

/-- Asks for waveforms of some channels in one answer. -/
structure DumpRequest where
  /-- The first channel, for devices that know no channel list. -/
  channel : UInt32 := 0
  samples : UInt32 := 0
  channels : List UInt32 := []
  waveforms : UInt32 := 0
  softwareTrigger : Bool := false
  deriving DecidableEq, Repr, Inhabited

/-- The layout of the request. -/
def DumpRequest.schema : Schema DumpRequest where
  name := "DumpSpyBuffersRequest"
  empty := {}
  fields :=
    [⟨1, "channel", .count (·.channel) fun v m => { m with channel := v }⟩,
      ⟨2, "number_of_samples", .count (·.samples) fun v m => { m with samples := v }⟩,
      ⟨3, "channel_list", .counts (·.channels) fun v m => { m with channels := v }⟩,
      ⟨4, "number_of_waveforms", .count (·.waveforms) fun v m => { m with waveforms := v }⟩,
      ⟨5, "software_trigger", .flag (·.softwareTrigger) fun v m => { m with softwareTrigger := v }⟩]

/-- The answer: the samples waveform by waveform, in each channel by channel. -/
structure DumpReply where
  success : Bool := false
  message : String := ""
  channels : List UInt32 := []
  samples : UInt32 := 0
  waveforms : UInt32 := 0
  data : List UInt32 := []
  deriving DecidableEq, Repr, Inhabited

/-- The layout of the answer. -/
def DumpReply.schema : Schema DumpReply where
  name := "DumpSpyBuffersResponse"
  empty := {}
  fields :=
    [⟨1, "success", .flag (·.success) fun v m => { m with success := v }⟩,
      ⟨2, "message", .text (·.message) fun v m => { m with message := v }⟩,
      ⟨3, "channel_list", .counts (·.channels) fun v m => { m with channels := v }⟩,
      ⟨4, "number_of_samples", .count (·.samples) fun v m => { m with samples := v }⟩,
      ⟨5, "number_of_waveforms", .count (·.waveforms) fun v m => { m with waveforms := v }⟩,
      ⟨6, "data", .counts (·.data) fun v m => { m with data := v }⟩]

/-! ## 3. A dump in chunks -/

/-- Asks for waveforms of some channels in chunks that carry the request's label. -/
structure ChunkRequest where
  label : String := ""
  channels : List UInt32 := []
  samples : UInt32 := 0
  waveforms : UInt32 := 0
  softwareTrigger : Bool := false
  /-- How many waveforms a chunk should hold. -/
  chunkSize : UInt32 := 0
  deriving DecidableEq, Repr, Inhabited

/-- The layout of the request. -/
def ChunkRequest.schema : Schema ChunkRequest where
  name := "DumpSpyBuffersChunkRequest"
  empty := {}
  fields :=
    [⟨1, "request_id", .text (·.label) fun v m => { m with label := v }⟩,
      ⟨2, "channel_list", .counts (·.channels) fun v m => { m with channels := v }⟩,
      ⟨3, "number_of_samples", .count (·.samples) fun v m => { m with samples := v }⟩,
      ⟨4, "number_of_waveforms", .count (·.waveforms) fun v m => { m with waveforms := v }⟩,
      ⟨5, "software_trigger", .flag (·.softwareTrigger) fun v m => { m with softwareTrigger := v }⟩,
      ⟨6, "chunk_size", .count (·.chunkSize) fun v m => { m with chunkSize := v }⟩]

/-- One chunk: some whole waveforms, laid out as in an answer. -/
structure ChunkReply where
  label : String := ""
  success : Bool := false
  message : String := ""
  waveforms : UInt32 := 0
  isFinal : Bool := false
  data : List UInt32 := []
  deriving DecidableEq, Repr, Inhabited

/-- The layout of a chunk. -/
def ChunkReply.schema : Schema ChunkReply where
  name := "DumpSpyBuffersChunkResponse"
  empty := {}
  fields :=
    [⟨1, "request_id", .text (·.label) fun v m => { m with label := v }⟩,
      ⟨2, "success", .flag (·.success) fun v m => { m with success := v }⟩,
      ⟨3, "message", .text (·.message) fun v m => { m with message := v }⟩,
      ⟨4, "waveform_count", .count (·.waveforms) fun v m => { m with waveforms := v }⟩,
      ⟨5, "is_final", .flag (·.isFinal) fun v m => { m with isFinal := v }⟩,
      ⟨6, "data", .counts (·.data) fun v m => { m with data := v }⟩]

end Readout.Control
