/-
# Settings and results of acquisitions

A device is asked in one of two modes: for everything in one answer, or for chunks.  `check` refuses a
request whose largest answer could exceed the limit on messages, before anything is done.
-/
import Readout.Acquire.Credit
import Readout.Acquire.Error
import Readout.Acquire.Request
import Readout.Link.Client

namespace Readout

/-! ## 1. Settings -/

/-- How a device is asked. -/
inductive Mode where
  /-- For everything in one answer. -/
  | single
  /-- For chunks. -/
  | streaming
  deriving DecidableEq, Repr

/-- The name of a mode. -/
def Mode.name : Mode → String
  | single => "legacy"
  | streaming => "streaming"

/-- What a caller to whom a request was refused should do. -/
def Mode.advice : Mode → String
  | single => "use streaming mode"
  | streaming => "use a smaller chunk size"

/-- Settings of an acquisition. -/
structure AcquisitionConfig where
  mode : Mode := .streaming
  /-- How many waveforms a chunk should hold. -/
  chunkHint : UInt32 := 5
  credit : CreditConfig := {}
  /-- How long each answer may take. -/
  replyTimeout : Duration := .ofSeconds 30
  /-- The limit on messages. -/
  maxMessage : Nat := Frame.defaultLimit
  deriving DecidableEq, Repr

/-- The error for a request that is refused. -/
def RequestDefect.error (d : RequestDefect) : AcquireError := .invalidRequest d.message

namespace AcquisitionConfig

/-- The longest single wait, after which the caller may have given up. -/
def maxWait : Duration := .ofMillis 100

/-- How many waveforms are asked for in a chunk: at least one, and no more than there are. -/
def hintFor (c : AcquisitionConfig) (r : AcquisitionRequest) : UInt32 :=
  max (min c.chunkHint r.waveforms) 1

/-- The most waveforms that one answer holds. -/
def largestReply (c : AcquisitionConfig) (r : AcquisitionRequest) : UInt32 :=
  match c.mode with
  | .single => r.waveforms
  | .streaming => c.hintFor r

/-- Refuses a request whose largest answer may exceed the limit. -/
def check (c : AcquisitionConfig) (r : AcquisitionRequest) : Except AcquireError Unit :=
  let bound := r.replyBound (c.largestReply r)
  if c.maxMessage < bound then
    .error (.invalidRequest (c.mode.name ++ " reply may reach " ++ toString bound ++
      " bytes, above the " ++ toString c.maxMessage ++ " byte message limit; " ++ c.mode.advice))
  else .ok ()

/-- How many chunks may wait. -/
def creditFor (c : AcquisitionConfig) (r : AcquisitionRequest) : Nat :=
  c.credit.credit r.samples.toNat (c.hintFor r).toNat r.channels.length

/-- The message that asks the device; chunks carry the label. -/
def requestMessage (c : AcquisitionConfig) (r : AcquisitionRequest) (label : String) : Bytes :=
  match c.mode with
  | .single => r.dumpMessage
  | .streaming => r.chunkMessage label (c.hintFor r)

end AcquisitionConfig

/-! ## 2. Results -/

/-- Whether everything that was asked for has come. -/
inductive Completion where
  | complete
  /-- The device said that it was done before that. -/
  | partialDelivery (expected received : Nat)
  deriving DecidableEq, Repr

/-- The result of a successful acquisition. -/
structure Summary where
  mode : Mode
  /-- The label of the chunks. -/
  label : Option String
  channels : List UInt32
  samples : UInt32
  expected : Nat
  written : Nat
  /-- How many answers were appended. -/
  chunks : Nat
  /-- How many messages were passed over. -/
  discarded : Nat
  /-- How many chunks could wait. -/
  credit : Option Nat
  completion : Completion
  deriving DecidableEq, Repr

/-- Whether everything that was asked for has come. -/
def Summary.isComplete (s : Summary) : Bool := s.completion == .complete

end Readout
