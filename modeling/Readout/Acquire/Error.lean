/-
# What can go wrong with an acquisition
-/
import Readout.Acquire.Layout
import Readout.Control.Envelope
import Readout.Link.Error

namespace Readout

open Control

/-- What was counted when a size turned out wrong. -/
inductive Measure where
  | replySamples
  | chunkWaveforms
  | allWaveforms
  | chunkSamples
  deriving DecidableEq, Repr

/-- The name of what was counted. -/
def Measure.name : Measure → String
  | replySamples => "reply sample count"
  | chunkWaveforms => "chunk waveform count above hint"
  | allWaveforms => "waveforms beyond request"
  | chunkSamples => "chunk sample count"

/-- Why an acquisition or a command failed. -/
inductive AcquireError where
  /-- Nothing was sent, as the request is at fault. -/
  | invalidRequest (reason : String)
  /-- The request could not be sent. -/
  | send (source : LinkError)
  /-- The link failed while an answer was awaited. -/
  | receive (source : LinkError)
  /-- An answer was not understood. -/
  | decode (source : ControlError)
  /-- An answer is of another kind than it should be. -/
  | unexpectedKind (expected : Kind) (actual : String)
  /-- An answer does not have the size that was asked for. -/
  | sizeMismatch (what : Measure) (expected actual : Nat)
  /-- The device says that it failed. -/
  | refused (message : String)
  /-- No answer came in time. -/
  | timeout (after : Duration)
  /-- The caller gave up. -/
  | cancelled
  /-- The data does not fit the layout. -/
  | layout (source : LayoutError)
  /-- What a channel's samples are written to failed. -/
  | sink (channel : UInt32) (source : Fault)
  deriving DecidableEq, Repr

namespace AcquireError

/-- The wording of an error. -/
def message : AcquireError → String
  | invalidRequest reason => "invalid request: " ++ reason
  | send source => "send failed: " ++ source.message
  | receive source => "receive failed: " ++ source.message
  | decode source => source.message
  | unexpectedKind expected actual =>
    "unexpected message type " ++ actual ++ " (expected " ++ expected.name ++ ")"
  | sizeMismatch what expected actual =>
    what.name ++ ": expected " ++ toString expected ++ ", got " ++ toString actual
  | refused message => "device reported failure: " ++ message
  | timeout after => "no reply within " ++ after.text
  | cancelled => "acquisition cancelled"
  | layout source => source.message
  | sink channel source =>
    "sink for channel " ++ toString channel.toNat ++ " failed: " ++ source.text

/-- A link error that was met while an answer was awaited. -/
def ofReceive : LinkError → AcquireError
  | .timeout after => timeout after
  | e => receive e

/-- A control error in an answer whose kind is known beforehand. -/
def ofAnswer (expected : Kind) : ControlError → AcquireError
  | .unknownKind code => unexpectedKind expected (toString code.toInt)
  | e => decode e

end AcquireError

end Readout
