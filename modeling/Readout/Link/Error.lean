/-
# What can go wrong on a link
-/
import Readout.Duration
import Readout.Frame.Basic
import Readout.Json.Quote

namespace Readout

/-- Why a link could not be made or used. -/
inductive LinkError where
  /-- The endpoint's text is at fault. -/
  | invalidEndpoint (endpoint reason : String)
  /-- The device cannot be reached. -/
  | connect (endpoint : String) (source : TransportError)
  /-- The two sides did not come to terms. -/
  | handshake (reason : String)
  /-- A message could not be written. -/
  | send (source : FrameError)
  /-- The link is closed. -/
  | closed (reason : String)
  /-- No message came in time. -/
  | timeout (after : Duration)
  /-- The connection failed. -/
  | transport (source : TransportError)
  /-- A frame could not be read or written. -/
  | frame (source : FrameError)
  /-- A greeting is not the JSON that it should be. -/
  | json (defect : Json.Defect)
  /-- The link's own machinery failed. -/
  | io (source : Fault)
  deriving DecidableEq, Repr

namespace LinkError

/-- The wording of a link error. -/
def message : LinkError → String
  | invalidEndpoint endpoint reason => "invalid endpoint '" ++ endpoint ++ "': " ++ reason
  | connect endpoint source => "cannot connect to " ++ endpoint ++ ": " ++ source.message
  | handshake reason => "handshake failed: " ++ reason
  | send source => "send failed: " ++ source.message
  | closed reason => "link closed: " ++ reason
  | timeout after => "no message received within " ++ after.text
  | transport source => "transport error: " ++ source.message
  | frame source => "frame error: " ++ source.message
  | json .malformed => "json error: malformed"
  | json .mismatch => "json error: not a greeting"
  | json .ended => "json error: ended early"
  | io source => "i/o error: " ++ source.text

/-- Whether the error was met while the link was made. -/
def isConnectError : LinkError → Bool
  | invalidEndpoint .. | connect .. | handshake _ => true
  | _ => false

end LinkError

end Readout
