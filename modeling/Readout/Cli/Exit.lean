/-
# How a command ends

A command ends with an exit code, and one that fails says why.  The cause decides the code: what the
user asked for, what the device sent, what the connection or a file did, and how long it took each
have their own.  A cause inside another one counts, and is said in its own words.
-/
import Readout.Acquire.Error

namespace Readout.Cli

/-! ## 1. Codes -/

/-- How a command ends. -/
inductive ExitCode where
  | success
  /-- Nothing more is known, or the device is not there. -/
  | failure
  /-- The arguments are not understood. -/
  | arguments
  /-- The connection was shut down. -/
  | transport
  | permission
  /-- What the device sent, or what a file holds, is not valid. -/
  | invalidData
  /-- The arguments ask for something that cannot be done. -/
  | usage
  /-- The device says that it failed. -/
  | device
  | timeout
  /-- A mistake that nothing recovers from. -/
  | crashed
  /-- Something else failed on this side. -/
  | internal
  /-- The user gave up. -/
  | cancelled
  deriving DecidableEq, Repr, Inhabited

/-- The number of a code. -/
def ExitCode.number : ExitCode → Nat
  | success => 0
  | failure => 1
  | arguments => 2
  | transport => 3
  | permission => 50
  | invalidData => 60
  | usage => 64
  | device => 70
  | crashed => 101
  | timeout => 124
  | internal => 125
  | cancelled => 130

/-- Why a command fails. -/
structure Failure where
  code : ExitCode
  message : String
  deriving DecidableEq, Repr, Inhabited

/-! ## 2. Failures by cause -/

namespace Failure

/-- A failure that is said after what was attempted. -/
def saying (code : ExitCode) (context message : String) : Failure :=
  ⟨code, context ++ ": " ++ message⟩

/-- The code for a kind of fault. -/
def codeOf : FaultKind → ExitCode
  | .permissionDenied => .permission
  | .timedOut | .wouldBlock => .timeout
  | .connectionRefused => .failure
  | .invalidData => .invalidData
  | _ => .internal

/-- The failure for a fault. -/
def ofFault (context : String) (f : Fault) : Failure := saying (codeOf f.kind) context f.text

/-- The failure for a transport error. -/
def ofTransport (context : String) (e : TransportError) : Failure :=
  match e with
  | .bind _ source | .connect _ source | .accept source | .io source => ofFault context source
  | .invalidEndpoint .. => saying .usage context e.message
  | .shutdown => saying .transport context e.message

/-- The failure for a frame error. -/
def ofFrame (context : String) (e : FrameError) : Failure :=
  if e.isTimeout then saying .timeout context e.message
  else
    match e with
    | .io source => ofFault context source
    | .tooLarge .. | .badMark | .unknownKind _ => saying .invalidData context e.message
    | .closed => saying .failure context e.message

/-- The failure for a link error. -/
def ofLink (context : String) (e : LinkError) : Failure :=
  match e with
  | .invalidEndpoint .. => saying .usage context e.message
  | .connect _ source | .transport source => ofTransport context source
  | .handshake _ | .json _ => saying .invalidData context e.message
  | .send source | .frame source => ofFrame context source
  | .timeout _ => saying .timeout context e.message
  | .closed _ => saying .failure context e.message
  | .io source => ofFault context source

/-- The failure for an acquisition's error. -/
def ofAcquire (context : String) (e : AcquireError) : Failure :=
  match e with
  | .invalidRequest _ => saying .usage context e.message
  | .send source | .receive source => ofLink context source
  | .decode _ | .unexpectedKind .. | .sizeMismatch .. | .layout _ =>
    saying .invalidData context e.message
  | .refused _ => saying .device context e.message
  | .timeout _ => saying .timeout context e.message
  | .cancelled => saying .cancelled context e.message
  | .sink channel source =>
    ofFault (context ++ ": channel " ++ toString channel.toNat ++ " sink") source

end Failure

end Readout.Cli
