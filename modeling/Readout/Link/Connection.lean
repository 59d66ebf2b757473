/-
# One side's view of a connection

A connection has a reader of frames with the reads that have arrived, and a device that takes octets.
Whether the peer has hung up is known too: if so, the connection is at its end after the reads that
have arrived, and if not, a reader that has used them up waits.
-/
import Readout.Frame.Reader
import Readout.Frame.Writer

namespace Readout

/-- One side's view of a connection. -/
structure Connection where
  reader : FrameReader := {}
  /-- The reads that have arrived. -/
  reads : List ReadStep := []
  /-- Whether nothing arrives any more. -/
  ended : Bool := true
  device : Device := {}
  /-- The limit on the payloads that are sent. -/
  sendLimit : Nat := Frame.defaultLimit
  deriving DecidableEq, Repr

namespace Connection

/-- The connection with one limit on what is read and sent. -/
def withLimit (c : Connection) (limit : Nat) : Connection :=
  { c with reader := c.reader.withLimit limit, sendLimit := limit }

/-- An open connection on which nothing has happened. -/
def opened : Connection := { ended := false }

/-- The connection after some more octets have arrived. -/
def arrive (c : Connection) (octets : Bytes) : Connection :=
  if octets = [] then c else { c with reads := c.reads ++ ReadStep.ofOctets octets }

/-- The connection after the peer hung up. -/
def hangUp (c : Connection) : Connection := { c with ended := true }

/-- A bound on the frames that the octets there can hold, and the errors after them. -/
def pending (c : Connection) : Nat :=
  c.reads.foldl
    (fun n step => match step with
      | .data octets => n + octets.length + 1
      | .fault _ => n + 1)
    c.reader.buffer.length

/-- The next frame or error and the connection afterwards; `none` while there is neither. -/
def receive? (c : Connection) : Option (Except FrameError Frame × Connection) :=
  match c.reader.poll c.reads with
  | .done result reader reads => some (result, { c with reader := reader, reads := reads })
  | .waiting reader =>
    if c.ended then some (.error .closed, { c with reader := reader, reads := [] }) else none

/-- Sends one frame. -/
def send (c : Connection) (frame : Frame) : Except FrameError Unit × Connection :=
  match c.device.send c.sendLimit frame with
  | (result, device) => (result, { c with device := device })

/-- The octets sent since the last time, and the connection that has forgotten them. -/
def takeSent (c : Connection) : Bytes × Connection :=
  (c.device.accepted, { c with device := { c.device with acts := [] } })

end Connection

end Readout
