/-
# Reading frames from a connection

A reader keeps the octets that have come but are no whole frame yet.  `poll` reads until a frame is
there: an interrupted read is repeated, an end of the connection is `closed` even inside a frame,
and any other fault is reported and leaves the octets as they were, so that the caller may try again
after a timeout.

What a connection gives is written down as the outcomes of its reads, one after the other.  After the
last of them `poll` waits for more, while `readFrame` takes the connection to be at its end.  One read
gives 64 KiB at most.
-/
import Readout.Frame.Basic

namespace Readout

/-! ## 1. Reads -/

/-- The outcome of one read of a connection. -/
inductive ReadStep where
  /-- These octets; none at the end of the connection. -/
  | data (octets : Bytes)
  /-- The read failed. -/
  | fault (source : Fault)
  deriving DecidableEq, Repr

namespace ReadStep

/-- The octets that one read gives at most. -/
def size : Nat := 64 * 1024

/-- Octets as reads of at most `size` octets, given how many full reads precede the last. -/
def split : (fullReads : Nat) → Bytes → List ReadStep
  | 0, octets => [data octets]
  | count + 1, octets => data (octets.take size) :: split count (octets.drop size)

/-- The reads that give some octets at once: what is more than one read takes stays for the next. -/
def ofOctets (octets : Bytes) : List ReadStep :=
  split ((octets.length - 1) / size) octets

/-- The reads that a script of reads comes to when no read gives more than `size` octets. -/
def cut (steps : List ReadStep) : List ReadStep :=
  steps.flatMap fun
    | data octets => ofOctets octets
    | fault source => [fault source]

end ReadStep

/-! ## 2. Readers -/

/-- A reader of frames: the octets that are no frame yet, and the limit on payloads. -/
structure FrameReader where
  buffer : Bytes := []
  limit : Nat := Frame.defaultLimit
  deriving DecidableEq, Repr

namespace FrameReader

/-- What reading a frame comes to. -/
inductive Outcome where
  /-- A frame or an error, the reader afterwards, and the reads that are left. -/
  | done (result : Except FrameError Frame) (reader : FrameReader) (rest : List ReadStep)
  /-- The reads are used up before a frame is whole. -/
  | waiting (reader : FrameReader)

/-- Reads until a whole frame is there, an error is met, or the reads are used up. -/
def poll (r : FrameReader) (steps : List ReadStep) : Outcome :=
  match Frame.decode r.limit r.buffer with
  | .error e => .done (.error e) r steps
  | .ok (some (frame, rest)) => .done (.ok frame) { r with buffer := rest } steps
  | .ok none =>
    match steps with
    | [] => .waiting r
    | .data [] :: steps => .done (.error .closed) r steps
    | .data octets :: steps => poll { r with buffer := r.buffer ++ octets } steps
    | .fault source :: steps =>
      if source.kind = .interrupted then poll r steps else .done (.error (.io source)) r steps

/-- Reads a frame from a connection that is at its end after the reads given. -/
def readFrame (r : FrameReader) (steps : List ReadStep) :
    Except FrameError Frame × FrameReader × List ReadStep :=
  match r.poll steps with
  | .done result r rest => (result, r, rest)
  | .waiting r => (.error .closed, r, [])

/-- The reader with another limit. -/
def withLimit (r : FrameReader) (limit : Nat) : FrameReader := { r with limit := limit }

end FrameReader

end Readout
