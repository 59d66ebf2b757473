/-
# Writing frames to a device

`Device` is what takes octets: every write takes some of the octets offered or fails, and every flush
succeeds or fails.  A device keeps the acts done on it.

`Device.send` puts one frame on a device and flushes it.  A payload above the limit is refused before
the device is touched; interrupted writes and flushes are repeated; a write that takes nothing and a
fault that says so are `closed`.  A send that fails part way leaves part of the frame on the device,
and the next send does not know of it.

A `FrameWriter` has a device and the buffer in which it puts frames together.  The buffer is used for
frame after frame, and given up for a new one when it has become large.
-/
import Readout.Frame.Basic

namespace Readout

/-! ## 1. Devices -/

/-- The outcome of one write. -/
inductive WriteStep where
  /-- At most so many octets are taken. -/
  | accept (most : Nat)
  /-- The write failed. -/
  | fault (source : Fault)
  deriving DecidableEq, Repr

/-- What was done on a device. -/
inductive DeviceAct where
  /-- A write took these octets. -/
  | wrote (octets : Bytes)
  | writeFailed (source : Fault)
  | flushed
  | flushFailed (source : Fault)
  deriving DecidableEq, Repr

/-- The octets that an act put on the device. -/
def DeviceAct.octets : DeviceAct → Bytes
  | .wrote octets => octets
  | _ => []

/-- What takes octets. -/
structure Device where
  /-- The outcomes of the writes to come; after the last, every write takes all. -/
  writes : List WriteStep := []
  /-- The outcomes of the flushes to come, a fault or none; after the last, every flush succeeds. -/
  flushes : List (Option Fault) := []
  /-- What was done, the latest act first. -/
  acts : List DeviceAct := []
  deriving DecidableEq, Repr

/-- The frame error for a fault of a device. -/
def FrameError.ofDevice (source : Fault) : FrameError :=
  if source.kind = .writeZero then .closed else .io source

namespace Device

/-- All octets that the device took, in order. -/
def accepted (d : Device) : Bytes := d.acts.reverse.flatMap DeviceAct.octets

/-- How many flushes succeeded. -/
def flushCount (d : Device) : Nat := d.acts.countP (· == .flushed)

/-- The device after one more act. -/
def did (d : Device) (act : DeviceAct) : Device := { d with acts := act :: d.acts }

/-! ## 2. Writing everything -/

/-- The fault of a write that takes nothing. -/
def tookNothing : Fault := ⟨.writeZero, "failed to write whole buffer"⟩

/-- Writes until all octets are taken or a write fails.  Gives the fault, if any, the writes that are
left, and the acts, the latest first and in front of those before. -/
def writeAll : List WriteStep → Bytes → List DeviceAct →
    Option Fault × List WriteStep × List DeviceAct
  | writes, [], acts => (none, writes, acts)
  | [], octets, acts => (none, [], .wrote octets :: acts)
  | .fault source :: writes, octets, acts =>
    if source.kind = .interrupted then writeAll writes octets (.writeFailed source :: acts)
    else (some source, writes, .writeFailed source :: acts)
  | .accept most :: writes, octets, acts =>
    if most = 0 then (some tookNothing, writes, .wrote [] :: acts)
    else writeAll writes (octets.drop most) (.wrote (octets.take most) :: acts)

/-- Flushes until a flush succeeds or fails for good. -/
def flushAll : List (Option Fault) → List DeviceAct →
    Option Fault × List (Option Fault) × List DeviceAct
  | [], acts => (none, [], .flushed :: acts)
  | none :: flushes, acts => (none, flushes, .flushed :: acts)
  | some source :: flushes, acts =>
    if source.kind = .interrupted then flushAll flushes (.flushFailed source :: acts)
    else (some source, flushes, .flushFailed source :: acts)

/-- Writes all octets and flushes them. -/
def put (d : Device) (octets : Bytes) : Option Fault × Device :=
  match writeAll d.writes octets d.acts with
  | (some source, writes, acts) => (some source, { d with writes := writes, acts := acts })
  | (none, writes, acts) =>
    match flushAll d.flushes acts with
    | (source, flushes, acts) => (source, ⟨writes, flushes, acts⟩)

/-! ## 3. Sending a frame -/

/-- Puts one frame on the device and flushes it. -/
def send (d : Device) (limit : Nat) (frame : Frame) : Except FrameError Unit × Device :=
  if limit < frame.payload.length then (.error (.tooLarge frame.payload.length limit), d)
  else
    match frame.encode with
    | .error e => (.error e, d)
    | .ok octets =>
      match d.put octets with
      | (some source, d) => (.error (.ofDevice source), d)
      | (none, d) => (.ok (), d)

end Device

/-! ## 4. A writer and its buffer -/

/-- Puts frames together and writes them to a device. -/
structure FrameWriter where
  device : Device := {}
  /-- The largest payload that is sent. -/
  limit : Nat := Frame.defaultLimit
  /-- The octets that were put together last. -/
  buffer : Bytes := []
  /-- How many octets there is room for in the buffer. -/
  room : Nat := 8 * 1024
  deriving DecidableEq, Repr

/-- Puts the octets of a frame behind those of a buffer. -/
def Frame.encodeOnto (f : Frame) (buffer : Bytes) : Except FrameError Bytes :=
  f.encode.map (buffer ++ ·)

namespace FrameWriter

/-- The most room that a buffer has which is used again. -/
def keptRoom : Nat := 4 * (8 * 1024)

/-- The writer with nothing in its buffer. -/
def clear (w : FrameWriter) : FrameWriter := { w with buffer := [] }

/-- The writer with a new buffer if the old one has become large. -/
def release (w : FrameWriter) : FrameWriter :=
  if keptRoom < w.room then { device := w.device, limit := w.limit } else w

/-- Puts one frame together, writes it to the device and flushes it.  How much room a buffer gets that
has some and needs some is the allocator's choice, `grown`. -/
def send (grown : Nat → Nat → Nat) (w : FrameWriter) (frame : Frame) :
    Except FrameError Unit × FrameWriter :=
  if w.limit < frame.payload.length then (.error (.tooLarge frame.payload.length w.limit), w)
  else
    let needed := Frame.headerSize + frame.payload.length
    let w := { w.clear with room := grown w.room needed }
    match frame.encodeOnto w.buffer with
    | .error e => (.error e, w)
    | .ok octets =>
      match w.device.put octets with
      | (some source, device) =>
        (.error (.ofDevice source), { w with device := device, buffer := octets }.release)
      | (none, device) => (.ok (), { w with device := device, buffer := octets }.release)

end FrameWriter

end Readout
