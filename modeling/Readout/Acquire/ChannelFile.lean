/-
# Channel files

The samples of a channel are kept in a file of their own: two octets each, the least significant
first, waveforms back to back and nothing else.  A file is created, and emptied unless it is appended
to, at the first write and not when its sink is opened.

Octets wait in a buffer before they reach the file: they go in when the buffer would overflow, when
the sink is finished and when it is given up.

Reading a file back asks for a whole number of waveforms.  The octets of a waveform are counted in
64 bits; a count that does not fit is a mistake of the caller's that nothing recovers from.
-/
import Readout.Folder
import Readout.Pieces
import Readout.Word
import Readout.Acquire.Sink

namespace Readout

/-! ## 1. Names -/

/-- Where the channel files of an acquisition lie. -/
structure FileSinks where
  folder : String
  extension : String := "dat"
  /-- Whether files that are there are kept and appended to. -/
  append : Bool := false
  deriving DecidableEq, Repr

/-- The extension when none is said. -/
def defaultExtension : String := "dat"

/-- The path of a channel's file. -/
def FileSinks.pathFor (f : FileSinks) (channel : UInt32) : String :=
  Path.join f.folder ("channel_" ++ toString channel.toNat ++ "." ++ f.extension)

/-! ## 2. Files behind a buffer -/

/-- An open file and the octets that wait to be written to it. -/
structure BufferedFile where
  place : Place
  /-- Where the next octets go; at the end if `none`. -/
  position : Option Nat
  waiting : Bytes := []
  deriving DecidableEq, Repr

namespace BufferedFile

/-- How many octets the buffer holds. -/
def capacity : Nat := 8192

/-- Writes octets past the buffer. -/
def writeThrough (b : BufferedFile) (octets : Bytes) (f : Folder) : BufferedFile × Folder :=
  ({ b with position := b.position.map (· + octets.length) }, f.write b.place b.position octets)

/-- Writes out what waits. -/
def flush (b : BufferedFile) (f : Folder) : BufferedFile × Folder :=
  if b.waiting = [] then (b, f) else { b with waiting := [] }.writeThrough b.waiting f

/-- Takes octets into the buffer, which is written out first if they do not fit; what would fill the
buffer alone goes past it. -/
def write (b : BufferedFile) (octets : Bytes) (f : Folder) : BufferedFile × Folder :=
  let spare := capacity - b.waiting.length
  if octets.length < spare then ({ b with waiting := b.waiting ++ octets }, f)
  else
    let (b, f) := if spare < octets.length then b.flush f else (b, f)
    if capacity ≤ octets.length then b.writeThrough octets f
    else ({ b with waiting := b.waiting ++ octets }, f)

end BufferedFile

/-! ## 3. File sinks -/

/-- A sink that writes a channel file. -/
structure FileSink where
  path : String
  append : Bool
  /-- The file, once something was written. -/
  file : Option BufferedFile := none
  /-- How many samples were written. -/
  samples : Nat := 0
  deriving DecidableEq, Repr

namespace FileSink

/-- The octets of samples. -/
def sampleOctets (samples : List UInt16) : Bytes :=
  samples.flatMap fun s => Bytes.littleEndian 2 s.toNat

/-- Creates the file and the folders on the way to it. -/
def create (s : FileSink) (f : Folder) : Except Fault BufferedFile × Folder :=
  match f.createParents s.path with
  | (some fault, f) => (.error fault, f)
  | (none, f) =>
    match f.openForWriting s.path s.append with
    | .error fault => (.error fault, f)
    | .ok (place, f) => (.ok { place := place, position := if s.append then none else some 0 }, f)

/-- Appends samples; the first write creates the file, even one without samples. -/
def write (s : FileSink) (samples : List UInt16) (f : Folder) : Option Fault × FileSink × Folder :=
  let opened : Except Fault BufferedFile × Folder := match s.file with
    | some file => (.ok file, f)
    | none => s.create f
  match opened with
  | (.error fault, f) => (some fault, s, f)
  | (.ok file, f) =>
    let (file, f) := file.write (sampleOctets samples) f
    (none, { s with file := some file, samples := s.samples + samples.length }, f)

/-- Writes out what waits. -/
def flush (s : FileSink) (f : Folder) : FileSink × Folder :=
  match s.file with
  | none => (s, f)
  | some file =>
    let (file, f) := file.flush f
    ({ s with file := some file }, f)

instance : SampleSink FileSink Folder where
  write := write
  finish s f := let (s, f) := s.flush f; (none, s, f)

/-- Gives the sink up, finished or not: what waits reaches the file even so. -/
def drop (s : FileSink) (f : Folder) : Folder := (s.flush f).2

end FileSink

/-- The sink for a channel; nothing is created yet. -/
def FileSinks.openSink (f : FileSinks) (channel : UInt32) : FileSink :=
  { path := f.pathFor channel, append := f.append }

/-- Opens a sink for every channel; that never fails. -/
def FileSinks.factory (f : FileSinks) : SinkFactory FileSink Folder := fun channel folder =>
  (.ok (f.openSink channel), folder)

/-! ## 4. Reading back -/

namespace ChannelFile

/-- Why a channel file could not be read. -/
inductive ReadError where
  | fault (source : Fault)
  /-- The octets of a waveform cannot be counted. -/
  | uncountable
  deriving DecidableEq, Repr

/-- The sample in two octets. -/
def sampleOf (octets : Bytes) : UInt16 := UInt16.ofNat (Bytes.ofLittleEndian octets)

/-- The waveforms in the octets of a file. -/
def waveforms (samples : Nat) (content : Bytes) : List (List UInt16) :=
  (pieces (samples * 2) content).map fun waveform => (pieces 2 waveform).map sampleOf

/-- The waveforms of a channel file, each of so many samples. -/
def read (f : Folder) (path : String) (samples : Nat) : Except ReadError (List (List UInt16)) :=
  if samples = 0 then
    .error (.fault ⟨.invalidInput, "samples per waveform must be at least 1"⟩)
  else
    match f.read path with
    | .error fault => .error (.fault fault)
    | .ok content =>
      match Word.mul? samples 2 with
      | none => .error .uncountable
      | some octets =>
        if content.length % octets ≠ 0 then
          .error (.fault ⟨.invalidData, path ++ ": " ++ toString content.length ++
            " bytes is not a whole number of " ++ toString samples ++ "-sample waveforms"⟩)
        else .ok (waveforms samples content)

/-- Adds the samples of a waveform to sums, as far as both go. -/
def addTo : List Nat → List UInt16 → List Nat
  | n :: ns, s :: ss => (n + s.toNat) :: addTo ns ss
  | ns, _ => ns

/-- The sums of the samples at each place of the first waveform. -/
def sums : List (List UInt16) → List Nat
  | [] => []
  | first :: rest => (first :: rest).foldl addTo (List.replicate first.length 0)

/-- The mean of the samples at each place of the first waveform. -/
def mean (waveforms : List (List UInt16)) : List Float :=
  (sums waveforms).map fun sum => Float.ofNat sum / Float.ofNat waveforms.length

end ChannelFile

end Readout
