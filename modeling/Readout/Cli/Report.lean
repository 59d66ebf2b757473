/-
# Reports

What the commands say about their results: one line of JSON, a table for people, or a short text.
-/
import Readout.Acquire.ChannelFile
import Readout.Acquire.Config
import Readout.Cli.Command
import Readout.Cli.Table
import Readout.Json.Value
import Readout.Text.Shortest

namespace Readout.Cli

open Json (Value)

/-! ## 1. Acquisitions -/

/-- The file of a channel, and how many samples were written to it. -/
structure WrittenFile where
  channel : UInt32
  path : String
  samples : Nat
  deriving DecidableEq, Repr

/-- Whether everything has come, in words. -/
def completionLabel : Completion → String
  | .complete => "complete"
  | .partialDelivery expected received =>
    "partial (" ++ toString received ++ " of " ++ toString expected ++ ")"

/-- A channel's file as a value. -/
def WrittenFile.value (f : WrittenFile) : Value :=
  .record [("channel", .count f.channel.toNat), ("path", .text f.path),
    ("samples", .count f.samples)]

/-- The result of an acquisition as a value. -/
def summaryValue (s : Summary) (files : List WrittenFile) : Value :=
  .record
    [("mode", .text s.mode.name),
      ("request_id", .optional .text s.label),
      ("channels", .list (s.channels.map fun c => .count c.toNat)),
      ("samples_per_waveform", .count s.samples.toNat),
      ("expected_waveforms", .count s.expected),
      ("waveforms_written", .count s.written),
      ("chunks", .count s.chunks),
      ("discarded", .count s.discarded),
      ("credit", .optional .count s.credit),
      ("complete", .bool s.isComplete),
      ("files", .list (files.map WrittenFile.value))]

/-- The table of an acquisition's files. -/
def filesTable (files : List WrittenFile) : List String :=
  Table.lines ["CHANNEL", "SAMPLES", "FILE"]
    (files.map fun f => [toString f.channel.toNat, toString f.samples, f.path])

/-- What is said of an acquisition. -/
def summaryLines (s : Summary) (files : List WrittenFile) : Format → List String
  | .json => [(summaryValue s files).render]
  | .table =>
    [s.mode.name ++ " acquisition: " ++ toString s.written ++ " of " ++ toString s.expected ++
        " waveforms in " ++ toString s.chunks ++ " chunk(s), " ++ completionLabel s.completion] ++
      (match s.label with
        | some label => ["request " ++ label ++ ", credit " ++ toString (s.credit.getD 0)]
        | none => []) ++
      filesTable files
  | .pretty =>
    ["mode=" ++ s.mode.name ++ " waveforms=" ++ toString s.written ++ "/" ++ toString s.expected ++
      " chunks=" ++ toString s.chunks ++ " discarded=" ++ toString s.discarded ++
      " status=" ++ completionLabel s.completion]

/-! ## 2. Channel files -/

/-- What is known of a channel file. -/
structure Inspection where
  path : String
  samples : Nat
  waveforms : Nat
  least : Option UInt16
  greatest : Option UInt16
  mean : List Float

/-- What is known of a channel file with some waveforms. -/
def Inspection.of (path : String) (samples : Nat) (waveforms : List (List UInt16)) : Inspection where
  path := path
  samples := samples
  waveforms := waveforms.length
  least := waveforms.flatten.min?
  greatest := waveforms.flatten.max?
  mean := ChannelFile.mean waveforms

/-- A fraction that is not negative as a value. -/
def fractionValue (x : Float) : Value :=
  match Text.Dyadic.ofBits? x.toBits with
  | none => .null
  | some d => .number d.text

/-- A fraction that is not negative with one place. -/
def onePlace (x : Float) : String :=
  match Text.Dyadic.ofBits? x.toBits with
  | none => "NaN"
  | some d => d.places 1

/-- How many means are shown to people. -/
def meansShown : Nat := 8

/-- What is said of a channel file. -/
def Inspection.lines (i : Inspection) : Format → List String
  | .json =>
    [(Value.record
        [("path", .text i.path),
          ("samples_per_waveform", .count i.samples),
          ("waveforms", .count i.waveforms),
          ("min", .optional (fun n => .count n.toNat) i.least),
          ("max", .optional (fun n => .count n.toNat) i.greatest),
          ("mean_waveform", .list (i.mean.map fractionValue))]).render]
  | _ =>
    ["File:       " ++ i.path,
      "Waveforms:  " ++ toString i.waveforms ++ " x " ++ toString i.samples ++ " samples",
      (match i.least, i.greatest with
        | some least, some greatest =>
          "Range:      " ++ toString least.toNat ++ "..=" ++ toString greatest.toNat
        | _, _ => "Range:      empty"),
      "Mean head:  " ++ " ".intercalate ((i.mean.take meansShown).map onePlace)]

/-! ## 3. Commands and devices -/

/-- What is said of a command that went well. -/
def commandLines (name message : String) : Format → List String
  | .json =>
    [(Value.record
        [("command", .text name), ("success", .bool true), ("message", .text message)]).render]
  | _ => [name ++ ": " ++ message]

/-- What is said of a simulated device that listens. -/
def listeningLines (endpoint : String) : Format → List String
  | .json => [(Value.record [("endpoint", .text endpoint)]).render]
  | _ => ["listening on " ++ endpoint]

/-- The name of the program. -/
def programName : String := "spybuf"

/-- The version of the program. -/
def programVersion : String := "0.1.0"

/-- The version in one line. -/
def versionLine : String := programName ++ " " ++ programVersion

/-- What the program was built for. -/
structure Build where
  target : String
  system : String
  processor : String
  deriving DecidableEq, Repr

/-- The version at length. -/
def Build.lines (b : Build) : List String :=
  let link : LinkConfig := {}
  ["name: " ++ programName,
    "version: " ++ programVersion,
    "target: " ++ b.target,
    "target_os: " ++ b.system,
    "target_arch: " ++ b.processor,
    "protocol: " ++ link.protocol ++ " " ++ link.version,
    "features: acquire=true, cli=true"]

end Readout.Cli
