/-
# Commands

The commands and their options, and how a command line spells them.  An option may stand before the
command or after it if it concerns every command; what stands after it wins.  The endpoint and the
identity may come from the environment instead.

A command line that is not understood is `refused`, whatever is wrong with it.
-/
import Readout.Acquire.ChannelFile
import Readout.Acquire.Config
import Readout.Cli.Arguments
import Readout.Simulator.Answer
import Readout.Text.Parts

namespace Readout.Cli

/-! ## 1. Values -/

/-- A 32-bit count; a minus sign is understood in front of zero. -/
def readCount32? (s : String) : Option UInt32 :=
  let value := match s.toList with
    | '-' :: cs => if cs = [] then none else (Text.Decimal.digits? 0 cs).filter (· == 0)
    | cs => Text.Decimal.value? cs
  (value.filter (· < 0x100000000)).map UInt32.ofNat

/-- A 64-bit count. -/
def readCount64? (s : String) : Option Nat := Text.Decimal.read? Word.top s.toList

/-- A list of 32-bit counts with commas between them. -/
def readCounts? (s : String) : Option (List UInt32) :=
  (Text.parts ',' s.toList).mapM fun part => readCount32? (String.ofList part)

/-- How results are written. -/
inductive Format where
  | json
  | table
  | pretty
  deriving DecidableEq, Repr

/-- The format with a name. -/
def Format.ofName? (s : String) : Option Format :=
  if s = "json" then some json
  else if s = "table" then some table
  else if s = "pretty" then some pretty
  else none

/-- The mode with a name. -/
def modeOfName? (s : String) : Option Mode :=
  if s = Mode.single.name then some .single
  else if s = Mode.streaming.name then some .streaming
  else none

/-! ## 2. Options -/

/-- The options of every command. -/
def globalOptions : List OptionSpec :=
  [{ name := "format", accepts := fun s => (Format.ofName? s).isSome },
    { name := "log-format", accepts := fun s => s == "text" || s == "json" },
    { name := "log-level",
      accepts := fun s => ["error", "warn", "info", "debug", "trace"].contains s }]

/-- The options of commands that talk to a device. -/
def connectOptions : List OptionSpec :=
  [{ name := "endpoint", short := some 'e' },
    { name := "identity" },
    { name := "connect-timeout" },
    { name := "max-message-mib", accepts := fun s => (readCount64? s).isSome }]

/-- Whether a value is a 32-bit count. -/
def isCount32 (s : String) : Bool := (readCount32? s).isSome

/-- Whether a value is a 64-bit count. -/
def isCount64 (s : String) : Bool := (readCount64? s).isSome

/-- The options of an acquisition. -/
def acquireOptions : List OptionSpec :=
  connectOptions ++
    [{ name := "mode", accepts := fun s => (modeOfName? s).isSome },
      { name := "channels", short := some 'c', repeats := true,
        accepts := fun s => (readCounts? s).isSome },
      { name := "waveforms", short := some 'n', accepts := isCount32 },
      { name := "samples", short := some 'l', accepts := isCount32 },
      { name := "software-trigger", takesValue := false },
      { name := "chunk-size", accepts := isCount32 },
      { name := "memory-budget-mib", accepts := isCount64 },
      { name := "output", short := some 'o', accepts := fun s => s != "" },
      { name := "ext" },
      { name := "append", takesValue := false },
      { name := "timeout" }]

/-- The options of a trigger. -/
def triggerOptions : List OptionSpec := connectOptions ++ [{ name := "timeout" }]

/-- The options of a simulated device. -/
def simulateOptions : List OptionSpec :=
  [{ name := "bind" },
    { name := "sessions", accepts := isCount64 },
    { name := "deliver-limit", accepts := isCount32 },
    { name := "noise", takesValue := false },
    { name := "fail-with" }]

/-- The options of an inspection. -/
def inspectOptions : List OptionSpec :=
  [{ name := "samples", short := some 'l', accepts := isCount64 }]

/-- The options of the version command. -/
def versionOptions : List OptionSpec := [{ name := "extended", takesValue := false }]

/-! ## 3. Commands -/

/-- How a device is reached. -/
structure ConnectArguments where
  endpoint : String
  identity : String
  connectTimeout : String
  /-- The limit on messages, in mebibytes. -/
  maxMessage : Nat
  deriving DecidableEq, Repr

/-- What an acquisition is asked for. -/
structure AcquireArguments where
  connect : ConnectArguments
  mode : Mode
  channels : List UInt32
  waveforms : UInt32
  samples : UInt32
  softwareTrigger : Bool
  chunkSize : UInt32
  /-- The memory for waiting chunks, in mebibytes. -/
  memoryBudget : Nat
  output : String
  extension : String
  append : Bool
  timeout : String
  deriving DecidableEq, Repr

/-- What a simulated device is asked for. -/
structure SimulateArguments where
  address : String
  /-- How many sessions it serves; any number if not said. -/
  sessions : Option Nat
  simulator : Simulator
  deriving DecidableEq, Repr

/-- A command. -/
inductive Command where
  | acquire (arguments : AcquireArguments)
  | trigger (connect : ConnectArguments) (timeout : String)
  | simulate (arguments : SimulateArguments)
  | inspect (path : String) (samples : Nat)
  | version (extended : Bool)
  deriving DecidableEq, Repr

/-- Variables and their values. -/
abbrev Environment := List (String × String)

/-- What is said of how a device is reached. -/
def connectArguments? (env : Environment) (g : Given) : Option ConnectArguments := do
  let endpoint ← (g.value? "endpoint").or (env.lookup "SPYBUF_ENDPOINT")
  let maxMessage ← readCount64? ((g.value? "max-message-mib").getD "64")
  return {
    endpoint := endpoint
    identity := ((g.value? "identity").or (env.lookup "SPYBUF_IDENTITY")).getD "spybuf-cli"
    connectTimeout := (g.value? "connect-timeout").getD "5s"
    maxMessage := maxMessage }

/-- What is said of an acquisition. -/
def acquireArguments? (env : Environment) (g : Given) : Option AcquireArguments := do
  let connect ← connectArguments? env g
  let lists ← (g.values "channels").mapM readCounts?
  if lists = [] then none else
    return {
      connect := connect
      mode := ← modeOfName? ((g.value? "mode").getD Mode.streaming.name)
      channels := lists.flatten
      waveforms := ← readCount32? ((g.value? "waveforms").getD "1")
      samples := ← readCount32? ((g.value? "samples").getD "2048")
      softwareTrigger := g.has "software-trigger"
      chunkSize := ← readCount32? ((g.value? "chunk-size").getD "5")
      memoryBudget := ← readCount64? ((g.value? "memory-budget-mib").getD "128")
      output := (g.value? "output").getD "."
      extension := (g.value? "ext").getD defaultExtension
      append := g.has "append"
      timeout := (g.value? "timeout").getD "30s" }

/-- What is said of a simulated device. -/
def simulateArguments? (g : Given) : Option SimulateArguments := do
  let sessions ← match g.value? "sessions" with
    | none => some none
    | some s => (readCount64? s).map some
  let limit ← match g.value? "deliver-limit" with
    | none => some none
    | some s => (readCount32? s).map some
  return {
    address := (g.value? "bind").getD "127.0.0.1:9000"
    sessions := sessions
    simulator := { deliverLimit := limit, noise := g.has "noise", failWith := g.value? "fail-with" } }

/-- Options and words of a command by its name, and how they become one. -/
def commandNamed? (env : Environment) (name : String) :
    Option (List OptionSpec × Nat × (Given → List String → Option Command)) :=
  match name with
  | "acquire" => some (acquireOptions, 0, fun g _ => (acquireArguments? env g).map .acquire)
  | "trigger" => some (triggerOptions, 0, fun g _ =>
      (connectArguments? env g).map fun c => .trigger c ((g.value? "timeout").getD "5s"))
  | "simulate" => some (simulateOptions, 0, fun g _ => (simulateArguments? g).map .simulate)
  | "inspect" => some (inspectOptions, 1, fun g words => do
      let samples ← (g.value? "samples").bind readCount64?
      let path ← words.head?
      if path = "" then none else some (.inspect path samples))
  | "version" => some (versionOptions, 0, fun g _ => some (.version (g.has "extended")))
  | _ => none

/-- Whether words after the word for help name something that there is help on: nothing more, one
command, or help itself. -/
def isTopic (env : Environment) : List String → Bool
  | [] => true
  | [name] => name == "help" || (commandNamed? env name).isSome
  | _ => false

/-! ## 4. Command lines -/

/-- What a command line asks for. -/
inductive Request where
  /-- A command, and the format of its results if it is said. -/
  | run (command : Command) (format : Option Format)
  | help
  | version
  | refused
  deriving DecidableEq, Repr

/-- The format, as said after the command or else before it. -/
def formatOf (before after : Given) : Option Format :=
  ((after.value? "format").or (before.value? "format")).bind Format.ofName?

/-- What a command line asks for. -/
def Request.read (env : Environment) (args : List String) : Request :=
  match scan { options := globalOptions, commands := true, versioned := true } [] [] args with
  | .finished .. | .refused => refused
  | .help => help
  | .version => version
  | .command before name rest =>
    match commandNamed? env name with
    | none => if name = "help" ∧ isTopic env rest then help else refused
    | some (options, words, make) =>
      match scan { options := globalOptions ++ options, words := words } [] [] rest with
      | .help => help
      | .finished after words =>
        match make after words with
        | some command => run command (formatOf before after)
        | none => refused
      | _ => refused

end Readout.Cli
