/-
# Running commands

What a command does on a host: which lines it writes, how it ends, and which files it leaves.  The
host has an environment, a folder, and perhaps a simulated device that listens; the user may have
given up before anything was sent.

Arguments are looked at in a fixed order, and the first that is at fault decides.
-/
import Readout.Acquire.Command
import Readout.Cli.Quantity
import Readout.Cli.Report
import Readout.Simulator.Link

namespace Readout.Cli

/-! ## 1. Hosts -/

/-- What becomes of the user's wish to be able to give up. -/
inductive Interrupt where
  /-- It can be expressed, and is not. -/
  | none
  /-- It is expressed as soon as it can be. -/
  | signal
  /-- It cannot be expressed. -/
  | taken
  deriving DecidableEq, Repr

/-- What commands run on. -/
structure Host where
  environment : Environment := []
  folder : Folder := {}
  /-- A simulated device that listens, and its address. -/
  device : Option (SocketAddress × Simulator) := none
  /-- Addresses by name. -/
  names : List (String × IpAddress) := IpAddress.wellKnown
  interrupt : Interrupt := .none
  /-- The label of the next request. -/
  label : String
  /-- The port that a listener gets which asks for any. -/
  freePort : UInt16
  /-- Whether somebody reads along. -/
  terminal : Bool := false
  build : Build
  deriving Repr

/-- What a command came to. -/
structure Outcome where
  code : ExitCode
  /-- The lines of its results. -/
  lines : List String := []
  /-- Why it failed. -/
  error : Option String := none
  folder : Folder
  /-- The device that it goes on to run, and for how many sessions. -/
  serving : Option (SocketAddress × Simulator × Option Nat) := none
  deriving Repr

/-- The end of a command that fails. -/
def Host.fail (h : Host) (f : Failure) : Outcome :=
  { code := f.code, error := some f.message, folder := h.folder }

/-- The end of a command that succeeds. -/
def Host.succeed (h : Host) (lines : List String) : Outcome :=
  { code := .success, lines := lines, folder := h.folder }

/-- The format of results when none is said. -/
def Host.defaultFormat (h : Host) : Format := if h.terminal then .table else .json

/-! ## 2. Reaching a device -/

/-- A link to the device at an endpoint. -/
def Host.reach (h : Host) (endpoint identity : String) (config : LinkConfig) :
    Except LinkError SimulatedLink :=
  match LinkConfig.endpointFor endpoint identity with
  | .error e => .error e
  | .ok e =>
    let unreachable (fault : Fault) : Except LinkError SimulatedLink :=
      .error (.connect e.text (.connect e.text fault))
    match e.resolve h.names, h.device with
    | .error fault, _ => unreachable fault
    | .ok _, none => unreachable .refused
    | .ok address, some (listening, simulator) =>
      if address = listening then SimulatedLink.connect simulator identity config
      else unreachable .refused

/-- The settings of a link. -/
def linkConfig (c : ConnectArguments) : Except Failure LinkConfig := do
  let timeout ← readDuration c.connectTimeout
  let limit ← messageLimit c.maxMessage
  return { connectTimeout := timeout, maxPayload := limit }

/-- A link to the device that is asked for. -/
def Host.connect (h : Host) (c : ConnectArguments) : Except Failure SimulatedLink := do
  let config ← linkConfig c
  (h.reach c.endpoint c.identity config).mapError (.ofLink "connect failed")

/-! ## 3. Acquisitions -/

/-- Refuses sizes of zero. -/
def checkSizes (a : AcquireArguments) : Except Failure Unit :=
  if a.chunkSize = 0 then .error ⟨.usage, "chunk size must be at least 1"⟩
  else if a.memoryBudget = 0 then .error ⟨.usage, "memory budget must be at least 1 MiB"⟩
  else .ok ()

/-- The settings of an acquisition. -/
def acquisitionConfig (a : AcquireArguments) (timeout : Duration) (limit : Nat) :
    AcquisitionConfig where
  mode := a.mode
  chunkHint := a.chunkSize
  credit := { budget := Word.mulSat a.memoryBudget mebibyte }
  replyTimeout := timeout
  maxMessage := limit

/-- The request and the settings, if nothing is wrong with them. -/
def prepare (a : AcquireArguments) : Except Failure (AcquisitionRequest × AcquisitionConfig) := do
  let timeout ← readDuration a.timeout
  checkSizes a
  let invalid : AcquireError → Failure := .ofAcquire "invalid request"
  let request ← (AcquisitionRequest.make a.channels a.waveforms a.samples
    a.softwareTrigger).mapError fun d => invalid d.error
  let limit ← messageLimit a.connect.maxMessage
  let config := acquisitionConfig a timeout limit
  (config.check request).mapError invalid
  return (request, config)

/-- Says why the user cannot give up, if so. -/
def Interrupt.check : Interrupt → Except Failure Unit
  | taken => .error
      ⟨.internal, "signal handler setup failed: Ctrl-C signal handler already registered"⟩
  | _ => .ok ()

/-- When the user gives up. -/
def Interrupt.moment : Interrupt → Option Moment
  | signal => some .before
  | _ => .none

/-- The link, the request and the settings of an acquisition that can begin. -/
def Host.begin (h : Host) (a : AcquireArguments) :
    Except Failure (SimulatedLink × AcquisitionRequest × AcquisitionConfig) := do
  let (request, config) ← prepare a
  h.interrupt.check
  let link ← h.connect a.connect
  return (link, request, config)

/-- The file of a sink. -/
def writtenFile : UInt32 × FileSink → WrittenFile
  | (channel, sink) => ⟨channel, sink.path, sink.samples⟩

/-- Where an acquisition's channel files lie. -/
def AcquireArguments.files (a : AcquireArguments) : FileSinks where
  folder := a.output
  extension := a.extension
  append := a.append

/-- What a run into channel files comes to.  One that still waits has waited for too long. -/
def Host.conclude (h : Host) (config : AcquisitionConfig) (format : Format)
    (run : Run FileSink Folder) : Outcome :=
  let h := { h with folder := run.world }
  match run.outcome with
  | none => h.fail (.ofAcquire "acquisition failed" (.timeout config.replyTimeout))
  | some (.error e) => h.fail (.ofAcquire "acquisition failed" e)
  | some (.ok summary) => h.succeed (summaryLines summary (run.sinks.map writtenFile) format)

/-- Acquires waveforms into channel files. -/
def Host.acquire (h : Host) (a : AcquireArguments) (format : Format) : Outcome :=
  match h.begin a with
  | .error f => h.fail f
  | .ok (link, request, config) =>
    let (run, _) :=
      link.acquire config request h.label h.interrupt.moment a.files.factory h.folder
    h.conclude config format run

/-! ## 4. The other commands -/

/-- Fires the software trigger. -/
def Host.trigger (h : Host) (c : ConnectArguments) (timeout : String) (format : Format) : Outcome :=
  let result : Except Failure String := do
    let timeout ← readDuration timeout
    let link ← h.connect c
    (Readout.Command.softwareTrigger timeout link).1.mapError (.ofAcquire "trigger failed")
  match result with
  | .error f => h.fail f
  | .ok message => h.succeed (commandLines Control.Kind.softwareTrigger.name message format)

/-- Runs a simulated device. -/
def Host.simulate (h : Host) (a : SimulateArguments) (format : Format) : Outcome :=
  match listenAddress a.address h.names with
  | .error e => h.fail (.ofLink "bind failed" (.transport e))
  | .ok address =>
    let address := if address.port = 0 then { address with port := h.freePort } else address
    { h.succeed (listeningLines (Endpoint.ofListener address).text format) with
      serving := some (address, a.simulator, a.sessions) }

/-- Says what is in a channel file. -/
def Host.inspect (h : Host) (path : String) (samples : Nat) (format : Format) : Outcome :=
  if samples = 0 then h.fail ⟨.usage, "samples per waveform must be at least 1"⟩
  else
    match ChannelFile.read h.folder path samples with
    | .error (.fault f) => h.fail (.ofFault ("cannot read " ++ path) f)
    | .error .uncountable => { code := .crashed, folder := h.folder }
    | .ok waveforms => h.succeed ((Inspection.of path samples waveforms).lines format)

/-- Says which version this is. -/
def Host.version (h : Host) (extended : Bool) : Outcome :=
  h.succeed (if extended then h.build.lines else [versionLine])

/-! ## 5. Command lines -/

/-- What is said to a request for help. -/
def usage : List String :=
  ["Usage: " ++ programName ++ " [OPTIONS] <COMMAND>",
    "",
    "Commands:",
    "  acquire   Acquire waveforms from the spy buffers into per-channel files",
    "  trigger   Fire a software trigger",
    "  simulate  Run a simulated device",
    "  inspect   Summarize a channel file",
    "  version   Show version information"]

/-- Runs a command. -/
def Host.perform (h : Host) (format : Format) : Command → Outcome
  | .acquire a => h.acquire a format
  | .trigger c timeout => h.trigger c timeout format
  | .simulate a => h.simulate a format
  | .inspect path samples => h.inspect path samples format
  | .version extended => h.version extended

/-- Runs a command line. -/
def Host.run (h : Host) (args : List String) : Outcome :=
  match Request.read h.environment args with
  | .refused => { code := .arguments, folder := h.folder }
  | .help => h.succeed usage
  | .version => h.succeed [versionLine]
  | .run command format => h.perform (format.getD h.defaultFormat) command

end Readout.Cli
