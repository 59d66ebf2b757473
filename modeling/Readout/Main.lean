/-
# The program

The outer layer: arguments, variables, files and sockets.  A device is talked to over TCP.  Whatever has
arrived from it so far is handed to the library, which says what to send, and whether it waits for
something more; this layer carries octets to and fro, keeps the time, and prints.

Channel files are written when an acquisition is over.
-/
import Readout.Acquire.Label
import Readout.Acquire.Ongoing
import Readout.Cli.Run
import Readout.Simulator.Service
import Readout.SystemFault
import Std.Async.DNS
import Std.Async.Signal
import Std.Async.TCP
import Std.Async.Timer

namespace Readout.Program

open Std.Async Cli

abbrev Socket := TCP.Socket.Client

/-! ## 1. Faults, times and addresses -/

/-- The number and the words of a failed operation. -/
def numberOf : IO.Error → Option (UInt32 × String)
  | .alreadyExists _ n d | .interrupted _ n d | .noFileOrDirectory _ n d
  | .invalidArgument _ n d | .permissionDenied _ n d | .resourceExhausted _ n d
  | .inappropriateType _ n d | .noSuchThing _ n d => some (n, d)
  | .otherError n d | .resourceBusy n d | .resourceVanished n d | .unsupportedOperation n d
  | .hardwareFault n d | .unsatisfiedConstraints n d | .illegalOperation n d
  | .protocolError n d | .timeExpired n d => some (n, d)
  | .unexpectedEof | .userError _ => none

/-- The fault behind a failed operation; sockets report the numbers with a minus sign. -/
def faultOf (e : IO.Error) : Fault :=
  match numberOf e with
  | some (n, words) => .ofNumber (if n < 0x80000000 then n.toNat else (0 - n).toNat) words
  | none => .other (toString e)

/-- The outcome of an operation that may fail. -/
def attempt {α : Type} (act : IO α) : IO (Except Fault α) := do
  match ← act.toBaseIO with
  | .ok a => return .ok a
  | .error e => return .error (faultOf e)

/-- What the clock shows. -/
def now : IO Duration := return ⟨← IO.monoNanosNow⟩

/-- A span in whole milliseconds, rounded up. -/
def milliseconds (d : Duration) : Std.Time.Millisecond.Offset :=
  .ofNat ((d.nanos + 999999) / 1000000)

/-- An address as the sockets take it. -/
def netAddress (a : SocketAddress) : Std.Net.SocketAddress :=
  match a.ip with
  | .v4 b c d e => .v4 ⟨.ofParts (.ofNat b) (.ofNat c) (.ofNat d) (.ofNat e), a.port⟩
  | .v6 groups =>
    let group (i : Nat) : UInt16 := .ofNat (groups.getD i 0)
    .v6 ⟨.ofParts (group 0) (group 1) (group 2) (group 3) (group 4) (group 5) (group 6) (group 7),
      a.port⟩

/-- The addresses of an endpoint. -/
def addressesOf (e : Endpoint) : IO (Except Fault (List Std.Net.SocketAddress)) := do
  match e.resolve [] with
  | .ok a => return .ok [netAddress a]
  | .error fault =>
    match ← attempt (DNS.getAddrInfo e.host "").block with
    | .error _ => return .error fault
    | .ok found => return .ok (found.toList.map fun
        | .v4 ip => .v4 ⟨ip, e.port⟩
        | .v6 ip => .v6 ⟨ip, e.port⟩)

/-! ## 2. Octets -/

/-- Sends what a connection has to send. -/
def flush (socket : Socket) (c : Connection) : IO (Except Fault Unit × Connection) := do
  let (octets, c) := c.takeSent
  if octets = [] then return (.ok (), c)
  return (← attempt (socket.send ⟨octets.toArray⟩).block, c)

/-- Waits for octets for a bounded time.  Gives the connection after what has come, or `none`. -/
def arrive (socket : Socket) (wait : Duration) (c : Connection) : IO (Option Connection) := do
  let sleep ← (Selector.sleep (milliseconds wait)).block
  let read : Async (Option (Option ByteArray)) := Selectable.one #[
    .case (socket.recvSelector 65536) fun r => return some r,
    .case sleep fun _ => return none]
  match ← attempt read.block with
  | .ok none => return none
  | .ok (some none) => return some c.hangUp
  | .ok (some (some octets)) => return some (c.arrive octets.toList)
  | .error fault => return some { c with reads := c.reads ++ [.fault fault] }

/-- Waits until a frame has come, or an error, or the time is over. -/
partial def awaitFrame (socket : Socket) (deadline : Duration) (c : Connection) : IO Connection := do
  let left := deadline.sub (← now)
  if c.receive?.isSome || left = .zero then return c
  match ← arrive socket left c with
  | some c => awaitFrame socket deadline c
  | none => awaitFrame socket deadline c

/-! ## 3. Links -/

/-- A link and the socket beneath it. -/
structure Live where
  socket : Socket
  link : ClientLink

/-- Connects to the first address that answers in time. -/
def connectTo (addresses : List Std.Net.SocketAddress) (wait : Duration) :
    IO (Except Fault Socket) := do
  let mut failure : Fault := .other "no addresses"
  for address in addresses do
    let socket ← TCP.Socket.Client.mk
    let connecting ← (socket.connect address).toIO
    let deadline := (← now).add wait
    while (← connecting.getState) != .finished && (← now).nanos < deadline.nanos do
      IO.sleep 1
    if (← connecting.getState) == .finished then
      match ← attempt connecting.block with
      | .ok () => return .ok socket
      | .error fault => failure := fault
    else failure := ⟨.timedOut, "connection timed out"⟩
  return .error failure

/-- Calls a device and exchanges greetings. -/
def call (endpoint identity : String) (config : LinkConfig) : IO (Except LinkError Live) := do
  match LinkConfig.endpointFor endpoint identity with
  | .error e => return .error e
  | .ok e =>
    let unreachable (fault : Fault) : IO (Except LinkError Live) :=
      return .error (.connect e.text (.connect e.text fault))
    match ← addressesOf e with
    | .error fault => unreachable fault
    | .ok addresses =>
      match ← connectTo addresses config.connectTimeout with
      | .error fault => unreachable fault
      | .ok socket =>
        match Link.greet identity config.handshake (config.greeting .opened) with
        | (.error e, _) => return .error e
        | (.ok (), c) =>
          match ← flush socket c with
          | (.error fault, _) => return .error (.frame (.io fault))
          | (.ok (), c) =>
            let c ← awaitFrame socket ((← now).add config.connectTimeout) c
            match Link.finish identity config.handshake noTime c with
            | (.error e, _) => return .error e
            | (.ok established, c) => return .ok ⟨socket, .start established c config⟩

/-- Sends a message. -/
def Live.send (l : Live) (message : Bytes) : IO (Except LinkError Unit × Live) := do
  let (result, link) := l.link.send message
  let (sent, c) ← flush l.socket link.connection
  let l := { l with link := { link with connection := c } }
  match sent with
  | .error fault => return (.error (.send (.io fault)), l)
  | .ok () => return (result, l)

/-- Waits for a message until a deadline. -/
partial def Live.receive (l : Live) (wait deadline : Duration) : IO (Except LinkError Bytes × Live) := do
  let (result, link) := l.link.receiveNext wait
  let l := { l with link := link }
  match result with
  | .error (.timeout _) =>
    let left := deadline.sub (← now)
    if left = .zero then return (result, l)
    match ← arrive l.socket left link.connection with
    | some c => receive { l with link := { link with connection := c } } wait deadline
    | none => return (result, l)
  | _ => return (result, l)

/-- What comes when a message is asked for. -/
def Live.next (l : Live) (wait : Duration) : IO (Arrival × Live) := do
  match ← l.receive wait ((← now).add wait) with
  | (.ok message, l) => return (.message message, l)
  | (.error (.timeout _), l) => return (.quiet, l)
  | (.error e, l) => return (.fails e, l)

/-- Says goodbye, whether or not it is heard. -/
def Live.close (l : Live) : IO Unit := do
  discard <| flush l.socket l.link.close.connection
  discard <| attempt l.socket.shutdown.block

/-! ## 4. Commands on a link -/

/-- Calls the device that is asked for. -/
def callFor (c : ConnectArguments) : IO (Except Failure Live) := do
  match linkConfig c with
  | .error f => return .error f
  | .ok config => return (← call c.endpoint c.identity config).mapError (.ofLink "connect failed")

/-- Does what was asked of a channel, and gives the error of a message that could not be sent. -/
def Live.perform (l : Live) : List ChannelAct → IO (Option LinkError × Live)
  | [] => return (none, l)
  | .capacitySet n :: acts => perform { l with link := l.link.setCapacity n } acts
  | .sendFailed :: acts => l.perform acts
  | .sent message :: acts => do
    match ← l.send message with
    | (.error e, l) => return (some e, l)
    | (.ok (), l) => l.perform acts

/-- Fires the software trigger. -/
def trigger (h : Host) (c : ConnectArguments) (timeout : String) (format : Format) : IO Outcome := do
  match readDuration timeout with
  | .error f => return h.fail f
  | .ok wait =>
    match ← callFor c with
    | .error f => return h.fail f
    | .ok live =>
      let (_, asked) := Command.softwareTrigger wait ({} : ScriptedChannel)
      let (failure, live) ← live.perform asked.acts.reverse
      let (arrival, live) ← match failure with
        | some _ => pure (.quiet, live)
        | none => live.next wait
      live.close
      let met : ScriptedChannel := { arrivals := [arrival], sendFaults := [failure] }
      match (Command.softwareTrigger wait met).1 with
      | .error e => return h.fail (.ofAcquire "trigger failed" e)
      | .ok message =>
        return h.succeed (commandLines Control.Kind.softwareTrigger.name message format)

/-- What stays the same during an acquisition. -/
structure Acquiring where
  config : AcquisitionConfig
  request : AcquisitionRequest
  label : String
  files : FileSinks
  folder : Folder
  /-- Whether the user has given up. -/
  givenUp : IO Bool
  start : Duration

/-- The run as far as it is known. -/
def Acquiring.run (a : Acquiring) (o : Ongoing) : Run FileSink Folder :=
  acquire a.config a.request a.label o.surroundings a.files.factory a.folder

/-- Asks for messages until there are so many, or one does not come. -/
partial def Acquiring.collect (a : Acquiring) (count : Nat) (o : Ongoing) (l : Live) :
    IO (Ongoing × Live) := do
  let (arrival, l) ← l.next (a.config.replyTimeout.min AcquisitionConfig.maxWait)
  let o := if ← a.givenUp then o.givesUp else o
  let o := o.meets arrival ((← now).sub a.start)
  match arrival with
  | .message _ => if o.met.length < count then a.collect count o l else return (o, l)
  | _ => return (o, l)

/-- Goes on until the run is over.  It is looked at when something did not come, and when twice as
much has come as the last time. -/
partial def Acquiring.finish (a : Acquiring) (o : Ongoing) (l : Live) :
    IO (Run FileSink Folder × Live) := do
  let run := a.run o
  if run.outcome.isSome then return (run, l)
  let (o, l) ← a.collect (2 * o.met.length + 1) o l
  a.finish o l

/-- The run of an acquisition on a link. -/
def Acquiring.onLink (a : Acquiring) (l : Live) : IO (Run FileSink Folder × Live) := do
  let o : Ongoing := { cancelAt := if ← a.givenUp then some .before else none }
  let asked := a.run o
  if asked.outcome.isSome then return (asked, l)
  let (failure, l) ← l.perform asked.acts
  a.finish { o with sent := (← now).sub a.start, sendFault := failure } l

/-- The channel files that are appended to, as far as they are there. -/
def loadFiles (files : FileSinks) (channels : List UInt32) : IO Folder := do
  let mut found := []
  if files.append then
    for channel in channels do
      let path := files.pathFor channel
      if let .ok content ← attempt (IO.FS.readBinFile path) then
        found := (path, content.toList) :: found
  return .ofFiles found

/-- Writes the channel files of a run, up to the first that fails. -/
def saveFiles (run : Run FileSink Folder) : IO (Option (UInt32 × Fault)) := do
  for (channel, sink) in run.sinks do
    if let .ok content := run.world.read sink.path then
      let saved ← attempt do
        if let some folder := Path.parent? sink.path then
          if folder ≠ "" then IO.FS.createDirAll folder
        IO.FS.writeBinFile sink.path ⟨content.toArray⟩
      if let .error fault := saved then return some (channel, fault)
  return none

/-- Lets the user give up with an interrupt. -/
def watchInterrupt : IO (IO Bool) := do
  let signal ← Signal.Waiter.mk .sigint false
  let waiting ← signal.wait
  return return (← waiting.getState) == .finished

/-- Acquires waveforms into channel files. -/
def acquireFiles (h : Host) (a : AcquireArguments) (format : Format) : IO Outcome := do
  match prepare a with
  | .error f => return h.fail f
  | .ok (request, config) =>
    let givenUp ← watchInterrupt
    match ← callFor a.connect with
    | .error f => return h.fail f
    | .ok live =>
      let acquiring : Acquiring := {
        config := config, request := request, label := h.label, files := a.files
        folder := ← loadFiles a.files request.channels, givenUp := givenUp, start := ← now }
      let (run, live) ← acquiring.onLink live
      live.close
      match ← saveFiles run with
      | some (channel, fault) => return h.fail (.ofAcquire "acquisition failed" (.sink channel fault))
      | none => return h.conclude config format run

/-! ## 5. Simulated devices -/

/-- Accepts a client once its greeting has come. -/
def acceptClient (socket : Socket) (deadline : Duration) (listener : Listener)
    (c : Connection) : IO (Except LinkError ServerLink × Connection × Listener) := do
  let c ← awaitFrame socket deadline c
  return listener.accept none noTime c

/-- Answers a client until it leaves, and gives how the session ended. -/
partial def serveClient (socket : Socket) (s : SimulatorSession) : IO SessionEnd := do
  let s := s.run
  match ← flush socket s.link.connection with
  | (.error fault, _) => return s.ended.getD (.failed (.send (.io fault)))
  | (.ok (), c) =>
    if let some how := s.ended then return how
    match ← arrive socket (.ofSeconds 1) c with
    | some c => serveClient socket { s with link := { s.link with connection := c } }
    | none => serveClient socket { s with link := { s.link with connection := c } }

/-- Serves clients one after the other, so many or without end, and says whether the device survived
them. -/
partial def serveClients (server : TCP.Socket.Server) (simulator : Simulator) (listener : Listener)
    (sessions : Option Nat) : IO Bool := do
  if sessions = some 0 then return true
  let more := sessions.map (· - 1)
  match ← attempt server.accept.block with
  | .error _ => serveClients server simulator listener more
  | .ok socket =>
    let deadline := (← now).add listener.config.handshake.timeout
    let start := listener.config.greeting .opened
    let (accepted, c, listener) ← acceptClient socket deadline listener start
    let how ← match accepted with
      | .error e =>
        discard <| flush socket c
        pure (.failed e)
      | .ok link => serveClient socket { simulator := simulator, link := link }
    discard <| attempt socket.shutdown.block
    if how.survived then serveClients server simulator listener more else return false

/-- Listens at an address, and says at which port. -/
def listen (address : SocketAddress) : IO (Except Fault (TCP.Socket.Server × UInt16)) := attempt do
  let server ← TCP.Socket.Server.mk
  server.bind (netAddress address)
  server.listen 128
  return (server, (← server.getSockName).port)

/-! ## 6. The command line -/

/-- Prints what a command came to, and gives its code. -/
def report (o : Outcome) : IO UInt32 := do
  for line in o.lines do
    IO.println line
  (← IO.getStdout).flush
  if let some message := o.error then
    IO.eprintln ("error: " ++ message)
  return o.code.number.toUInt32

/-- Runs a simulated device. -/
def simulate (h : Host) (a : SimulateArguments) (format : Format) : IO UInt32 := do
  match listenAddress a.address h.names with
  | .error _ => report (h.simulate a format)
  | .ok address =>
    match ← listen address with
    | .error fault =>
      report (h.fail (.ofLink "bind failed" (.transport (.bind a.address fault))))
    | .ok (server, port) =>
      let h := { h with freePort := port }
      let code ← report (h.simulate a format)
      let survived ← serveClients server a.simulator {} a.sessions
      return if survived then code else ExitCode.crashed.number.toUInt32

/-- Says what is in a channel file. -/
def inspect (h : Host) (path : String) (samples : Nat) (format : Format) : IO Outcome := do
  match ← attempt (IO.FS.readBinFile path) with
  | .ok content =>
    let h := { h with folder := .ofFiles [(path, content.toList)] }
    return h.inspect path samples format
  | .error fault =>
    if samples = 0 then return h.inspect path samples format
    else return h.fail (.ofFault ("cannot read " ++ path) fault)

/-- The variables that count. -/
def environment : IO Environment := do
  ["SPYBUF_ENDPOINT", "SPYBUF_IDENTITY"].filterMapM fun name => do
    return (← IO.getEnv name).map fun value => (name, value)

/-- What the program runs on. -/
def host : IO Host := do
  return {
    environment := ← environment
    label := Label.ofOctets (← IO.getRandomBytes 16).toList
    freePort := 0
    terminal := ← (← IO.getStdout).isTty
    build := ⟨"x86_64-unknown-linux-gnu", "linux", "x86_64"⟩ }

/-- Runs a command line. -/
def run (args : List String) : IO UInt32 := do
  let h ← host
  match Request.read h.environment args with
  | .run command format =>
    let format := format.getD h.defaultFormat
    match command with
    | .acquire a => report (← acquireFiles h a format)
    | .trigger c timeout => report (← trigger h c timeout format)
    | .simulate a => simulate h a format
    | .inspect path samples => report (← inspect h path samples format)
    | .version _ => report (h.run args)
  | _ => report (h.run args)

end Readout.Program

/-- The program. -/
def main (args : List String) : IO UInt32 := Readout.Program.run args
