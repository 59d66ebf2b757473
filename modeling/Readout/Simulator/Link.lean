/-
# A link to a simulated device

Both ends of one connection: a client's link and the session that a simulated device has with it.
What one end sends is there for the other at once, and the device answers as soon as it can.

`connect` exchanges the greetings, `send` and `receive` make it a channel for commands, and `acquire`
runs an acquisition on it.  As the device's answers do not depend on when they are taken, an
acquisition meets all of them in order and then nothing more; what it leaves waits for the next.
-/
import Readout.Acquire.Rehearsal
import Readout.Simulator.Session
import Readout.Link.Call

namespace Readout

/-- A client's link to a simulated device. -/
structure SimulatedLink where
  client : ClientLink
  session : SimulatorSession
  deriving DecidableEq, Repr

namespace SimulatedLink

/-! ## 1. Making a link -/

/-- A device and a client come to terms on a new connection; no time passes. -/
def connect (simulator : Simulator) (identity : String) (config : LinkConfig) :
    Except LinkError SimulatedLink :=
  match Link.greet identity config.handshake (config.greeting .opened) with
  | (.error e, _) => .error e
  | (.ok (), client) =>
    let (accepted, _, client) := ({} : Listener).answer none client false
    match Link.finish identity config.handshake noTime client, accepted with
    | (.error e, _), _ => .error e
    | (.ok _, _), .error e => .error e
    | (.ok established, client), .ok link =>
      .ok ⟨.start established client config, { simulator := simulator, link := link }⟩

/-! ## 2. Messages -/

/-- The link after what was sent has arrived on both ends and the device has answered. -/
def settle (l : SimulatedLink) : SimulatedLink :=
  let (client, device) := carry l.client.connection l.session.link.connection
  let device := if l.client.closed then device.hangUp else device
  let session := { l.session with link := { l.session.link with connection := device } }.run
  let (device, client) := carry session.link.connection client
  let client := if session.ended.isSome then client.hangUp else client
  ⟨{ l.client with connection := client },
    { session with link := { session.link with connection := device } }⟩

/-- Sends a message, which the device answers. -/
def send (message : Bytes) (l : SimulatedLink) : Except LinkError Unit × SimulatedLink :=
  let (result, client) := l.client.pump.send message
  (result, { l with client := client }.settle)

/-- Waits for a message. -/
def receive (timeout : Duration) (l : SimulatedLink) : Except LinkError Bytes × SimulatedLink :=
  let (result, client) := l.client.receiveNext timeout
  (result, { l with client := client })

/-- Changes how many messages may wait. -/
def setCapacity (capacity : Nat) (l : SimulatedLink) : SimulatedLink :=
  { l with client := l.client.setCapacity capacity }

instance : MessageChannel SimulatedLink where
  send := send
  receive := receive
  setCapacity := setCapacity

/-- Takes everything that has arrived, in at most so many steps.  Gives it and what comes after it:
nothing, or an error. -/
def takeSteps : Nat → SimulatedLink → List Bytes × Arrival × SimulatedLink
  | 0, l => ([], .quiet, l)
  | fuel + 1, l =>
    match l.receive .zero with
    | (.ok message, l) =>
      let (messages, ending, l) := takeSteps fuel l
      (message :: messages, ending, l)
    | (.error (.timeout _), l) => ([], .quiet, l)
    | (.error e, l) => ([], .fails e, l)

/-- Takes everything that has arrived; each step but the last takes a message. -/
def takeAll (l : SimulatedLink) : List Bytes × Arrival × SimulatedLink :=
  l.takeSteps (l.client.queue.items.length + l.client.connection.pending + 1)

/-- Puts messages back that were taken but not used. -/
def putBack (l : SimulatedLink) (messages : List Bytes) : SimulatedLink :=
  { l with client := { l.client with
      queue := { l.client.queue with items := messages ++ l.client.queue.items } } }

/-! ## 3. Acquisitions -/

/-- What an acquisition meets when these messages have arrived. -/
def rehearsal (messages : List Bytes) (ending : Arrival) (cancelAt : Option Moment)
    (sent : Except LinkError Unit) : Rehearsal where
  cues := messages.map fun octets => { arrival := .message octets }
  ending := match ending with
    | .fails e => some e
    | _ => none
  moments := cancelAt.toList
  sendFault := match sent with
    | .ok () => none
    | .error e => some e

/-- The messages among what has not arrived. -/
def unused (left : List Arrival) : List Bytes :=
  left.filterMap fun
    | .message octets => some octets
    | _ => none

/-- Runs an acquisition on the link; chunks carry the label. -/
def acquire {S ω : Type} [SampleSink S ω] (l : SimulatedLink) (c : AcquisitionConfig)
    (r : AcquisitionRequest) (label : String) (cancelAt : Option Moment)
    (factory : SinkFactory S ω) (world : ω) : Run S ω × SimulatedLink :=
  let (sent, asked) := l.send (c.requestMessage r label)
  let (messages, ending, taken) := asked.takeAll
  let surroundings := (rehearsal messages ending cancelAt sent).surroundings c
  let run := Readout.acquire c r label surroundings factory world
  let after := run.effects.foldl
    (fun l effect => match effect with
      | .setsCapacity capacity => l.setCapacity capacity
      | .sends _ => (taken.putBack (unused run.left)).setCapacity l.client.queue.capacity
      | _ => l) l
  (run, after)

end SimulatedLink

end Readout
