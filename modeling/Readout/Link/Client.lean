/-
# The client's side of a link

After the greetings the client's side reads frames as they come and puts the messages into its queue,
from which they are taken one by one.  `pump?` is one step of that: it reads one frame, and waits if
there is none or if there is no room for the message.  A goodbye, the end of the connection and any
other failure end it, and close the queue with a reason that says so.

Messages go out directly.  A link that is closed on either side sends nothing.
-/
import Readout.Link.Handshake
import Readout.Link.Inbound
import Readout.Link.Channel

namespace Readout

open Link (HandshakeConfig Established)

/-! ## 1. Settings -/

/-- Settings of a link. -/
structure LinkConfig where
  /-- How long the connection and the greetings may take, each. -/
  connectTimeout : Duration := .ofSeconds 5
  /-- How long one write may take. -/
  writeTimeout : Option Duration := some (.ofSeconds 30)
  /-- The capacity of the queue until another is set. -/
  inboundCapacity : Nat := 1000
  /-- The limit on messages. -/
  maxPayload : Nat := Frame.defaultLimit
  protocol : String := "spybuf"
  version : String := "1.0"
  deriving DecidableEq, Repr

/-- The settings of the greetings that a link's settings imply. -/
def LinkConfig.handshake (c : LinkConfig) : HandshakeConfig :=
  { timeout := c.connectTimeout, protocol := c.protocol, version := c.version }

/-- Whether the settings allow a read during the greetings, or a write, no time at all. -/
def LinkConfig.leavesNoTime (c : LinkConfig) : Bool :=
  c.connectTimeout == .zero || c.writeTimeout == some .zero

/-! ## 2. Links -/

/-- The client's side of a link. -/
structure ClientLink where
  identity : String
  session : String
  connection : Connection
  queue : InboundQueue
  /-- Whether frames are still read. -/
  pumping : Bool := true
  /-- Whether this side has closed the link. -/
  closed : Bool := false
  deriving DecidableEq, Repr

namespace ClientLink

/-- Why a link is closed that this side closed. -/
def closedHere : String := "link closed locally"

/-- Why a link is closed whose connection ended. -/
def hungUp : String := "connection closed by peer"

/-- Why a link is closed that the other side closed, saying so. -/
def goodbyeReason (payload : Bytes) : String :=
  if payload = [] then "peer closed the link"
  else "peer closed the link: " ++ Text.Utf8.decodeLossy payload

/-- Why a link is closed that could not read a frame. -/
def failedReason : FrameError → String
  | .closed => hungUp
  | e => "receive failed: " ++ e.message

/-- A link whose sides have come to terms. -/
def start (e : Established) (c : Connection) (config : LinkConfig) : ClientLink where
  identity := e.identity
  session := e.session
  connection := c.withLimit config.maxPayload
  queue := .create config.inboundCapacity

/-- The link after its queue was closed and reading has stopped. -/
def stop (l : ClientLink) (reason : String) : ClientLink :=
  { l with queue := l.queue.close reason, pumping := false }

/-- Reads one frame and does what it asks; `none` while there is no frame, or no room for the message,
or reading has stopped. -/
def pump? (l : ClientLink) : Option ClientLink :=
  if !l.pumping then none
  else
    match l.connection.receive? with
    | none => none
    | some (.error e, c) => some ({ l with connection := c }.stop (failedReason e))
    | some (.ok frame, c) =>
      if frame.kind = FrameKind.message then
        match l.queue.push? frame.payload with
        | none => none
        | some (true, q) => some { l with connection := c, queue := q }
        | some (false, q) => some { l with connection := c, queue := q, pumping := false }
      else if frame.kind = FrameKind.goodbye then
        some ({ l with connection := c }.stop (goodbyeReason frame.payload))
      else some { l with connection := c }

/-- Reads frames while it can, in at most so many steps. -/
def pumpSteps : Nat → ClientLink → ClientLink
  | 0, l => l
  | fuel + 1, l =>
    match l.pump? with
    | none => l
    | some l => pumpSteps fuel l

/-- Reads frames while it can.  Each step takes a frame or stops the reading, so there are no more
steps than octets and reads, and one. -/
def pump (l : ClientLink) : ClientLink := l.pumpSteps (l.connection.pending + 1)

/-- Sends one message. -/
def send (l : ClientLink) (message : Bytes) : Except LinkError Unit × ClientLink :=
  if l.closed then (.error (.closed closedHere), l)
  else
    match l.queue.closed with
    | some reason => (.error (.closed reason), l)
    | none =>
      match l.connection.send ⟨FrameKind.message, message⟩ with
      | (.ok (), c) => (.ok (), { l with connection := c })
      | (.error e, c) => (.error (.send e), { l with connection := c })

/-- Takes the oldest message from the queue. -/
def receive (timeout : Duration) (l : ClientLink) : Except LinkError Bytes × ClientLink :=
  match l.queue.pop with
  | (.message m, q) => (.ok m, { l with queue := q })
  | (.timedOut, q) => (.error (.timeout timeout), { l with queue := q })
  | (.closed reason, q) => (.error (.closed reason), { l with queue := q })

/-- Reads what has come, and takes the oldest message. -/
def receiveNext (timeout : Duration) (l : ClientLink) : Except LinkError Bytes × ClientLink :=
  l.pump.receive timeout

/-- Changes how many messages may wait. -/
def setCapacity (l : ClientLink) (capacity : Nat) : ClientLink :=
  { l with queue := l.queue.setCapacity capacity }

instance : MessageChannel ClientLink where
  send message l := l.send message
  receive := receiveNext
  setCapacity capacity l := l.setCapacity capacity

/-- Says goodbye, whether or not it is heard, and closes the link; once only. -/
def close (l : ClientLink) : ClientLink :=
  if l.closed then l
  else
    let (_, c) := l.connection.send ⟨FrameKind.goodbye, []⟩
    { { l with connection := c }.stop closedHere with closed := true }

end ClientLink

/-! ## 3. Making a link -/

/-- What is checked before the network is used: the identity and the endpoint. -/
def LinkConfig.endpointFor (endpoint identity : String) : Except LinkError Endpoint := do
  Link.refuse (Link.checkIdentity identity)
  match Endpoint.parse endpoint with
  | .ok e => return e
  | .error i => throw (.invalidEndpoint i.endpoint i.defect.message)

/-- A connection that is ready for the greetings. -/
def LinkConfig.greeting (config : LinkConfig) (c : Connection) : Connection :=
  c.withLimit config.handshake.maxHello

end Readout
