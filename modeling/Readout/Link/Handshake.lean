/-
# The exchange of greetings

The client checks what it is about to say, greets, and waits for the answer; the device waits for the
greeting, checks it, and answers.  The first check that fails decides:

* `greet`, `finish` -- the two halves of the client's part, and `client` both in one;
* `serve` -- the device's part.  The device says what its settings hold without checking it.

The time that has gone by is looked at before each attempt to read: `elapsed k` at the `k`-th time.  The end
of the wait is a moment of the machine's clock, fixed when the wait begins, after a client has greeted and
after a device has checked its session.  A timeout that leads beyond the clock's last moment ends the program
there, whatever comes; timeouts that long are left out, and the time that has gone by stands for the moment.
-/
import Readout.Link.Hello
import Readout.Link.Connection

namespace Readout.Link

/-! ## 1. Settings and result -/

/-- Settings of the exchange. -/
structure HandshakeConfig where
  /-- How long the whole exchange may take. -/
  timeout : Duration := .ofSeconds 5
  protocol : String := "spybuf"
  version : String := "1.0"
  /-- The largest greeting. -/
  maxHello : Nat := 16 * 1024
  deriving DecidableEq, Repr

/-- What both sides know after the exchange. -/
structure Established where
  identity : String
  session : String
  /-- The version that the other side said. -/
  remoteVersion : String
  deriving DecidableEq, Repr

/-- A refusal as a link error. -/
def refuse {α : Type} : Except Refusal α → Except LinkError α
  | .ok a => .ok a
  | .error r => .error (.handshake r.message)

/-! ## 2. Sending and receiving greetings -/

/-- Sends a greeting. -/
def sendHello (c : Connection) (octets : Bytes) : Except LinkError Unit × Connection :=
  match c.send ⟨FrameKind.hello, octets⟩ with
  | (.ok (), c) => (.ok (), c)
  | (.error e, c) => (.error (.frame e), c)

/-- What a frame that came in place of a greeting means. -/
def helloPayload (config : HandshakeConfig) (frame : Frame) : Except Refusal Bytes :=
  if frame.kind ≠ FrameKind.hello then .error (.notAHello frame.kind)
  else if config.maxHello < frame.payload.length then
    .error (.helloTooLarge frame.payload.length config.maxHello)
  else .ok frame.payload

/-- Waits for a greeting, until the time is over.  A timeout of a single read only leads to the next
attempt; each attempt but the last uses up a read, so one more than the reads is fuel enough. -/
def awaitHello (config : HandshakeConfig) (elapsed : Nat → Duration) :
    (fuel attempt : Nat) → Connection → Except LinkError Bytes × Connection
  | 0, _, c => (.error (.timeout config.timeout), c)
  | fuel + 1, attempt, c =>
    if config.timeout ≤ elapsed attempt then (.error (.timeout config.timeout), c)
    else
      match c.receive? with
      | none => (.error (.timeout config.timeout), c)
      | some (.ok frame, c) => (refuse (helloPayload config frame), c)
      | some (.error .closed, c) => (refuse (.error .hungUp), c)
      | some (.error e, c) =>
        if e.isTimeout then awaitHello config elapsed fuel (attempt + 1) c
        else (.error (.frame e), c)

/-- Waits for a greeting. -/
def receiveHello (config : HandshakeConfig) (elapsed : Nat → Duration) (c : Connection) :
    Except LinkError Bytes × Connection :=
  awaitHello config elapsed (c.reads.length + 1) 0 c

/-! ## 3. The client -/

/-- What a client checks before it says anything. -/
def checkOwn (identity : String) (config : HandshakeConfig) : Except Refusal Unit := do
  checkIdentity identity
  checkProtocolName config.protocol
  checkVersionText config.version

/-- The client's first half: checks what it says, and says it. -/
def greet (identity : String) (config : HandshakeConfig) (c : Connection) :
    Except LinkError Unit × Connection :=
  match checkOwn identity config with
  | .error r => (.error (.handshake r.message), c)
  | .ok () => sendHello c (ClientHello.write ⟨config.protocol, config.version, identity⟩)

/-- What a client makes of the device's answer. -/
def acceptAnswer (identity : String) (config : HandshakeConfig) (octets : Bytes) :
    Except LinkError Established := do
  let answer ← (ServerHello.read octets).mapError LinkError.json
  refuse do
    checkProtocol config.protocol answer.protocol
    checkVersion config.version answer.version
    checkSession answer.session
    if answer.identity ≠ identity then throw (.otherIdentity answer.identity identity)
    return ⟨answer.identity, answer.session, answer.version⟩

/-- The client's second half: waits for the answer and checks it. -/
def finish (identity : String) (config : HandshakeConfig) (elapsed : Nat → Duration)
    (c : Connection) : Except LinkError Established × Connection :=
  match receiveHello config elapsed c with
  | (.error e, c) => (.error e, c)
  | (.ok octets, c) => (acceptAnswer identity config octets, c)

/-- The client's part of the exchange. -/
def client (identity : String) (config : HandshakeConfig) (elapsed : Nat → Duration)
    (c : Connection) : Except LinkError Established × Connection :=
  match greet identity config c with
  | (.error e, c) => (.error e, c)
  | (.ok (), c) => finish identity config elapsed c

/-! ## 4. The device -/

/-- What a device makes of a client's greeting. -/
def acceptGreeting (config : HandshakeConfig) (octets : Bytes) : Except LinkError ClientHello := do
  let greeting ← (ClientHello.read octets).mapError LinkError.json
  refuse do
    checkIdentity greeting.identity
    checkProtocol config.protocol greeting.protocol
    checkVersion config.version greeting.version
    return greeting

/-- The device's part of the exchange. -/
def serve (session : String) (config : HandshakeConfig) (elapsed : Nat → Duration)
    (c : Connection) : Except LinkError Established × Connection :=
  match checkSession session with
  | .error r => (.error (.handshake r.message), c)
  | .ok () =>
    match receiveHello config elapsed c with
    | (.error e, c) => (.error e, c)
    | (.ok octets, c) =>
      match acceptGreeting config octets with
      | .error e => (.error e, c)
      | .ok greeting =>
        let answer : ServerHello := ⟨config.protocol, config.version, greeting.identity, session⟩
        match sendHello c answer.write with
        | (.error e, c) => (.error e, c)
        | (.ok (), c) => (.ok ⟨greeting.identity, session, greeting.version⟩, c)

end Readout.Link
