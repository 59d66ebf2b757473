/-
# The device's side of a link

A listener accepts clients one after the other and labels their sessions: `session-1`, `session-2`
and so on, unless a label is given.  An accepted link receives messages until the client says goodbye
or hangs up, and after that there are none; it sends nothing then.
-/
import Readout.Link.Client

namespace Readout

/-! ## 1. Accepting -/

/-- A device that accepts clients. -/
structure Listener where
  config : LinkConfig := {}
  /-- The number of the next session that is not given a label. -/
  nextSession : Nat := 1
  deriving DecidableEq, Repr

/-- The device's side of a link. -/
structure ServerLink where
  identity : String
  session : String
  connection : Connection
  /-- Whether the client is gone, or this side has closed the link. -/
  closed : Bool := false
  deriving DecidableEq, Repr

namespace Listener

/-- The label of the next session, and the listener that has given it. -/
def label (l : Listener) : Option String → String × Listener
  | some given => (given, l)
  | none =>
    ("session-" ++ toString l.nextSession, { l with nextSession := l.nextSession + 1 })

/-- Accepts the client on a connection.  A session is labelled even if nothing comes of it; settings
that allow a read or a write no time at all are refused before the greetings. -/
def accept (l : Listener) (session : Option String) (elapsed : Nat → Duration) (c : Connection) :
    Except LinkError ServerLink × Connection × Listener :=
  let (session, l) := l.label session
  if l.config.leavesNoTime then (.error (.frame (.io .noWait)), c, l)
  else
    match Link.serve session l.config.handshake elapsed (l.config.greeting c) with
    | (.error e, c) => (.error e, c, l)
    | (.ok e, c) =>
      let c := c.withLimit l.config.maxPayload
      (.ok { identity := e.identity, session := e.session, connection := c }, c, l)

end Listener

/-! ## 2. Talking to a client -/

namespace ServerLink

/-- Reads frames until a message, an end or an error, in at most so many steps; `none` while there is
nothing of these. -/
def receiveSteps : Nat → ServerLink → Option (Except LinkError (Option Bytes) × ServerLink)
  | 0, _ => none
  | fuel + 1, l =>
    if l.closed then some (.ok none, l)
    else
      match l.connection.receive? with
      | none => none
      | some (.error .closed, c) => some (.ok none, { l with connection := c, closed := true })
      | some (.error e, c) => some (.error (.frame e), { l with connection := c })
      | some (.ok frame, c) =>
        if frame.kind = FrameKind.message then
          some (.ok (some frame.payload), { l with connection := c })
        else if frame.kind = FrameKind.goodbye then
          some (.ok none, { l with connection := c, closed := true })
        else receiveSteps fuel { l with connection := c }

/-- The next message, or `none` once the client is gone; nothing while the client is silent. -/
def receive? (l : ServerLink) : Option (Except LinkError (Option Bytes) × ServerLink) :=
  l.receiveSteps (l.connection.pending + 1)

/-- Sends one message. -/
def send (l : ServerLink) (message : Bytes) : Except LinkError Unit × ServerLink :=
  if l.closed then (.error (.closed "client is gone"), l)
  else
    match l.connection.send ⟨FrameKind.message, message⟩ with
    | (.ok (), c) => (.ok (), { l with connection := c })
    | (.error e, c) => (.error (.send e), { l with connection := c })

/-- Says goodbye, whether or not it is heard, and closes the link; nothing is said on a closed one. -/
def close (l : ServerLink) : ServerLink :=
  if l.closed then l
  else
    let (_, c) := l.connection.send ⟨FrameKind.goodbye, []⟩
    { l with connection := c, closed := true }

end ServerLink

end Readout
