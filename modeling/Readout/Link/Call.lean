/-
# Calls between a side under test and a peer

How a conversation with a scripted peer begins.  A peer that stands for a client calls a listener, and
either greets or sends any octets; a peer that stands for a device is called, and is silent, answers
the first frame with any greeting, or takes part in the exchange properly.

No time passes.  What one end sends is there for the other at once.
-/
import Readout.Link.Peer

namespace Readout

open Link (HandshakeConfig Established)

/-- The clock of an exchange in which no time passes. -/
def noTime : Nat → Duration := fun _ => .zero

namespace Peer

/-- The peer after the other end has hung up. -/
def left (p : Peer) : Peer := { p with connection := p.connection.hangUp }.run

end Peer

/-! ## 1. Peers that call -/

/-- How a peer opens the conversation. -/
inductive Opening where
  /-- It greets as a client does. -/
  | greets (identity : String) (config : HandshakeConfig)
  /-- It sends octets, whatever they are. -/
  | sends (octets : Bytes)
  deriving DecidableEq, Repr

/-- What a peer's call comes to. -/
structure Call where
  /-- What the listener makes of it. -/
  accepted : Except LinkError ServerLink
  listener : Listener
  /-- What the peer makes of the answer, if it greeted. -/
  greeted : Option (Except LinkError Established)
  peer : Peer

/-- Lets the listener accept what a peer's end has sent. -/
def Listener.answer (l : Listener) (session : Option String) (peer : Connection) (gone : Bool) :
    Except LinkError ServerLink × Listener × Connection :=
  let (peer, own) := carry peer .opened
  let (accepted, own, l) := l.accept session noTime (if gone then own.hangUp else own)
  let (own, peer) := carry own peer
  match accepted with
  | .ok link => (.ok { link with connection := own }, l, peer)
  | .error e => (.error e, l, peer.hangUp)

/-- Lets a peer call, which then follows its script. -/
def Listener.called (l : Listener) (session : Option String) (opening : Opening)
    (script : List PeerStep) (hangsUp : Bool) : Call :=
  match opening with
  | .sends octets =>
    let peer : Peer :=
      { connection := .opened, script := .send octets :: script, hangsUp := hangsUp }
    let peer := peer.run
    let (accepted, l, c) := l.answer session peer.connection peer.gone
    ⟨accepted, l, none, { peer with connection := c }⟩
  | .greets identity config =>
    match Link.greet identity config .opened with
    | (.error e, c) =>
      let (accepted, l, c) := l.answer session c true
      ⟨accepted, l, some (.error e), { connection := c, gone := true }⟩
    | (.ok (), c) =>
      let (accepted, l, c) := l.answer session c false
      match Link.finish identity config noTime c with
      | (.error e, c) => ⟨accepted, l, some (.error e), { connection := c, gone := true }⟩
      | (.ok e, c) =>
        ⟨accepted, l, some (.ok e), { connection := c, script := script, hangsUp := hangsUp }⟩

/-- A device's link and its peer after the octets on the way have arrived. -/
def settleDevice (l : ServerLink) (p : Peer) : ServerLink × Peer :=
  let p := p.run
  let (pc, lc) := carry p.connection l.connection
  let lc := if p.gone then lc.hangUp else lc
  let (lc, pc) := carry lc pc
  ({ l with connection := lc }, { p with connection := pc })

/-! ## 2. Peers that are called -/

/-- How a peer takes a call. -/
inductive Welcome where
  /-- It says nothing of its own accord. -/
  | silent
  /-- It waits for one frame and answers with a greeting of these octets. -/
  | answers (greeting : Bytes)
  /-- It takes part in the exchange as a device does. -/
  | serves (session : String) (config : HandshakeConfig)
  deriving DecidableEq, Repr

/-- What a call to a peer comes to. -/
structure Visit where
  /-- The client's link. -/
  link : Except LinkError ClientLink
  /-- What the peer makes of the greeting, if it looks at it. -/
  welcomed : Option (Except LinkError Established)
  peer : Peer

/-- Puts one frame on a peer's connection. -/
def Peer.sendFrame (p : Peer) (frame : Frame) : Peer :=
  { p with connection := (p.connection.send frame).2 }

/-- Lets a peer that is called do its part of the greetings, and what its script says after it. -/
def Peer.welcome (p : Peer) : Welcome → Option (Except LinkError Established) × Peer
  | .silent => (none, p.run)
  | .answers greeting =>
    let waiting := { p with script := [.await], hangsUp := false }.run
    let answered := waiting.sendFrame ⟨FrameKind.hello, greeting⟩
    (none, { answered with script := p.script, hangsUp := p.hangsUp, seen := [] }.run)
  | .serves session config =>
    match Link.serve session config noTime p.connection with
    | (.error e, c) => (some (.error e), { p with connection := c, gone := true })
    | (.ok e, c) => (some (.ok e), { p with connection := c }.run)

/-- Calls a peer. -/
def LinkConfig.visit (config : LinkConfig) (identity : String) (welcome : Welcome) (peer : Peer) :
    Visit :=
  match Link.greet identity config.handshake (config.greeting .opened) with
  | (.error e, _) => ⟨.error e, none, peer.left⟩
  | (.ok (), c) =>
    let (c, pc) := carry c peer.connection
    let (welcomed, peer) := { peer with connection := pc }.welcome welcome
    let (pc, c) := carry peer.connection c
    let peer := { peer with connection := pc }
    match Link.finish identity config.handshake noTime (if peer.gone then c.hangUp else c) with
    | (.error e, _) => ⟨.error e, welcomed, peer.left⟩
    | (.ok e, c) => ⟨.ok (.start e c config), welcomed, peer⟩

end Readout
