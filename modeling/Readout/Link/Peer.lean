/-
# Peers that follow a script

A peer is the other end of a connection under test: it sends prepared octets, waits for single frames
where its script says so, and at the end either hangs up or goes on reading until the other end hangs
up.  `run` takes it as far as it gets with what has arrived; `settle` lets a link and its peer talk
until both wait.
-/
import Readout.Link.Server

namespace Readout

/-! ## 1. Peers -/

/-- A step of a peer's script. -/
inductive PeerStep where
  /-- Sends octets as they are. -/
  | send (octets : Bytes)
  /-- Waits for one frame. -/
  | await
  deriving DecidableEq, Repr

/-- The other end of a connection. -/
structure Peer where
  connection : Connection := .opened
  script : List PeerStep := []
  /-- Whether the peer hangs up after its script, rather than reading on. -/
  hangsUp : Bool := false
  /-- The frames read so far, the latest first. -/
  seen : List Frame := []
  /-- Whether the peer has hung up. -/
  gone : Bool := false
  deriving DecidableEq, Repr

namespace Peer

/-- Puts octets on the connection as they are. -/
def put (p : Peer) (octets : Bytes) : Peer :=
  { p with
    connection := { p.connection with device := (p.connection.device.put octets).2 } }

/-- Reads frames while there are any, in at most so many steps. -/
def readOn : Nat → Peer → Peer
  | 0, p => p
  | fuel + 1, p =>
    match p.connection.receive? with
    | some (.ok frame, c) => readOn fuel { p with connection := c, seen := frame :: p.seen }
    | _ => p

/-- Follows the script as far as what has arrived allows. -/
def follow : List PeerStep → Peer → Peer
  | [], p =>
    if p.hangsUp then { p with script := [], gone := true }
    else { p with script := [] }.readOn (p.connection.pending + 1)
  | .send octets :: steps, p => follow steps (p.put octets)
  | .await :: steps, p =>
    match p.connection.receive? with
    | none => { p with script := .await :: steps }
    | some (.ok frame, c) => follow steps { p with connection := c, seen := frame :: p.seen }
    | some (.error _, c) => { p with connection := c, script := steps, gone := true }

/-- Goes on as far as what has arrived allows. -/
def run (p : Peer) : Peer := if p.gone then p else follow p.script p

end Peer

/-! ## 2. A connection between two ends -/

/-- Carries what one end has sent over to the other. -/
def carry (source target : Connection) : Connection × Connection :=
  let (octets, source) := source.takeSent
  (source, target.arrive octets)

/-- A link and its peer after the octets on the way have arrived and the peer has done what it can. -/
def settle (l : ClientLink) (p : Peer) : ClientLink × Peer :=
  let (lc, pc) := carry l.connection p.connection
  let p := { p with connection := if l.closed then pc.hangUp else pc }.run
  let (pc, lc) := carry p.connection lc
  let lc := if p.gone then lc.hangUp else lc
  ({ l with connection := lc }.pump, { p with connection := pc })

end Readout
