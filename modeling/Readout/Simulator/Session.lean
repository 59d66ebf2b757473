/-
# Sessions of a simulated device

A session reads the client's messages one after the other and sends what the device answers to each.
It is over when the client says goodbye or hangs up, when reading or sending fails, and when the
device cannot hold what it should send.  `run` takes a session as far as it gets with what has
arrived.
-/
import Readout.Link.Server
import Readout.Simulator.Answer

namespace Readout

/-- How a session ended. -/
inductive SessionEnd where
  /-- The client left. -/
  | left (stats : SessionStats)
  /-- The link failed. -/
  | failed (error : LinkError)
  /-- The device did not survive a request. -/
  | crashed
  deriving DecidableEq, Repr

/-- A session of a simulated device. -/
structure SimulatorSession where
  simulator : Simulator
  link : ServerLink
  stats : SessionStats := {}
  /-- How the session ended, once it has. -/
  ended : Option SessionEnd := none
  deriving DecidableEq, Repr

namespace SimulatorSession

/-- The session at its end. -/
def finish (s : SimulatorSession) (how : SessionEnd) : SimulatorSession := { s with ended := some how }

/-- Sends messages, up to the first that fails. -/
def sendEach : List Bytes → SimulatorSession → SimulatorSession
  | [], s => s
  | message :: messages, s =>
    match s.link.send message with
    | (.error e, link) => { s with link := link }.finish (.failed e)
    | (.ok (), link) => sendEach messages { s with link := link }

/-- Does what a message asks for. -/
def respond (s : SimulatorSession) (message : Bytes) : SimulatorSession :=
  let answer := s.simulator.answer message s.stats
  let s := sendEach answer.messages { s with stats := answer.stats }
  if answer.crashes && s.ended.isNone then s.finish .crashed else s

/-- Reads and answers messages while there are any, in at most so many steps. -/
def runSteps : Nat → SimulatorSession → SimulatorSession
  | 0, s => s
  | fuel + 1, s =>
    if s.ended.isSome then s
    else
      match s.link.receive? with
      | none => s
      | some (.error e, link) => { s with link := link }.finish (.failed e)
      | some (.ok none, link) => { s with link := link.close }.finish (.left s.stats)
      | some (.ok (some message), link) => runSteps fuel ({ s with link := link }.respond message)

/-- Goes on as far as what has arrived allows.  Each step takes a frame or ends the session, so there
are no more steps than octets and reads, and one. -/
def run (s : SimulatorSession) : SimulatorSession := s.runSteps (s.link.connection.pending + 1)

end SimulatorSession

end Readout
