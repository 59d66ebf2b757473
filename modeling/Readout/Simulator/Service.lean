/-
# A simulated device that serves one client after the other

A device accepts a client, answers it until it leaves, and turns to the next one: so many clients, or as
many as come.  A client that cannot be accepted, and a session that fails, do not keep it from going on.
A session that the device does not survive does, as there is no device any more.
-/
import Readout.Simulator.Session

namespace Readout

/-- A client that calls. -/
structure Caller where
  /-- The device's end of the connection, with what arrives on it. -/
  connection : Connection
  /-- The clock of the greetings. -/
  elapsed : Nat → Duration

/-- Whether there still is a device after a session. -/
def SessionEnd.survived : SessionEnd → Bool
  | .crashed => false
  | _ => true

namespace Simulator

/-- The session with a client that was accepted, as far as what has arrived allows. -/
def session (s : Simulator) (link : ServerLink) : SimulatorSession :=
  { simulator := s, link := link : SimulatorSession }.run

/-- Accepts a client and answers it.  Gives how the session ended, or `none` while it goes on. -/
def serveOne (s : Simulator) (l : Listener) (caller : Caller) : Option SessionEnd × Listener :=
  match l.accept none caller.elapsed caller.connection with
  | (.error e, _, l) => (some (.failed e), l)
  | (.ok link, _, l) => ((s.session link).ended, l)

/-- Serves so many clients, or all that call, and gives how their sessions ended.  The device does not
turn to the next client while a session goes on. -/
def serve (s : Simulator) (l : Listener) (sessions : Option Nat) : List Caller → List SessionEnd
  | [] => []
  | caller :: callers =>
    if sessions = some 0 then []
    else
      match s.serveOne l caller with
      | (none, _) => []
      | (some how, l) =>
        if how.survived then how :: s.serve l (sessions.map (· - 1)) callers else [how]

end Simulator

end Readout
