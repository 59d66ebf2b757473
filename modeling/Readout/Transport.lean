/-
# Failures of connections

What can go wrong when a connection is made, accepted or used.
-/
import Readout.Fault
import Readout.Endpoint

namespace Readout

/-- Why a connection could not be made or used. -/
inductive TransportError where
  /-- The endpoint's text is at fault. -/
  | invalidEndpoint (endpoint reason : String)
  /-- Nothing can listen at the address. -/
  | bind (address : String) (source : Fault)
  /-- No connection to the endpoint. -/
  | connect (address : String) (source : Fault)
  /-- No incoming connection. -/
  | accept (source : Fault)
  /-- A read or a write failed. -/
  | io (source : Fault)
  /-- The connection was shut down. -/
  | shutdown
  deriving DecidableEq, Repr

namespace TransportError

/-- The wording of a transport error. -/
def message : TransportError → String
  | invalidEndpoint endpoint reason => "invalid endpoint '" ++ endpoint ++ "': " ++ reason
  | bind address source => "failed to bind to " ++ address ++ ": " ++ source.text
  | connect address source => "failed to connect to " ++ address ++ ": " ++ source.text
  | accept source => "failed to accept connection: " ++ source.text
  | io source => "transport I/O error: " ++ source.text
  | shutdown => "transport shut down"

/-- The error for a text that is no endpoint. -/
def ofInvalid (i : Endpoint.Invalid) : TransportError :=
  invalidEndpoint i.endpoint i.defect.message

/-- The fault behind a transport error, or one with its wording. -/
def fault : TransportError → Fault
  | bind _ source | connect _ source | accept source | io source => source
  | e => Fault.other e.message

end TransportError

/-- The address that a text names to listen at. -/
def listenAddress (address : String) (names : List (String × IpAddress) := IpAddress.wellKnown) :
    Except TransportError SocketAddress :=
  (SocketAddress.resolve address.toList names).mapError (.bind address)

end Readout
