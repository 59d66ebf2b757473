/-
# Endpoints: where a device listens

An endpoint is a host and a port, in text `tcp://host:port`.  The scheme may be left out, and a host
with colons stands in brackets.  `Endpoint.parse` trims the text first and names the first defect it
meets; an error keeps the text as it was given.
-/
import Readout.SocketAddress
import Readout.Text.Blank

namespace Readout

/-- Where a device listens. -/
structure Endpoint where
  /-- A name or an address literal, without brackets. -/
  host : String
  port : UInt16
  deriving DecidableEq, Repr, Inhabited

namespace Endpoint

/-! ## 1. What can be wrong -/

/-- Why a text is no endpoint. -/
inductive Defect where
  | unsupportedScheme (scheme : String)
  | unterminatedLiteral
  | missingPort
  | bareLiteral
  | missingHost
  | hostCharacters
  | badPort (port : String)
  | portZero
  deriving DecidableEq, Repr

/-- The wording of a defect. -/
def Defect.message : Defect → String
  | unsupportedScheme scheme => "unsupported scheme '" ++ scheme ++ "'"
  | unterminatedLiteral => "unterminated IPv6 literal"
  | missingPort => "missing port"
  | bareLiteral => "IPv6 literals must be bracketed"
  | missingHost => "missing host"
  | hostCharacters => "host contains invalid characters"
  | badPort port => "invalid port '" ++ port ++ "'"
  | portZero => "port must be in 1..=65535"

/-- The scheme in front of an endpoint. -/
def scheme : String := "tcp://"

/-- The port that devices listen at when none is said. -/
def defaultPort : UInt16 := 9000

/-! ## 2. Reading -/

/-- The text up to and with the first `://`, and the text after it. -/
def cutScheme : List Char → Option (List Char × List Char)
  | [] => none
  | c :: cs =>
    match c :: cs with
    | ':' :: '/' :: '/' :: rest => some ([':', '/', '/'], rest)
    | _ => (cutScheme cs).map fun (front, rest) => (c :: front, rest)

/-- The text without its scheme. -/
def afterScheme (cs : List Char) : Except Defect (List Char) :=
  match cutScheme cs with
  | none => .ok cs
  | some (front, rest) =>
    if front.map Char.toLower = scheme.toList then .ok rest
    else .error (.unsupportedScheme (String.ofList front))

/-- The host and the port's text. -/
def hostAndPort (cs : List Char) : Except Defect (List Char × List Char) :=
  match cs with
  | '[' :: inner =>
    match inner.dropWhile (· != ']') with
    | [] => .error .unterminatedLiteral
    | _ :: ':' :: port => .ok (inner.takeWhile (· != ']'), port)
    | _ => .error .missingPort
  | _ =>
    match SocketAddress.cutLast ':' cs with
    | none => .error .missingPort
    | some (host, port) => if ':' ∈ host then .error .bareLiteral else .ok (host, port)

/-- Refuses an empty host, and one with blanks or slashes. -/
def checkHost (host : List Char) : Except Defect Unit :=
  if host = [] then .error .missingHost
  else if host.any fun c => Text.isBlank c || c == '/' then .error .hostCharacters
  else .ok ()

/-- Refuses a port that is no number up to 65535, and zero. -/
def readPort (port : List Char) : Except Defect UInt16 :=
  match Text.Decimal.read? 65535 port with
  | none => .error (.badPort (String.ofList port))
  | some 0 => .error .portZero
  | some n => .ok (UInt16.ofNat n)

/-- The endpoint that trimmed text spells. -/
def parseTrimmed (cs : List Char) : Except Defect Endpoint := do
  let rest ← afterScheme cs
  let (host, port) ← hostAndPort rest
  checkHost host
  let port ← readPort port
  return ⟨String.ofList host, port⟩

/-- A text that is no endpoint, and why. -/
structure Invalid where
  /-- The text as it was given. -/
  endpoint : String
  defect : Defect
  deriving DecidableEq, Repr

/-- The endpoint that a text spells, blanks around it apart. -/
def parse (input : String) : Except Invalid Endpoint :=
  (parseTrimmed (Text.trimChars input.toList)).mapError fun defect => ⟨input, defect⟩

/-- The endpoint with a host and a port, which are checked alone. -/
def make (host : String) (port : UInt16) : Except Invalid Endpoint :=
  match checkHost host.toList with
  | .error defect => .error ⟨host, defect⟩
  | .ok () => if port = 0 then .error ⟨host, .portZero⟩ else .ok ⟨host, port⟩

/-! ## 3. Writing and resolving -/

/-- The text of an endpoint, with its scheme; a host with colons stands in brackets. -/
def text (e : Endpoint) : String :=
  if ':' ∈ e.host.toList then scheme ++ "[" ++ e.host ++ "]:" ++ toString e.port.toNat
  else scheme ++ e.host ++ ":" ++ toString e.port.toNat

/-- The address of an endpoint. -/
def resolve (e : Endpoint) (names : List (String × IpAddress) := IpAddress.wellKnown) :
    Except Fault SocketAddress :=
  (IpAddress.resolve e.host.toList names).map fun (ip, scope) => ⟨ip, e.port, scope⟩

/-- The endpoint under which a listener at an address is reached from the same host: an address that
stands for all of the host's becomes the loopback address. -/
def ofListener (a : SocketAddress) : Endpoint :=
  let host :=
    if a.ip.isUnspecified then
      match a.ip with
      | .v4 .. => "127.0.0.1"
      | .v6 _ => "::1"
    else a.ip.text
  ⟨host, a.port⟩

end Endpoint

end Readout
