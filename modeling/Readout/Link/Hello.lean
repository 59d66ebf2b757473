/-
# Greetings

The two sides of a link introduce themselves.  The client says which protocol it speaks, in which
version, and who it is; the device answers with its own protocol and version, repeats the client's
identity and gives the session a label.

The lengths of all four texts are bounded, in octets, and a version is two numbers with a point
between them.  Two sides come to terms if their protocols are the same and the first numbers of their
versions are equal.
-/
import Readout.Link.Error
import Readout.Json.Scan
import Readout.Text.Decimal
import Readout.Text.Parts

namespace Readout.Link

/-! ## 1. Greetings -/

/-- What a client says first. -/
structure ClientHello where
  protocol : String
  version : String
  identity : String
  deriving DecidableEq, Repr

/-- What a device answers. -/
structure ServerHello where
  protocol : String
  version : String
  identity : String
  session : String
  deriving DecidableEq, Repr

/-- The octets of a client's greeting. -/
def ClientHello.write (h : ClientHello) : Bytes :=
  Json.writeRecord
    [("protocol", h.protocol), ("version", h.version), ("identity", h.identity)]

/-- The client's greeting in some octets. -/
def ClientHello.read (bs : Bytes) : Except Json.Defect ClientHello :=
  match Json.readRecord ["protocol", "version", "identity"] bs with
  | .ok [protocol, version, identity] => .ok ⟨protocol, version, identity⟩
  | .ok _ => .error .mismatch
  | .error e => .error e

/-- The octets of a device's answer. -/
def ServerHello.write (h : ServerHello) : Bytes :=
  Json.writeRecord
    [("protocol", h.protocol), ("version", h.version), ("identity", h.identity),
      ("session", h.session)]

/-- The device's answer in some octets. -/
def ServerHello.read (bs : Bytes) : Except Json.Defect ServerHello :=
  match Json.readRecord ["protocol", "version", "identity", "session"] bs with
  | .ok [protocol, version, identity, session] => .ok ⟨protocol, version, identity, session⟩
  | .ok _ => .error .mismatch
  | .error e => .error e

/-! ## 2. Refusals -/

/-- What is wrong with a version. -/
inductive VersionDefect where
  | missingMinor
  | tooManyParts
  | majorNotANumber
  | minorNotANumber
  deriving DecidableEq, Repr

/-- The wording of a version's defect. -/
def VersionDefect.message : VersionDefect → String
  | missingMinor => "missing minor"
  | tooManyParts => "expected '<major>.<minor>'"
  | majorNotANumber => "non-numeric major"
  | minorNotANumber => "non-numeric minor"

/-- Why two sides do not come to terms. -/
inductive Refusal where
  | identityLength (length : Nat)
  | sessionLength (length : Nat)
  | protocolLength (length : Nat)
  | versionLength (length : Nat)
  | badVersion (version : String) (defect : VersionDefect)
  | otherProtocol (remote own : String)
  | otherVersion (remote own : String)
  /-- The device repeats another identity than the client's. -/
  | otherIdentity (remote own : String)
  /-- Another frame came where a greeting should be. -/
  | notAHello (kind : FrameKind)
  | helloTooLarge (size limit : Nat)
  /-- The connection ended. -/
  | hungUp
  deriving DecidableEq, Repr

/-- The wording of a refusal. -/
def Refusal.message : Refusal → String
  | identityLength length => "invalid identity length: " ++ toString length
  | sessionLength length => "invalid session length: " ++ toString length
  | protocolLength length => "invalid protocol name length: " ++ toString length
  | versionLength length => "invalid protocol version length: " ++ toString length
  | badVersion version defect => "invalid version '" ++ version ++ "': " ++ defect.message
  | otherProtocol remote own =>
    "unknown protocol '" ++ remote ++ "' (expected '" ++ own ++ "')"
  | otherVersion remote own =>
    "incompatible version '" ++ remote ++ "' (local '" ++ own ++ "')"
  | otherIdentity remote own =>
    "server acknowledged identity '" ++ remote ++ "' (sent '" ++ own ++ "')"
  | notAHello kind => "expected HELLO frame, got " ++ FrameKind.name kind
  | helloTooLarge size limit =>
    "hello payload too large: " ++ toString size ++ " (max " ++ toString limit ++ ")"
  | hungUp => "connection closed during handshake"

/-! ## 3. Checks -/

/-- The longest identity, in octets. -/
def maxIdentity : Nat := 255

/-- The longest session label, in octets. -/
def maxSession : Nat := 128

/-- The longest protocol name, in octets. -/
def maxProtocol : Nat := 32

/-- The longest version, in octets. -/
def maxVersion : Nat := 16

/-- Whether a text is not empty and has at most so many octets. -/
def fits (most : Nat) (s : String) : Bool :=
  0 < Text.Utf8.length s && Text.Utf8.length s ≤ most

/-- Refuses an identity that is empty or too long. -/
def checkIdentity (identity : String) : Except Refusal Unit :=
  if fits maxIdentity identity then .ok ()
  else .error (.identityLength (Text.Utf8.length identity))

/-- Refuses a session label that is empty or too long. -/
def checkSession (session : String) : Except Refusal Unit :=
  if fits maxSession session then .ok ()
  else .error (.sessionLength (Text.Utf8.length session))

/-- Refuses a protocol name that is empty or too long. -/
def checkProtocolName (protocol : String) : Except Refusal Unit :=
  if fits maxProtocol protocol then .ok ()
  else .error (.protocolLength (Text.Utf8.length protocol))

/-- The two numbers of a version. -/
def versionNumbers (version : String) : Except VersionDefect (Nat × Nat) :=
  match Text.parts '.' version.toList with
  | [major, minor] =>
    match Text.Decimal.read? 65535 major with
    | none => .error .majorNotANumber
    | some major =>
      match Text.Decimal.read? 65535 minor with
      | none => .error .minorNotANumber
      | some minor => .ok (major, minor)
  | _ :: _ :: _ => .error .tooManyParts
  | _ => .error .missingMinor

/-- The two numbers of a version, or the refusal of it. -/
def readVersion (version : String) : Except Refusal (Nat × Nat) :=
  (versionNumbers version).mapError (.badVersion version)

/-- Refuses a version that is empty, too long, or not two numbers. -/
def checkVersionText (version : String) : Except Refusal Unit :=
  if fits maxVersion version then (readVersion version).map fun _ => ()
  else .error (.versionLength (Text.Utf8.length version))

/-- Refuses a protocol that is not one's own. -/
def checkProtocol (own remote : String) : Except Refusal Unit := do
  checkProtocolName remote
  if own = remote then .ok () else .error (.otherProtocol remote own)

/-- Refuses a version whose first number is not one's own. -/
def checkVersion (own remote : String) : Except Refusal Unit := do
  checkVersionText remote
  let (ownMajor, _) ← readVersion own
  let (major, _) ← readVersion remote
  if ownMajor = major then .ok () else .error (.otherVersion remote own)

end Readout.Link
