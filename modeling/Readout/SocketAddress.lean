/-
# Addresses with a port

An address with a port is what sockets connect to and listen at.  Its text is an address literal and a
port; groups stand in brackets, perhaps with the number of the scope in which they hold.

A host may also be spelled in ways that are no literals: as one to four numbers, each in base ten,
eight or sixteen, of which the last one fills the octets that are left; as groups with a scope; or as a
name that is known.  `IpAddress.resolve` admits exactly those.
-/
import Readout.Address
import Readout.Fault

namespace Readout

namespace IpAddress

/-! ## 1. Numbers for an address -/

/-- What follows the mark of base sixteen, if a digit does. -/
def afterMark : List Char → Option (List Char)
  | '0' :: mark :: digit :: rest =>
    if (mark = 'x' ∨ mark = 'X') ∧ (Text.hexDigit? digit).isSome then some (digit :: rest) else none
  | _ => none

/-- The number of up to 32 bits at the start of a text, in base sixteen after `0x`, in base eight after
another `0`, and else in base ten; and what follows it. -/
def readPart (cs : List Char) : Option (Nat × List Char) :=
  match afterMark cs with
  | some digits => readNumber 16 digits.length 0xFFFFFFFF true digits
  | none =>
    let base := if cs.head? = some '0' then 8 else 10
    readNumber base cs.length 0xFFFFFFFF true cs

/-- How many numbers there are in so many octets. -/
def numbersIn : (octets : Nat) → Nat
  | 0 => 1
  | octets + 1 => 256 * numbersIn octets

/-- The value of numbers with points between them, at most `room` of them, that fill `room` octets:
each takes one, and the last all that are left. -/
def readParts : (room : Nat) → List Char → Option Nat
  | 0, _ => none
  | room + 1, cs =>
    match readPart cs with
    | some (n, []) => if n < numbersIn (room + 1) then some n else none
    | some (n, '.' :: rest) =>
      if n < 256 then (readParts room rest).map (n * numbersIn room + ·) else none
    | _ => none

/-- The address with a number of 32 bits. -/
def ofNumber (n : Nat) : IpAddress :=
  v4 (n / numbersIn 3 % 256) (n / numbersIn 2 % 256) (n / numbersIn 1 % 256) (n % 256)

/-! ## 2. Scopes and names -/

/-- The number of a scope. -/
def readScope (cs : List Char) : Option (Nat × List Char) :=
  readNumber 10 cs.length 0xFFFFFFFF true cs

/-- Groups and the number of their scope. -/
def withScope? (cs : List Char) : Option (IpAddress × Nat) := do
  let (groups, rest) ← readSixteen cs
  match ← (expect '%' rest).bind readScope with
  | (scope, []) => return (v6 groups, scope)
  | _ => none

/-- The names that are known without asking. -/
def wellKnown : List (String × IpAddress) := [("localhost", v4 127 0 0 1)]

/-- The address that a host's text stands for, and its scope. -/
def resolve (host : List Char) (names : List (String × IpAddress) := wellKnown) :
    Except Fault (IpAddress × Nat) :=
  if Char.ofNat 0 ∈ host then .error .strayEnd
  else
    match (read? host).or ((readParts 4 host).map ofNumber), withScope? host with
    | some ip, _ => .ok (ip, 0)
    | none, some found => .ok found
    | none, none =>
      match names.lookup (String.ofList host) with
      | some ip => .ok (ip, 0)
      | none => .error .unknownHost

end IpAddress

/-! ## 3. Addresses with a port -/

/-- An internet address and a port. -/
structure SocketAddress where
  ip : IpAddress
  port : UInt16
  /-- The number of the scope in which groups hold; zero if that is not said. -/
  scope : Nat := 0
  deriving DecidableEq, Repr

namespace SocketAddress

/-- The text of an address with a port; groups stand in brackets, with their scope. -/
def text (a : SocketAddress) : String :=
  match a.ip with
  | .v4 .. => a.ip.text ++ ":" ++ toString a.port.toNat
  | .v6 _ =>
    let scope := if a.scope = 0 then "" else "%" ++ toString a.scope
    "[" ++ a.ip.text ++ scope ++ "]:" ++ toString a.port.toNat

/-- The port of an address that is otherwise read: digits to the end of the text. -/
def readPort (ip : IpAddress) (scope : Nat) (cs : List Char) : Option SocketAddress := do
  let digits ← IpAddress.expect ':' cs
  match ← IpAddress.readNumber 10 digits.length 65535 true digits with
  | (port, []) => return ⟨ip, UInt16.ofNat port, scope⟩
  | _ => none

/-- Four octets and a port. -/
def readOctets (cs : List Char) : Option SocketAddress := do
  let ((a, b, c, d), rest) ← IpAddress.readOctets cs
  readPort (.v4 a b c d) 0 rest

/-- Groups in brackets, with or without a scope, and a port. -/
def readGroups (cs : List Char) : Option SocketAddress := do
  let (groups, rest) ← (IpAddress.expect '[' cs).bind IpAddress.readSixteen
  let (scope, rest) := ((IpAddress.expect '%' rest).bind IpAddress.readScope).getD (0, rest)
  readPort (.v6 groups) scope (← IpAddress.expect ']' rest)

/-- The text before the last occurrence of a character, and the text after it. -/
def cutLast (c : Char) (cs : List Char) : Option (List Char × List Char) :=
  let after := (cs.reverse.takeWhile (· != c)).reverse
  if after.length = cs.length then none
  else some (cs.take (cs.length - after.length - 1), after)

/-- The address that a text names: a literal with a port or, before and after the last colon, a host
and a port. -/
def resolve (cs : List Char) (names : List (String × IpAddress) := IpAddress.wellKnown) :
    Except Fault SocketAddress :=
  match (readOctets cs).or (readGroups cs) with
  | some a => .ok a
  | none =>
    match cutLast ':' cs with
    | none => .error ⟨.invalidInput, "invalid socket address"⟩
    | some (host, port) =>
      match Text.Decimal.read? 65535 port with
      | none => .error ⟨.invalidInput, "invalid port value"⟩
      | some port =>
        (IpAddress.resolve host names).map fun (ip, scope) => ⟨ip, UInt16.ofNat port, scope⟩

end SocketAddress

end Readout
