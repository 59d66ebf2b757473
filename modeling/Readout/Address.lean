/-
# Address literals

Internet addresses in text: four decimal octets, or eight groups of hexadecimal digits in which one
run of zero groups may be left out and the last two groups may be written as four octets.

`IpAddress.read?` admits exactly those texts; `IpAddress.text` writes the customary form, in which
the first longest run of at least two zero groups is left out.
-/
import Readout.Text.Decimal
import Readout.Text.Hex

namespace Readout

/-- An internet address. -/
inductive IpAddress where
  /-- Four octets. -/
  | v4 (a b c d : Nat)
  /-- Eight groups of sixteen bits. -/
  | v6 (groups : List Nat)
  deriving DecidableEq, Repr

namespace IpAddress

/-! ## 1. Reading -/

/-- The value of a digit in a base up to sixteen. -/
def digit? (base : Nat) (c : Char) : Option Nat := (Text.hexDigit? c).filter (· < base)

/-- The value of a run of digits. -/
def digitsValue (base : Nat) (cs : List Char) : Nat :=
  cs.foldl (fun n c => n * base + (Text.hexDigit? c).getD 0) 0

/-- The number at the start of a text, and what follows it: all the digits there, of which there
are one to `most`, with a value up to `bound`; a leading zero may have to stand alone. -/
def readNumber (base most bound : Nat) (zeros : Bool) (cs : List Char) :
    Option (Nat × List Char) :=
  let ds := cs.takeWhile fun c => (digit? base c).isSome
  let value := digitsValue base ds
  if ds.isEmpty || most < ds.length || bound < value then none
  else if !zeros && ds.length > 1 && ds.head? == some '0' then none
  else some (value, cs.drop ds.length)

/-- What follows a character that has to be there. -/
def expect (c : Char) : List Char → Option (List Char)
  | [] => none
  | x :: xs => if x = c then some xs else none

/-- The octet at the start of a text. -/
def readOctet (cs : List Char) : Option (Nat × List Char) := readNumber 10 3 255 false cs

/-- Four octets with points between them at the start of a text. -/
def readOctets (cs : List Char) : Option ((Nat × Nat × Nat × Nat) × List Char) := do
  let (a, cs) ← readOctet cs
  let (b, cs) ← (expect '.' cs).bind readOctet
  let (c, cs) ← (expect '.' cs).bind readOctet
  let (d, cs) ← (expect '.' cs).bind readOctet
  return ((a, b, c, d), cs)

/-- The groups at the start of a text, at most `room`, with colons between them; whether four octets
stand for the last two; and what follows. -/
def readGroups : (room : Nat) → (first : Bool) → List Char → List Nat × Bool × List Char
  | 0, _, cs => ([], false, cs)
  | room + 1, first, cs =>
    let start := if first then some cs else expect ':' cs
    match (if 1 ≤ room then start.bind readOctets else none) with
    | some ((a, b, c, d), rest) => ([a * 256 + b, c * 256 + d], true, rest)
    | none =>
      match start.bind (readNumber 16 4 0xFFFF true) with
      | some (g, rest) =>
        let (gs, octets, rest) := readGroups room false rest
        (g :: gs, octets, rest)
      | none => ([], false, cs)

/-- Eight groups at the start of a text, of which one run may be left out, and what follows. -/
def readSixteen (cs : List Char) : Option (List Nat × List Char) :=
  let (before, octets, rest) := readGroups 8 true cs
  if before.length = 8 then some (before, rest)
  else if octets then none
  else do
    let rest ← (expect ':' rest).bind (expect ':')
    let (after, _, rest) := readGroups (7 - before.length) true rest
    return (before ++ List.replicate (8 - before.length - after.length) 0 ++ after, rest)

/-- The address that a text spells, if all of it is an address. -/
def read? (cs : List Char) : Option IpAddress :=
  match readOctets cs with
  | some ((a, b, c, d), []) => some (v4 a b c d)
  | _ =>
    match readSixteen cs with
    | some (groups, []) => some (v6 groups)
    | _ => none

/-! ## 2. Writing -/

/-- The digits of a group, in lower case and without leading zeros. -/
def groupText (g : Nat) : String := String.ofList (Nat.toDigits 16 g)

/-- The place and length of the first longest run of zero groups.  `place` is the place of the list's
first group, `run` the length of the run that ends before it, and `best` the best run so far. -/
def longestRun (place run : Nat) (best : Nat × Nat) : List Nat → Nat × Nat
  | [] => best
  | g :: gs =>
    if g = 0 then
      let run := run + 1
      longestRun (place + 1) run (if best.2 < run then (place + 1 - run, run) else best) gs
    else longestRun (place + 1) 0 best gs

/-- The groups with colons between them. -/
def groupsText (gs : List Nat) : String := String.intercalate ":" (gs.map groupText)

/-- The text of an address. -/
def text : IpAddress → String
  | v4 a b c d => String.intercalate "." ([a, b, c, d].map toString)
  | v6 groups =>
    match groups with
    | [0, 0, 0, 0, 0, 0xFFFF, x, y] =>
      "::ffff:" ++ String.intercalate "." ([x / 256, x % 256, y / 256, y % 256].map toString)
    | _ =>
      let (place, run) := longestRun 0 0 (0, 0) groups
      if run > 1 then
        groupsText (groups.take place) ++ "::" ++ groupsText (groups.drop (place + run))
      else groupsText groups

/-- Whether the address stands for all addresses of the host. -/
def isUnspecified : IpAddress → Bool
  | v4 a b c d => [a, b, c, d].all (· == 0)
  | v6 groups => groups.all (· == 0)

end IpAddress

end Readout
