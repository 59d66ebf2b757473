/-
# Paths

A path is a text with slashes: the names on the way to an entry.  It starts at the root if a slash
stands in front.  Two slashes in a row have no name between them; a single point names the folder that
is reached already, two points the one above it.

A path leads nowhere if it is empty, too long, or has a character in it that ends names.
-/
import Readout.Fault
import Readout.Text.Parts

namespace Readout.Path

/-! ## 1. Parts -/

/-- The parts of a path between its slashes, some of which may be empty. -/
def parts (path : String) : List String := (Text.parts '/' path.toList).map String.ofList

/-- The names on the way. -/
def names (path : String) : List String := (parts path).filter (· != "")

/-- Whether a path starts at the root. -/
def isAbsolute (path : String) : Bool := path.startsWith "/"

/-- Whether a path ends in a slash, so that it can only lead to a folder. -/
def endsInSlash (path : String) : Bool := path.endsWith "/"

/-- A path continued by another, which counts alone if it starts at the root. -/
def join (front back : String) : String :=
  if isAbsolute back || front = "" then back
  else if endsInSlash front then front ++ back
  else front ++ "/" ++ back

/-! ## 2. Limits -/

/-- How many octets a path has at most. -/
def longest : Nat := 4095

/-- How many octets a name has at most. -/
def longestName : Nat := 255

/-- Whether a name is too long for any entry. -/
def isOverlong (name : String) : Bool := longestName < name.utf8ByteSize

/-- Refuses what leads nowhere. -/
def check (path : String) : Except Fault Unit :=
  if Char.ofNat 0 ∈ path.toList then .error .strayEnd
  else if path = "" then .error .notFound
  else if longest < path.utf8ByteSize then .error .nameTooLong
  else .ok ()

/-! ## 3. Parents -/

/-- The parts of a path, last first, from the last one that names something.  The first part of the
path always counts. -/
def trimmed : List String → List String
  | part :: next :: rest =>
    if part = "" ∨ part = "." then trimmed (next :: rest) else part :: next :: rest
  | parts => parts

/-- The path with these parts, last first; one empty part is the root. -/
def ofReversed : List String → String
  | [""] => "/"
  | parts => "/".intercalate parts.reverse

/-- The path without its last name: empty for a name alone, and nothing for the root and for the
empty path. -/
def parent? (path : String) : Option String :=
  match trimmed (parts path).reverse with
  | [] | [""] => none
  | [_] => some ""
  | _ :: rest => some (ofReversed (trimmed rest))

/-- The folders that a path with these parts, last first, lies in, the nearest first; neither the
start nor the root is among them. -/
def foldersOf : List String → List String
  | part :: next :: rest =>
    let above := foldersOf (next :: rest)
    if part = "" ∨ part = "." then above
    else
      match trimmed (next :: rest) with
      | [""] => above
      | parts => ofReversed parts :: above
  | _ => []

/-- A path and the folders that it lies in, the nearest first; nothing if it names nothing. -/
def ascent (path : String) : List String :=
  match parent? path with
  | none => []
  | some _ => path :: foldersOf (parts path).reverse

end Readout.Path
