/-
# Folders of files

A folder holds files and further folders.  A path is walked name by name: all that lies on the way has
to be a folder, and two points lead up from the folder that was reached, not from the text before
them.  What lies above the start, and the root, are folders of which little else is known.

The operations are those that channel files need: create folders, open a file for writing, write at a
place or at the end, and read a whole file.  A failure says what stood in the way.
-/
import Readout.Bytes
import Readout.Path

namespace Readout

/-! ## 1. Places -/

/-- The place of an entry: the names on the way to it from the start or, after a slash, from the root;
without points among them, but for those that lead up from the start. -/
abbrev Place := List String

namespace Place

/-- The root. -/
def root : Place := ["/"]

/-- Whether a place is the start or above it. -/
def isAbove (p : Place) : Bool := p.all (· == "..")

/-- The place that an entry lies in. -/
def up (p : Place) : Place :=
  if p.isAbove then p ++ [".."] else if p = root then root else p.dropLast

/-- The place that a path starts at. -/
def startOf (path : String) : Place := if Path.isAbsolute path then root else []

end Place

/-! ## 2. Folders -/

/-- What is found at a place. -/
inductive Entry where
  | file (content : Bytes)
  | folder
  deriving DecidableEq, Repr

/-- What any host has at its root: a place for passing files, and the device that is always empty. -/
def Entry.atRoot : List (Place × Entry) :=
  [(["/", "tmp"], folder), (["/", "dev"], folder), (["/", "dev", "null"], file [])]

/-- Files and folders by place. -/
structure Folder where
  entries : List (Place × Entry) := Entry.atRoot
  deriving DecidableEq, Repr

namespace Folder

/-- What is found at a place. -/
def found? (f : Folder) (p : Place) : Option Entry :=
  if p.isAbove || p == Place.root then some .folder else f.entries.lookup p

/-- Puts an entry at a place, in the place of what is there. -/
def put (f : Folder) (p : Place) (e : Entry) : Folder :=
  ⟨(p, e) :: f.entries.filter fun x => x.1 != p⟩

/-- The content of the file at a place. -/
def file? (f : Folder) (p : Place) : Option Bytes :=
  match f.found? p with
  | some (.file content) => some content
  | _ => none

theorem found?_put_self {f : Folder} {p : Place} {e : Entry} (above : p.isAbove = false)
    (root : p ≠ Place.root) : (f.put p e).found? p = some e := by
  simp [put, found?, above, root]

/-- Nothing changes but what is at the place. -/
theorem found?_put_of_ne {f : Folder} {p q : Place} {e : Entry} (h : q ≠ p) :
    (f.put p e).found? q = f.found? q := by
  have key : ∀ entries : List (Place × Entry),
      (entries.filter fun x => x.1 != p).lookup q = entries.lookup q := by
    intro entries
    induction entries with
    | nil => rfl
    | cons x entries ih =>
      obtain ⟨r, found⟩ := x
      by_cases hr : r = p
      · subst hr
        have hq : (q == r) = false := beq_eq_false_iff_ne.2 h
        simp [List.lookup_cons, hq, ih]
      · have hf : (r != p) = true := bne_iff_ne.2 hr
        simp only [List.filter_cons, hf, if_true, List.lookup_cons, ih]
  have hq : (q == p) = false := beq_eq_false_iff_ne.2 h
  simp [put, found?, List.lookup_cons, hq, key]

/-! ## 3. Walking -/

/-- Goes to a folder by its name. -/
def enter (f : Folder) (p : Place) (name : String) : Except Fault Place :=
  if name = "." then .ok p
  else if name = ".." then .ok p.up
  else if Path.isOverlong name then .error .nameTooLong
  else
    match f.found? (p ++ [name]) with
    | some .folder => .ok (p ++ [name])
    | some (.file _) => .error .notADirectory
    | none => .error .notFound

/-- Where a path ends. -/
inductive Goal where
  /-- In a folder that is there. -/
  | folder (p : Place)
  /-- At a name in a folder that is there; with a slash behind, it can only be a folder's. -/
  | name (p : Place) (name : String) (slash : Bool)
  deriving DecidableEq, Repr

/-- Walks a path up to its last name. -/
def walk (f : Folder) (path : String) : Except Fault Goal := do
  Path.check path
  let names := Path.names path
  let p ← names.dropLast.foldlM f.enter (Place.startOf path)
  match names.getLast? with
  | none | some "." => return .folder p
  | some ".." => return .folder p.up
  | some name => return .name p name (Path.endsInSlash path)

/-- What a path leads to. -/
def find (f : Folder) (path : String) : Except Fault (Place × Entry) := do
  match ← f.walk path with
  | .folder p => return (p, .folder)
  | .name p name slash =>
    if Path.isOverlong name then throw .nameTooLong
    match f.found? (p ++ [name]) with
    | none => throw .notFound
    | some (.file content) => if slash then throw .notADirectory else return (p ++ [name], .file content)
    | some .folder => return (p ++ [name], .folder)

/-- Whether a path leads to a folder. -/
def hasFolder (f : Folder) (path : String) : Bool :=
  match f.find path with
  | .ok (_, .folder) => true
  | _ => false

/-! ## 4. Creating folders -/

/-- Creates a folder in one that is there. -/
def createFolder (f : Folder) (path : String) : Except Fault Folder := do
  match ← f.walk path with
  | .folder _ => throw .alreadyExists
  | .name p name _ =>
    if Path.isOverlong name then throw .nameTooLong
    if (f.found? (p ++ [name])).isSome then throw .alreadyExists
    return f.put (p ++ [name]) .folder

/-- Whether a folder that could not be created is there already. -/
def isThere (f : Folder) (path : String) (fault : Fault) : Bool :=
  fault.kind == .alreadyExists && f.hasFolder path

/-- Creates folders one after the other, as far as they are missing.  A fault leaves those created
before it. -/
def createEach (f : Folder) : List String → Option Fault × Folder
  | [] => (none, f)
  | path :: paths =>
    match f.createFolder path with
    | .ok f => f.createEach paths
    | .error fault => if f.isThere path fault then f.createEach paths else (some fault, f)

/-- Creates the first folder of an ascent that can be created or is there, and then the ones before
it, of which `missing` were passed already. -/
def createFrom (f : Folder) (missing : List String) : List String → Option Fault × Folder
  | [] => f.createEach missing
  | path :: above =>
    match f.createFolder path with
    | .ok f => f.createEach missing
    | .error fault =>
      if fault.kind = .notFound then f.createFrom (path :: missing) above
      else if f.isThere path fault then f.createEach missing
      else (some fault, f)

/-- Creates the folder that a path names and those on the way to it, as far as they are missing. -/
def createFolders (f : Folder) (path : String) : Option Fault × Folder :=
  f.createFrom [] (Path.ascent path)

/-- Creates the folders on the way to a path. -/
def createParents (f : Folder) (path : String) : Option Fault × Folder :=
  match Path.parent? path with
  | none => (none, f)
  | some parent => f.createFolders parent

/-! ## 5. Files -/

/-- Opens a file for writing: creates it if it is missing, and empties it unless it is kept.  Gives
its place. -/
def openForWriting (f : Folder) (path : String) (keep : Bool) : Except Fault (Place × Folder) := do
  match ← f.walk path with
  | .folder _ => throw .isADirectory
  | .name p name slash =>
    if slash then throw .isADirectory
    if Path.isOverlong name then throw .nameTooLong
    let place := p ++ [name]
    match f.found? place with
    | some .folder => throw .isADirectory
    | some (.file _) => return (place, if keep then f else f.put place (.file []))
    | none => return (place, f.put place (.file []))

/-- Octets with others laid over them from a position on; a gap is filled with zeros. -/
def overlay (content : Bytes) (position : Nat) (octets : Bytes) : Bytes :=
  content.take position ++ List.replicate (position - content.length) 0 ++ octets ++
    content.drop (position + octets.length)

/-- Writes octets into the file at a place: from a position on, or at the end. -/
def write (f : Folder) (p : Place) (position : Option Nat) (octets : Bytes) : Folder :=
  match f.file? p with
  | none => f
  | some content =>
    f.put p (.file (match position with
      | some n => overlay content n octets
      | none => content ++ octets))

/-- Puts a file with a content at a path, in the place of one that is there. -/
def writeFile (f : Folder) (path : String) (content : Bytes) : Except Fault Folder := do
  let (place, f) ← f.openForWriting path false
  return f.put place (.file content)

/-- The content of the file at a path. -/
def read (f : Folder) (path : String) : Except Fault Bytes := do
  match ← f.find path with
  | (_, .file content) => return content
  | (_, .folder) => throw .isADirectory

/-- A folder with these files at their paths; those that cannot be written are left out. -/
def ofFiles (files : List (String × Bytes)) : Folder :=
  files.foldl (fun f (path, content) =>
    let f := (f.createParents path).2
    (f.writeFile path content).toOption.getD f) {}

end Folder

end Readout
