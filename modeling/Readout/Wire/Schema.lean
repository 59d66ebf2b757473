/-
# Schemas: how a record is laid out as tagged fields

A schema names a record type, gives its empty value, and lists its fields by ascending number.  A
field has a slot: the kind of value, and how it is taken out of the record and put into it.

Writing leaves out fields at their default.  Reading starts from the empty record and takes fields in
the order they come: a later value replaces an earlier one, lists grow, and unknown fields are passed
over.
-/
import Readout.Wire.Key
import Readout.Text.Utf8

namespace Readout.Wire

/-! ## 1. Fields and schemas -/

/-- The kind of value that a field of the record `M` holds, and how it is read and replaced. -/
inductive Slot (M : Type) where
  /-- A truth value. -/
  | flag (get : M → Bool) (set : Bool → M → M)
  /-- A 32-bit count. -/
  | count (get : M → UInt32) (set : UInt32 → M → M)
  /-- A signed 32-bit code. -/
  | code (get : M → Int32) (set : Int32 → M → M)
  /-- A text. -/
  | text (get : M → String) (set : String → M → M)
  /-- An octet string. -/
  | octets (get : M → Bytes) (set : Bytes → M → M)
  /-- A list of 32-bit counts. -/
  | counts (get : M → List UInt32) (set : List UInt32 → M → M)

/-- A numbered and named field of the record `M`. -/
structure Field (M : Type) where
  /-- The number on the wire. -/
  number : Nat
  /-- The name in error messages. -/
  name : String
  /-- The kind of value and its place in the record. -/
  slot : Slot M

/-- How records of type `M` are laid out. -/
structure Schema (M : Type) where
  /-- The name in error messages. -/
  name : String
  /-- The record with every field at its default. -/
  empty : M
  /-- The fields, by ascending number. -/
  fields : List (Field M)

/-- What is wrong with a message, and in which known field, by the record's name and its own. -/
structure DecodeError where
  /-- The known field whose value is at fault. -/
  place : Option String
  /-- What is wrong. -/
  flaw : Flaw
  deriving DecidableEq, Repr

/-- The wording of a decode error. -/
def DecodeError.message (e : DecodeError) : String :=
  let place := match e.place with
    | some p => p ++ ": "
    | none => ""
  "failed to decode Protobuf message: " ++ place ++ e.flaw.message

variable {M : Type}

/-! ## 2. Writing -/

/-- A key and a number. -/
def writeNumberField (number n : Nat) : Bytes :=
  Key.write ⟨number, .varint⟩ ++ Varint.write n

/-- A key, a length and as many octets. -/
def writeDelimitedField (number : Nat) (body : Bytes) : Bytes :=
  Key.write ⟨number, .delimited⟩ ++ (Varint.write body.length ++ body)

/-- The 64-bit number that a signed code is written as. -/
def codeNumber (c : Int32) : Nat := (c.toInt % (Word.size : Int)).toNat

/-- The numbers of a list one after the other. -/
def packed (ns : List UInt32) : Bytes := ns.flatMap fun n => Varint.write n.toNat

/-- The octets of a field, none where it has its default. -/
def Field.write (f : Field M) (m : M) : Bytes :=
  match f.slot with
  | .flag get _ => if get m then writeNumberField f.number 1 else []
  | .count get _ => if get m = 0 then [] else writeNumberField f.number (get m).toNat
  | .code get _ => if get m = 0 then [] else writeNumberField f.number (codeNumber (get m))
  | .text get _ =>
    if get m = "" then [] else writeDelimitedField f.number (Text.Utf8.encode (get m))
  | .octets get _ => if get m = [] then [] else writeDelimitedField f.number (get m)
  | .counts get _ => if get m = [] then [] else writeDelimitedField f.number (packed (get m))

/-- The octets of a record. -/
def Schema.write (s : Schema M) (m : M) : Bytes := s.fields.flatMap fun f => f.write m

/-! ## 3. Reading -/

/-- A number, where the key has to say so. -/
def readNumberValue (type : WireType) (bs : Bytes) : Except Flaw (Nat × Bytes) :=
  if type = .varint then readNumber bs else .error (.mismatch type .varint)

/-- A length and its octets, where the key has to say so. -/
def readDelimitedValue (type : WireType) (bs : Bytes) : Except Flaw (Bytes × Bytes) :=
  if type = .delimited then readDelimited bs else .error (.mismatch type .delimited)

/-- The low 32 bits of a number. -/
def lowCount (n : Nat) : UInt32 := UInt32.ofNat n

/-- The low 32 bits of a number as a signed code. -/
def lowCode (n : Nat) : Int32 := Int32.ofInt n

/-- Reads the numbers of a packed list whose octets are `body`, behind those already read (last
first).  The last number may run on into the octets `after` the list: that is an overrun if it is a
number then.  The fuel bounds the count of numbers; the count of octets is enough. -/
def readPacked (after : Bytes) : (fuel : Nat) → List UInt32 → (body : Bytes) →
    Except Flaw (List UInt32)
  | _, done, [] => .ok done.reverse
  | 0, _, _ :: _ => .error .varint
  | fuel + 1, done, b :: bs =>
    match Varint.read? (b :: bs) with
    | some (n, rest) => readPacked after fuel (lowCount n :: done) rest
    | none =>
      match Varint.read? (b :: bs ++ after) with
      | some _ => .error .overrun
      | none => .error .varint

/-- Reads the value of a list field, one number or a packed list, and what follows it. -/
def readCounts (type : WireType) (bs : Bytes) : Except Flaw (List UInt32 × Bytes) :=
  if type = .delimited then
    match readDelimited bs with
    | .error flaw => .error flaw
    | .ok (body, rest) =>
      match readPacked rest body.length [] body with
      | .error flaw => .error flaw
      | .ok ns => .ok (ns, rest)
  else
    match readNumberValue type bs with
    | .error flaw => .error flaw
    | .ok (n, rest) => .ok ([lowCount n], rest)

/-- Reads the value of a slot into the record, and gives what follows it. -/
def Slot.read (slot : Slot M) (m : M) (type : WireType) (bs : Bytes) : Except Flaw (M × Bytes) :=
  match slot with
  | .flag _ set => do
    let (n, rest) ← readNumberValue type bs
    return (set (n != 0) m, rest)
  | .count _ set => do
    let (n, rest) ← readNumberValue type bs
    return (set (lowCount n) m, rest)
  | .code _ set => do
    let (n, rest) ← readNumberValue type bs
    return (set (lowCode n) m, rest)
  | .text _ set => do
    let (body, rest) ← readDelimitedValue type bs
    match Text.Utf8.decode? body with
    | some s => return (set s m, rest)
    | none => throw .text
  | .octets _ set => do
    let (body, rest) ← readDelimitedValue type bs
    return (set body m, rest)
  | .counts get set => do
    let (ns, rest) ← readCounts type bs
    return (set (get m ++ ns) m, rest)

/-- Reads one field into the record, and gives what follows it. -/
def Schema.readField (s : Schema M) (m : M) (bs : Bytes) : Except DecodeError (M × Bytes) :=
  match Key.read bs with
  | .error flaw => .error ⟨none, flaw⟩
  | .ok (key, rest) =>
    match s.fields.find? (·.number == key.number) with
    | some f =>
      match f.slot.read m key.type rest with
      | .error flaw => .error ⟨some (s.name ++ "." ++ f.name), flaw⟩
      | .ok found => .ok found
    | none =>
      match pass maxDepth key rest with
      | .error flaw => .error ⟨none, flaw⟩
      | .ok rest => .ok (m, rest)

/-- Reads fields into the record until the octets end.  The fuel bounds the count of fields; each
takes an octet at least, so the count of octets is enough. -/
def Schema.readFields (s : Schema M) : (fuel : Nat) → M → Bytes → Except DecodeError M
  | _, m, [] => .ok m
  | 0, _, _ :: _ => .error ⟨none, .varint⟩
  | fuel + 1, m, b :: bs =>
    match s.readField m (b :: bs) with
    | .error e => .error e
    | .ok (m, rest) => s.readFields fuel m rest

/-- The record that the octets hold. -/
def Schema.read (s : Schema M) (bs : Bytes) : Except DecodeError M :=
  s.readFields bs.length s.empty bs

end Readout.Wire
