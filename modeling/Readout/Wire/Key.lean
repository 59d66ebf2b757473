/-
# Keys of tagged fields, and passing over unknown fields

A message is a run of fields.  Each begins with a key, a number that holds the field's number and the
wire type of its value; the wire type alone says where the value ends, so a field that the reader
does not know can be passed over.  Groups nest: `pass` carries the depth that is still allowed.
-/
import Readout.Wire.Varint

namespace Readout.Wire

/-! ## 1. What can be wrong with a message -/

/-- How the value of a field is laid out. -/
inductive WireType where
  /-- A number in groups of seven bits. -/
  | varint
  /-- Eight octets. -/
  | bits64
  /-- A length, and as many octets. -/
  | delimited
  /-- The fields up to the matching end of group. -/
  | startGroup
  /-- The end of a group. -/
  | endGroup
  /-- Four octets. -/
  | bits32
  deriving DecidableEq, Repr

namespace WireType

/-- The three bits of a key that stand for the wire type. -/
def code : WireType → Nat
  | varint => 0
  | bits64 => 1
  | delimited => 2
  | startGroup => 3
  | endGroup => 4
  | bits32 => 5

/-- The wire type that three bits stand for. -/
def ofCode? : Nat → Option WireType
  | 0 => some varint
  | 1 => some bits64
  | 2 => some delimited
  | 3 => some startGroup
  | 4 => some endGroup
  | 5 => some bits32
  | _ => none

/-- The name of a wire type in messages. -/
def name : WireType → String
  | varint => "Varint"
  | bits64 => "SixtyFourBit"
  | delimited => "LengthDelimited"
  | startGroup => "StartGroup"
  | endGroup => "EndGroup"
  | bits32 => "ThirtyTwoBit"

theorem ofCode?_code (t : WireType) : ofCode? t.code = some t := by cases t <;> rfl

theorem code_lt (t : WireType) : t.code < 8 := by cases t <;> decide

end WireType

/-- What is wrong with a message. -/
inductive Flaw where
  /-- A number is cut off, too long, or above 64 bits. -/
  | varint
  /-- A key does not fit in 32 bits. -/
  | key (value : Nat)
  /-- A key names no wire type. -/
  | wireType (code : Nat)
  /-- A key has the field number zero. -/
  | zeroNumber
  /-- A known field has a value of another wire type. -/
  | mismatch (actual expected : WireType)
  /-- A length runs beyond the octets that are left. -/
  | underflow
  /-- The last number of a packed list runs past the end of the list. -/
  | overrun
  /-- A text is no UTF-8. -/
  | text
  /-- A group ends that was not open, or an outer one ends first. -/
  | endGroup
  /-- Groups are nested too deep. -/
  | depth
  deriving DecidableEq, Repr

/-- The wording of a flaw. -/
def Flaw.message : Flaw → String
  | varint => "invalid varint"
  | key value => "invalid key value: " ++ toString value
  | wireType code => "invalid wire type value: " ++ toString code
  | zeroNumber => "invalid tag value: 0"
  | mismatch actual expected =>
    "invalid wire type: " ++ actual.name ++ " (expected " ++ expected.name ++ ")"
  | underflow => "buffer underflow"
  | overrun => "delimited length exceeded"
  | text => "invalid string value: data is not UTF-8 encoded"
  | endGroup => "unexpected end group tag"
  | depth => "recursion limit reached"

/-- A number at the start of the octets, and what follows it. -/
def readNumber (bs : Bytes) : Except Flaw (Nat × Bytes) :=
  match Varint.read? bs with
  | some found => .ok found
  | none => .error .varint

/-- A length at the start of the octets, as many octets after it, and what follows them. -/
def readDelimited (bs : Bytes) : Except Flaw (Bytes × Bytes) :=
  match readNumber bs with
  | .error flaw => .error flaw
  | .ok (length, rest) =>
    if rest.length < length then .error .underflow
    else .ok (rest.take length, rest.drop length)

/-! ## 2. Keys -/

/-- The head of a field. -/
structure Key where
  /-- The number of the field. -/
  number : Nat
  /-- How its value is laid out. -/
  type : WireType
  deriving DecidableEq, Repr

namespace Key

/-- The octets of a key. -/
def write (k : Key) : Bytes := Varint.write (k.number * 8 + k.type.code)

/-- The key at the start of the octets, and what follows it. -/
def read (bs : Bytes) : Except Flaw (Key × Bytes) :=
  match readNumber bs with
  | .error flaw => .error flaw
  | .ok (value, rest) =>
    if 0xFFFFFFFF < value then .error (.key value)
    else match WireType.ofCode? (value % 8) with
      | none => .error (.wireType (value % 8))
      | some type =>
        if value / 8 = 0 then .error .zeroNumber else .ok (⟨value / 8, type⟩, rest)

/-- **A written key is read back, and what follows it is left.** -/
theorem read_write_append {k : Key} (hpos : 0 < k.number) (hlt : k.number < 0x20000000)
    (rest : Bytes) : read (k.write ++ rest) = .ok (k, rest) := by
  have hcode := k.type.code_lt
  have hdiv : (k.number * 8 + k.type.code) / 8 = k.number := by omega
  have hmod : (k.number * 8 + k.type.code) % 8 = k.type.code := by omega
  simp only [read, write, readNumber, Varint.read?_write_append
    (show k.number * 8 + k.type.code < Word.size by unfold Word.size; omega), hdiv, hmod, WireType.ofCode?_code]
  rw [if_neg (by omega), if_neg (by omega)]

end Key

/-! ## 3. Passing over a value -/

/-- Drops octets that have to be there. -/
def passOctets (count : Nat) (bs : Bytes) : Except Flaw Bytes :=
  if bs.length < count then .error .underflow else .ok (bs.drop count)

/-- Passes over the fields of an open group and its end.  The fuel bounds the count of fields; each
takes an octet at least, so the count of octets left is fuel enough. -/
def passGroup (passInner : Key → Bytes → Except Flaw Bytes) (number : Nat) :
    (fuel : Nat) → Bytes → Except Flaw Bytes
  | 0, _ => .error .varint
  | fuel + 1, bs =>
    match Key.read bs with
    | .error flaw => .error flaw
    | .ok (key, rest) =>
      if key.type = .endGroup then
        if key.number = number then .ok rest else .error .endGroup
      else
        match passInner key rest with
        | .error flaw => .error flaw
        | .ok rest => passGroup passInner number fuel rest

/-- Passes over the value of a field, with groups open to the given depth at most. -/
def pass : (depth : Nat) → Key → Bytes → Except Flaw Bytes
  | 0, _, _ => .error .depth
  | depth + 1, key, bs =>
    match key.type with
    | .varint =>
      match readNumber bs with
      | .error flaw => .error flaw
      | .ok (_, rest) => .ok rest
    | .bits32 => passOctets 4 bs
    | .bits64 => passOctets 8 bs
    | .delimited =>
      match readDelimited bs with
      | .error flaw => .error flaw
      | .ok (_, rest) => .ok rest
    | .startGroup => passGroup (fun k rest => pass depth k rest) key.number (bs.length + 1) bs
    | .endGroup => .error .endGroup

/-- How deep a field that is passed over may nest. -/
def maxDepth : Nat := 100

end Readout.Wire
