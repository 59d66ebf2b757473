/-
# Frames

Octets on a connection are cut into frames.  A frame has a header of eight octets -- the mark `SB`,
the payload's length in four octets, the kind in two, both least significant first -- and a payload.

`encode` makes the octets of a frame, and `decode` takes one frame off the front of a buffer.
`decode` waits until the whole frame is there, but reports a bad header once its eight octets are.

* `decode_encode_append` -- a frame that fits the limit is taken off whole, and what follows is left.
-/
import Readout.Bytes
import Readout.Transport

namespace Readout

/-! ## 1. Kinds -/

/-- The kind of a frame, any number of sixteen bits. -/
abbrev FrameKind := UInt16

namespace FrameKind

/-- The exchange of names at the start of a link. -/
def hello : FrameKind := 0

/-- One control message. -/
def message : FrameKind := 1

/-- The end of a link; the payload may hold a reason. -/
def goodbye : FrameKind := 2

/-- The name of a kind. -/
def name (k : FrameKind) : String :=
  if k = hello then "HELLO"
  else if k = message then "MESSAGE"
  else if k = goodbye then "GOODBYE"
  else "UNKNOWN"

/-- Whether a kind has a meaning. -/
def isKnown (k : FrameKind) : Bool := k ≤ goodbye

end FrameKind

/-! ## 2. Errors -/

/-- What can go wrong with frames. -/
inductive FrameError where
  /-- The header does not begin with the mark. -/
  | badMark
  /-- The kind has no meaning. -/
  | unknownKind (kind : FrameKind)
  /-- The payload is larger than the limit. -/
  | tooLarge (size limit : Nat)
  /-- A read or a write failed. -/
  | io (source : Fault)
  /-- The connection ended before the frame did. -/
  | closed
  deriving DecidableEq, Repr

namespace FrameError

/-- The wording of a frame error. -/
def message : FrameError → String
  | badMark => "invalid frame magic (expected 0x5342 \"SB\")"
  | unknownKind kind => "unknown frame kind " ++ toString kind.toNat
  | tooLarge size limit =>
    "payload too large (" ++ toString size ++ " bytes, max " ++ toString limit ++ ")"
  | io source => "frame I/O error: " ++ source.text
  | closed => "connection closed (incomplete frame)"

/-- Whether a deadline passed rather than something broke. -/
def isTimeout : FrameError → Bool
  | io source => source.isTimeout
  | _ => false

/-- A failure of the connection as a frame error. -/
def ofTransport (e : TransportError) : FrameError := io e.fault

end FrameError

/-! ## 3. Headers -/

/-- One frame. -/
structure Frame where
  kind : FrameKind
  payload : Bytes
  deriving DecidableEq, Repr, Inhabited

namespace Frame

/-- The octets before the payload. -/
def headerSize : Nat := 8

/-- The largest payload that a length of four octets can say. -/
def maxLength : Nat := 0xFFFFFFFF

/-- The limit on payloads when none is said: 64 MiB. -/
def defaultLimit : Nat := 64 * 1024 * 1024

/-- What a header says. -/
structure Header where
  kind : FrameKind
  length : Nat
  deriving DecidableEq, Repr

/-- The eight octets of a header. -/
def Header.write (h : Header) : Bytes :=
  0x53 :: 0x42 :: (Bytes.littleEndian 4 h.length ++ Bytes.littleEndian 2 h.kind.toNat)

/-- What eight octets say, in this order: the mark has to be there, the kind known, and the length
within the limit. -/
def Header.check (limit : Nat) (mark length kind : Bytes) : Except FrameError Header :=
  let kind : FrameKind := UInt16.ofNat (Bytes.ofLittleEndian kind)
  let length := Bytes.ofLittleEndian length
  if mark ≠ [0x53, 0x42] then .error .badMark
  else if !kind.isKnown then .error (.unknownKind kind)
  else if limit < length then .error (.tooLarge length limit)
  else .ok ⟨kind, length⟩

/-- The header at the front of a buffer and the octets after it, once eight octets are there. -/
def Header.read (limit : Nat) : Bytes → Except FrameError (Option (Header × Bytes))
  | m0 :: m1 :: l0 :: l1 :: l2 :: l3 :: k0 :: k1 :: rest =>
    match Header.check limit [m0, m1] [l0, l1, l2, l3] [k0, k1] with
    | .error e => .error e
    | .ok h => .ok (some (h, rest))
  | _ => .ok none

/-! ## 4. Whole frames -/

/-- The octets of a frame; a payload has to fit the length field. -/
def encode (f : Frame) : Except FrameError Bytes :=
  if maxLength < f.payload.length then .error (.tooLarge f.payload.length maxLength)
  else .ok ((⟨f.kind, f.payload.length⟩ : Header).write ++ f.payload)

/-- Takes one frame off the front of a buffer; `none` while octets are missing. -/
def decode (limit : Nat) (buffer : Bytes) : Except FrameError (Option (Frame × Bytes)) :=
  match Header.read limit buffer with
  | .error e => .error e
  | .ok none => .ok none
  | .ok (some (h, rest)) =>
    if rest.length < h.length then .ok none
    else .ok (some (⟨h.kind, rest.take h.length⟩, rest.drop h.length))

/-! ## 5. Taking off what was put on -/

theorem length_write_header (h : Header) : h.write.length = headerSize := by
  simp [Header.write, headerSize]

/-- **What is read of a header that was written**, by its kind and its length. -/
theorem Header.read_write {h : Header} (hmax : h.length ≤ maxLength) (limit : Nat) (rest : Bytes) :
    Header.read limit (h.write ++ rest) =
      if !h.kind.isKnown then .error (.unknownKind h.kind)
      else if limit < h.length then .error (.tooLarge h.length limit)
      else .ok (some (h, rest)) := by
  have hlength : Bytes.ofLittleEndian (Bytes.littleEndian 4 h.length) = h.length :=
    Bytes.ofLittleEndian_littleEndian (Nat.lt_succ_of_le hmax)
  have hkind : Bytes.ofLittleEndian (Bytes.littleEndian 2 h.kind.toNat) = h.kind.toNat :=
    Bytes.ofLittleEndian_littleEndian h.kind.toNat_lt
  simp only [Bytes.littleEndian] at hlength hkind
  simp only [Header.write, Bytes.littleEndian, List.cons_append, List.nil_append, Header.read,
    Header.check, hlength, hkind, UInt16.ofNat_toNat, ne_eq, not_true_eq_false, if_false]
  cases h.kind.isKnown with
  | false => rfl
  | true => by_cases hlimit : limit < h.length <;> simp [hlimit]

theorem read_write_header {h : Header} {limit : Nat} (hkind : h.kind.isKnown = true)
    (hlen : h.length ≤ limit) (hmax : h.length ≤ maxLength) (rest : Bytes) :
    Header.read limit (h.write ++ rest) = .ok (some (h, rest)) := by
  rw [Header.read_write hmax, hkind, if_neg (by decide), if_neg (Nat.not_lt.mpr hlen)]

/-- **A frame that fits the limit is taken off whole, and what follows is left.** -/
theorem decode_encode_append {f : Frame} {limit : Nat} {bs : Bytes}
    (hkind : f.kind.isKnown = true) (hlen : f.payload.length ≤ limit) (h : encode f = .ok bs)
    (rest : Bytes) : decode limit (bs ++ rest) = .ok (some (f, rest)) := by
  unfold encode at h
  split at h
  · cases h
  · rename_i hmax
    cases h
    rw [decode, List.append_assoc, read_write_header hkind hlen (Nat.le_of_not_lt hmax)]
    simp

end Frame

end Readout
