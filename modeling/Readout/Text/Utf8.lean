/-
# Text as UTF-8

Texts travel as UTF-8.  `encode` writes a text, `decode?` reads one and refuses octets that are no
UTF-8, and `decodeLossy` reads any octets by putting the replacement character for each part that is
broken.

A broken part is as long as it could still have become a character: the longest start of some
well-formed sequence, and one octet where there is none.  `Sequence.expect` states the well-formed
sequences by their first octet, as a length and the range of the second octet.
-/
import Readout.Bytes

namespace Readout.Text.Utf8

/-! ## 1. Exact reading and writing -/

/-- The octets of a text. -/
def encode (s : String) : Bytes := s.toByteArray.data.toList

/-- The text with these octets, unless they are not UTF-8. -/
def decode? (bs : Bytes) : Option String := String.fromUTF8? ⟨bs.toArray⟩

theorem decode?_encode (s : String) : decode? (encode s) = some s := by
  have h : (⟨(s.toByteArray.data.toList).toArray⟩ : ByteArray) = s.toByteArray := by simp
  unfold decode? encode
  rw [h, String.fromUTF8?, dif_pos s.isValidUTF8]
  rfl

/-- How many octets a text takes. -/
def length (s : String) : Nat := s.utf8ByteSize

@[simp] theorem length_encode (s : String) : (encode s).length = length s := by
  rw [encode, Array.length_toList]
  rfl

/-! ## 2. Reading with replacement -/

/-- What the first octet of a sequence announces: how many octets follow, in which range the next one
lies, and the bits it carries itself.  Octets that start nothing announce `none`. -/
structure Sequence where
  /-- How many octets follow the first. -/
  following : Nat
  /-- The least second octet. -/
  low : Nat
  /-- The greatest second octet. -/
  high : Nat
  /-- The bits of the character that the first octet carries. -/
  bits : Nat

/-- The well-formed sequences of more than one octet, by their first octet: the ranges of the second
octet shut out overlong forms, surrogates and numbers above the last code point. -/
def Sequence.expect (first : Nat) : Option Sequence :=
  if first < 0xC2 then none
  else if first < 0xE0 then some ⟨1, 0x80, 0xBF, first - 0xC0⟩
  else if first = 0xE0 then some ⟨2, 0xA0, 0xBF, 0⟩
  else if first = 0xED then some ⟨2, 0x80, 0x9F, 0xD⟩
  else if first < 0xF0 then some ⟨2, 0x80, 0xBF, first - 0xE0⟩
  else if first = 0xF0 then some ⟨3, 0x90, 0xBF, 0⟩
  else if first < 0xF4 then some ⟨3, 0x80, 0xBF, first - 0xF0⟩
  else if first = 0xF4 then some ⟨3, 0x80, 0x8F, 4⟩
  else none

/-- Follows a sequence: the character it gives, or `none` if it breaks off, and how many of the
octets after the first belong to it. -/
def follow : (following low high bits taken : Nat) → Bytes → Option Char × Nat
  | 0, _, _, bits, taken, _ => (some (Char.ofNat bits), taken)
  | _ + 1, _, _, _, taken, [] => (none, taken)
  | following + 1, low, high, bits, taken, b :: bs =>
    if low ≤ b.toNat ∧ b.toNat ≤ high then
      follow following 0x80 0xBF (bits * 64 + b.toNat % 64) (taken + 1) bs
    else (none, taken)

/-- The first character or broken part of an octet string, and how many octets after the first
belong to it. -/
def next (first : UInt8) (rest : Bytes) : Option Char × Nat :=
  if first.toNat < 0x80 then (some (Char.ofNat first.toNat), 0)
  else match Sequence.expect first.toNat with
    | none => (none, 0)
    | some q => follow q.following q.low q.high q.bits 0 rest

/-- The characters of an octet string, the replacement character standing for each broken part. -/
def chars : Bytes → List Char
  | [] => []
  | b :: bs =>
    let (c, taken) := next b bs
    c.getD '\uFFFD' :: chars (bs.drop taken)
termination_by bs => bs.length
decreasing_by simp only [List.length_drop, List.length_cons]; omega

/-- The text of any octet string, the replacement character standing for each broken part. -/
def decodeLossy (bs : Bytes) : String := String.ofList (chars bs)

end Readout.Text.Utf8
