/-
# Octet strings and little-endian words

Everything that crosses a connection or lies in a channel file is a list of octets.  This file
fixes how a number is laid out in a given count of octets, least significant octet first, and
settles that reading such a field undoes writing it:

* `ofLittleEndian_littleEndian` -- a number below `256 ^ width` is read back as itself;
* `littleEndian_ofLittleEndian` -- any octet string is the field of the number read from it.
-/

namespace Readout

/-- An octet string. -/
abbrev Bytes := List UInt8

namespace Bytes

/-! ## Fixed-width fields -/

/-- The number `n` in `width` octets, least significant first; higher octets are dropped. -/
def littleEndian : (width n : Nat) → Bytes
  | 0, _ => []
  | width + 1, n => UInt8.ofNat n :: littleEndian width (n / 256)

/-- The number whose octets, least significant first, are given. -/
def ofLittleEndian : Bytes → Nat
  | [] => 0
  | b :: bs => b.toNat + 256 * ofLittleEndian bs

@[simp] theorem length_littleEndian (width n : Nat) : (littleEndian width n).length = width := by
  induction width generalizing n with
  | zero => rfl
  | succ width ih => simp [littleEndian, ih]

theorem ofLittleEndian_littleEndian {width n : Nat} (h : n < Nat.pow 256 width) :
    ofLittleEndian (littleEndian width n) = n := by
  induction width generalizing n with
  | zero => exact (Nat.lt_one_iff.mp h).symm
  | succ width ih =>
    have hlt : n / 256 < Nat.pow 256 width := by
      have h' : n < Nat.pow 256 width * 256 := h
      omega
    simp only [littleEndian, ofLittleEndian, ih hlt, UInt8.toNat_ofNat']
    omega

theorem littleEndian_ofLittleEndian (bs : Bytes) :
    littleEndian bs.length (ofLittleEndian bs) = bs := by
  induction bs with
  | nil => rfl
  | cons b bs ih =>
    have hb := b.toNat_lt
    have hdiv : (b.toNat + 256 * ofLittleEndian bs) / 256 = ofLittleEndian bs := by omega
    simp only [List.length_cons, littleEndian, ofLittleEndian, hdiv, ih, List.cons.injEq, and_true]
    apply UInt8.toNat_inj.mp
    rw [UInt8.toNat_ofNat']
    omega

theorem ofLittleEndian_lt (bs : Bytes) : ofLittleEndian bs < Nat.pow 256 bs.length := by
  induction bs with
  | nil => exact Nat.zero_lt_one
  | cons b bs ih =>
    have hb := b.toNat_lt
    show b.toNat + 256 * ofLittleEndian bs < Nat.pow 256 bs.length * 256
    omega

end Bytes

end Readout
