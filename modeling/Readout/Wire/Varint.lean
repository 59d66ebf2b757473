/-
# Numbers in groups of seven bits

A 64-bit number is written in groups of seven bits, the lowest group first; every octet but the last
has its high bit set.  Ten groups hold 64 bits, the tenth only its lowest bit.

* `read?_write_append` -- a written number is read back, and the octets after it are left;
* `length_lt_of_read?` -- reading takes at least one octet.

Reading also admits forms with needless zero groups; writing never makes them.
-/
import Readout.Bytes
import Readout.Word

namespace Readout.Wire.Varint

/-! ## 1. Writing and reading -/

/-- Writes a number in at most `groups` groups. -/
def writeGroups : (groups n : Nat) → Bytes
  | 0, _ => []
  | groups + 1, n =>
    if n < 128 then [UInt8.ofNat n]
    else UInt8.ofNat (n % 128 + 128) :: writeGroups groups (n / 128)

/-- Reads a number of at most `groups` groups, of which the last may hold one bit only. -/
def readGroups : (groups : Nat) → Bytes → Option (Nat × Bytes)
  | 0, _ => none
  | _ + 1, [] => none
  | groups + 1, b :: bs =>
    if b.toNat < 128 then
      if groups = 0 ∧ 1 < b.toNat then none else some (b.toNat, bs)
    else
      match readGroups groups bs with
      | some (high, rest) => some (b.toNat - 128 + 128 * high, rest)
      | none => none

/-- Writes a number below `2 ^ 64`. -/
def write (n : Nat) : Bytes := writeGroups 10 n

/-- Reads the number at the start, and gives the octets after it. -/
def read? (bs : Bytes) : Option (Nat × Bytes) := readGroups 10 bs

/-! ## 2. Reading undoes writing -/

theorem readGroups_writeGroups_append {groups n : Nat} (h : n < 2 * Nat.pow 128 groups) (rest : Bytes) :
    readGroups (groups + 1) (writeGroups (groups + 1) n ++ rest) = some (n, rest) := by
  induction groups generalizing n with
  | zero =>
    have h' : n < 2 * 1 := h
    have hn : n % 256 = n := by omega
    rw [writeGroups, if_pos (by omega)]
    simp [readGroups, hn]
    omega
  | succ groups ih =>
    rw [writeGroups]
    split
    · rename_i hn
      have hn' : n % 256 = n := by omega
      simp [readGroups, hn', hn]
    · rename_i hn
      have hdiv : n / 128 < 2 * Nat.pow 128 groups := by
        have h' : n < 2 * (Nat.pow 128 groups * 128) := h
        omega
      have hb : (UInt8.ofNat (n % 128 + 128)).toNat = n % 128 + 128 := by
        rw [UInt8.toNat_ofNat']
        omega
      rw [List.cons_append, readGroups, hb, if_neg (by omega), ih hdiv]
      simp only [Option.some.injEq, Prod.mk.injEq, and_true]
      omega

/-- **A written number is read back, and what follows it is left.** -/
theorem read?_write_append {n : Nat} (h : n < Word.size) (rest : Bytes) :
    read? (write n ++ rest) = some (n, rest) :=
  readGroups_writeGroups_append h rest

theorem length_lt_of_readGroups {groups n : Nat} {bs rest : Bytes}
    (h : readGroups groups bs = some (n, rest)) : rest.length < bs.length := by
  induction groups generalizing bs n rest with
  | zero => simp [readGroups] at h
  | succ groups ih =>
    cases bs with
    | nil => simp [readGroups] at h
    | cons b bs =>
      rw [readGroups] at h
      split at h
      · split at h
        · simp at h
        · simp only [Option.some.injEq, Prod.mk.injEq] at h
          simp [h.2]
      · split at h
        · rename_i high rest' hr
          simp only [Option.some.injEq, Prod.mk.injEq] at h
          have := ih hr
          rw [← h.2, List.length_cons]
          omega
        · simp at h

theorem length_lt_of_read? {n : Nat} {bs rest : Bytes} (h : read? bs = some (n, rest)) :
    rest.length < bs.length :=
  length_lt_of_readGroups h

end Readout.Wire.Varint
