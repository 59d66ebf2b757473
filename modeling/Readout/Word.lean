/-
# Sizes that fit a machine word

Sizes are counted in natural numbers.  Where a size has to fit in 64 bits, the operations of this
file say what happens when it does not: `mul?` refuses, `addSat` and `mulSat` stop at the top.

A count that is kept in a word and to which nothing looks starts again from zero behind the top: it is
right as long as it has not got there (`toNat_add_ofNat_eq_iff`).
-/

namespace Readout.Word

/-- The number of different 64-bit words. -/
def size : Nat := 0x10000000000000000

/-- The largest 64-bit word. -/
def top : Nat := size - 1

/-- The product, unless it does not fit in a word. -/
def mul? (a b : Nat) : Option Nat :=
  if a * b < size then some (a * b) else none

/-- The product, or the largest word where that is smaller. -/
def mulSat (a b : Nat) : Nat := min (a * b) top

/-- The sum, or the largest word where that is smaller. -/
def addSat (a b : Nat) : Nat := min (a + b) top

theorem mul?_eq_some_iff {a b c : Nat} : mul? a b = some c ↔ c = a * b ∧ a * b < size := by
  unfold mul?
  split <;> simp_all [eq_comm]

theorem mul?_eq_none_iff {a b : Nat} : mul? a b = none ↔ size ≤ a * b := by
  unfold mul?
  split <;> simp_all

/-- Adding to a count goes round where it leaves the words. -/
theorem toNat_add_ofNat (count : UInt64) (n : Nat) :
    (count + .ofNat n).toNat = (count.toNat + n) % size := by
  rw [UInt64.toNat_add, UInt64.toNat_ofNat']
  exact Nat.add_mod_mod ..

/-- **Adding to a count is right where the sum is a word, and only there.** -/
theorem toNat_add_ofNat_eq_iff {count : UInt64} {n : Nat} :
    (count + .ofNat n).toNat = count.toNat + n ↔ count.toNat + n < size := by
  rw [toNat_add_ofNat]
  exact ⟨fun h => h ▸ Nat.mod_lt _ (Nat.zero_lt_succ _), Nat.mod_eq_of_lt⟩

/-- What half a word counts is a word. -/
theorem lt_size_of_le {n : Nat} {half : UInt32} (h : n ≤ half.toNat) : n < size :=
  Nat.lt_of_le_of_lt h (Nat.lt_trans half.toNat_lt (by decide))

/-- What is counted first is what half a word says. -/
theorem toNat_zero_add_ofNat (half : UInt32) : ((0 : UInt64) + .ofNat half.toNat).toNat = half.toNat := by
  have hword : (0 : UInt64).toNat + half.toNat < size := lt_size_of_le (Nat.le_of_eq (Nat.zero_add _))
  rw [toNat_add_ofNat_eq_iff.mpr hword]
  exact Nat.zero_add _

end Readout.Word
