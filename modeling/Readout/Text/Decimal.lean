/-
# Decimal numbers in text

A number is read from one or more ASCII digits, with one plus sign allowed in front; leading zeros
are allowed too.  The reader gives the value however large it is, and `read?` refuses a value above
a bound.
-/

namespace Readout.Text.Decimal

/-- The value of a digit sequence, or `none` at a character that is no ASCII digit. -/
def digits? (value : Nat) : List Char → Option Nat
  | [] => some value
  | c :: cs =>
    if '0' ≤ c ∧ c ≤ '9' then digits? (value * 10 + (c.toNat - '0'.toNat)) cs else none

/-- The value of one or more digits after an optional plus sign. -/
def value? : List Char → Option Nat
  | [] => none
  | ['+'] => none
  | '+' :: cs => digits? 0 cs
  | cs => digits? 0 cs

/-- The value of one or more digits after an optional plus sign, unless it exceeds `bound`. -/
def read? (bound : Nat) (cs : List Char) : Option Nat :=
  match value? cs with
  | some n => if n ≤ bound then some n else none
  | none => none

theorem read?_le {bound n : Nat} {cs : List Char} (h : read? bound cs = some n) : n ≤ bound := by
  unfold read? at h
  split at h
  · split at h
    · cases h; assumption
    · cases h
  · cases h

/-- The digits of a number, filled with zeros on the left to the given width. -/
def padded (width n : Nat) : String :=
  let ds := toString n
  String.ofList (List.replicate (width - ds.length) '0') ++ ds

end Readout.Text.Decimal
