/-
# Ranges of characters

A class of characters as a list of ranges, each the number of its first and of its last character.
In a table the ranges ascend and do not touch, so that none can be left out or joined with the next.
-/

namespace Readout.Text

/-- Ranges of characters by number: the first and the last of each. -/
abbrev Ranges := List (Nat × Nat)

namespace Ranges

/-- Whether a character lies in one of the ranges. -/
def contains (r : Ranges) (c : Char) : Bool :=
  r.any fun (first, last) => first ≤ c.toNat && c.toNat ≤ last

/-- Whether ranges ascend, none of them empty, with a gap between any two; all of them lie above a
number. -/
def ascend (above : Nat) : Ranges → Bool
  | [] => true
  | (first, last) :: r => above < first && first ≤ last && ascend (last + 1) r

/-- What lies in ascending ranges is above their bound. -/
theorem lt_of_ascend {above : Nat} {r : Ranges} (h : r.ascend above = true) {c : Char}
    (hc : r.contains c = true) : above < c.toNat := by
  induction r generalizing above with
  | nil => simp [contains] at hc
  | cons p r ih =>
    simp only [ascend, Bool.and_eq_true, decide_eq_true_eq] at h
    simp only [contains, List.any_cons, Bool.or_eq_true, Bool.and_eq_true, decide_eq_true_eq] at hc
    rcases hc with hc | hc
    · omega
    · have := ih h.2 (by simpa [contains] using hc)
      omega

end Ranges

end Readout.Text
