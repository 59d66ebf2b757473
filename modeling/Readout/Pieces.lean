/-
# Cutting a list into pieces of one width

A block of samples is cut into waveforms, a waveform batch into channel blocks, a file into samples:
each time a list whose length is a multiple of the width.  `pieces_flatten` settles that nothing is
lost then; a shorter remainder is dropped.
-/

namespace Readout

variable {α : Type}

/-- The first `count` pieces of `width` items, put in front of the pieces already cut (last first). -/
def piecesOnto (width : Nat) : (count : Nat) → List (List α) → List α → List (List α)
  | 0, done, _ => done.reverse
  | count + 1, done, items =>
    piecesOnto width count (items.take width :: done) (items.drop width)

/-- The pieces of `width` items that the list holds, in order; there are none of width zero. -/
def pieces (width : Nat) (items : List α) : List (List α) :=
  if width = 0 then [] else piecesOnto width (items.length / width) [] items

/-! ## What the pieces hold -/

theorem length_piecesOnto (width count : Nat) (done : List (List α)) (items : List α) :
    (piecesOnto width count done items).length = done.length + count := by
  induction count generalizing done items with
  | zero => simp [piecesOnto]
  | succ count ih => simp [piecesOnto, ih]; omega

@[simp] theorem length_pieces {width : Nat} (h : width ≠ 0) (items : List α) :
    (pieces width items).length = items.length / width := by
  simp [pieces, h, length_piecesOnto]

theorem flatten_piecesOnto (width count : Nat) (done : List (List α)) (items : List α) :
    (piecesOnto width count done items).flatten =
      done.reverse.flatten ++ items.take (count * width) := by
  induction count generalizing done items with
  | zero => simp [piecesOnto]
  | succ count ih =>
    rw [piecesOnto, ih, Nat.succ_mul, Nat.add_comm (count * width), List.take_add]
    simp

/-- **Cutting at a width that divides the length loses nothing.** -/
theorem pieces_flatten {width : Nat} (h : width ≠ 0) {items : List α}
    (hdvd : width ∣ items.length) : (pieces width items).flatten = items := by
  rw [pieces, if_neg h, flatten_piecesOnto, Nat.div_mul_cancel hdvd]
  simp

end Readout
