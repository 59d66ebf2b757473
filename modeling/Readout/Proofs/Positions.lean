/-
# Taking data apart, by positions

`Layout.demultiplex` cuts data into blocks and deals them out.  `Layout.channelSamples` says instead
where each sample of a channel lies: sample `s` of waveform `w` at `Layout.index w c s`.  This file
proves that the two are the same.

* `demultiplex_eq_ok` -- data of the right length is taken apart, and each channel gets its samples by
  their positions;
* `channelSamples_append` -- joining data at the end of a waveform joins what each channel gets.
-/
import Mathlib.Data.List.Basic
import Mathlib.Data.List.GetD
import Mathlib.Data.List.Zip
import Readout.Acquire.Layout

namespace Readout

variable {α β : Type}

/-! ## 1. Pieces by their place -/

/-- A run of items by their positions. -/
theorem take_drop_eq_map {items : List α} {start width : Nat} (d : α)
    (h : start + width ≤ items.length) :
    (items.drop start).take width = (List.range width).map fun i => items.getD (start + i) d := by
  apply List.ext_getElem
  · simp only [List.length_take, List.length_drop, List.length_map, List.length_range]
    omega
  · intro i h₁ h₂
    have hi : i < width := by simpa using h₂
    simp [List.getElem_take, List.getElem_drop, List.getD_eq_getElem?_getD,
      List.getElem?_eq_getElem (show start + i < items.length by omega)]

theorem piecesOnto_eq (width count : Nat) (done : List (List α)) (items : List α) :
    piecesOnto width count done items =
      done.reverse ++ (List.range count).map fun i => (items.drop (i * width)).take width := by
  induction count generalizing done items with
  | zero => simp [piecesOnto]
  | succ count ih =>
    rw [piecesOnto, ih, List.range_succ_eq_map]
    simp only [List.reverse_cons, List.append_assoc, List.singleton_append, List.map_cons,
      List.map_map, Nat.zero_mul, List.drop_zero]
    congr 2
    apply List.map_congr_left
    intro i _
    simp only [Function.comp_apply, List.drop_drop, Nat.succ_mul]
    rw [Nat.add_comm]

/-- The pieces of a list by their places. -/
theorem pieces_eq_map {width : Nat} (h : width ≠ 0) (items : List α) :
    pieces width items =
      (List.range (items.length / width)).map fun i => (items.drop (i * width)).take width := by
  rw [pieces, if_neg h, piecesOnto_eq, List.reverse_nil, List.nil_append]

@[simp] theorem pieces_nil (width : Nat) : pieces width ([] : List α) = [] := by
  unfold pieces
  split <;> simp [piecesOnto]

/-- The first piece, and those behind it. -/
theorem pieces_of_first {width : Nat} (h : width ≠ 0) {first : List α} (hfirst : first.length = width)
    (rest : List α) : pieces width (first ++ rest) = first :: pieces width rest := by
  have hcount : (first ++ rest).length / width = rest.length / width + 1 := by
    rw [List.length_append, hfirst, Nat.add_div_left _ (Nat.pos_of_ne_zero h)]
  rw [pieces_eq_map h, pieces_eq_map h, hcount, List.range_succ_eq_map, List.map_cons, List.map_map]
  refine congrArg₂ List.cons ?_ (List.map_congr_left ?_)
  · simp [← hfirst]
  · intro i _
    have hdrop : (i + 1) * width = first.length + i * width := by
      rw [hfirst, Nat.succ_mul, Nat.add_comm]
    rw [Function.comp_apply, hdrop, List.drop_length_add_append]

/-- Pieces of one width, joined, have that width each. -/
theorem length_flatten_of_width {width : Nat} {blocks : List (List α)}
    (hblocks : ∀ block ∈ blocks, block.length = width) :
    blocks.flatten.length = width * blocks.length := by
  rw [List.length_flatten, List.map_congr_left hblocks, List.map_const', List.sum_replicate_nat,
    Nat.mul_comm]

/-- Pieces of one width, joined, are cut apart again. -/
theorem pieces_flatten_append {width : Nat} (h : width ≠ 0) {blocks : List (List α)}
    (hblocks : ∀ block ∈ blocks, block.length = width) (rest : List α) :
    pieces width (blocks.flatten ++ rest) = blocks ++ pieces width rest := by
  induction blocks with
  | nil => rfl
  | cons block blocks ih =>
    rw [List.flatten_cons, List.append_assoc, pieces_of_first h (hblocks block List.mem_cons_self),
      ih fun other hother => hblocks other (List.mem_cons_of_mem _ hother)]
    rfl

theorem length_of_mem_pieces {width : Nat} (h : width ≠ 0) {items piece : List α}
    (hpiece : piece ∈ pieces width items) : piece.length = width := by
  rw [pieces_eq_map h] at hpiece
  obtain ⟨i, hi, rfl⟩ := List.mem_map.mp hpiece
  have hwithin : (i + 1) * width ≤ items.length :=
    Nat.le_trans (Nat.mul_le_mul_right width (List.mem_range.mp hi)) (Nat.div_mul_le_self ..)
  rw [Nat.succ_mul] at hwithin
  rw [List.length_take, List.length_drop]
  omega

/-- Whole pieces are cut off first. -/
theorem pieces_append {width : Nat} (h : width ≠ 0) {front : List α} (hdvd : width ∣ front.length)
    (rest : List α) : pieces width (front ++ rest) = pieces width front ++ pieces width rest := by
  have hwidths : ∀ piece ∈ pieces width front, piece.length = width :=
    fun piece hpiece => length_of_mem_pieces h hpiece
  have hcut := pieces_flatten_append h hwidths rest
  rwa [pieces_flatten h hdvd] at hcut

/-- Where every item becomes a list of one length, an item of the joined lists is found by its list and
its place there. -/
theorem getD_flatMap {items : List β} {f : β → List α} {width i j : Nat} (d : α)
    (hwidth : ∀ item ∈ items, (f item).length = width) (hi : i < items.length) (hj : j < width) :
    (items.flatMap f).getD (i * width + j) d = (f items[i]).getD j d := by
  induction items generalizing i with
  | nil => cases hi
  | cons item items ih =>
    obtain ⟨hitem, hitems⟩ := List.forall_mem_cons.mp hwidth
    rw [List.flatMap_cons]
    cases i with
    | zero =>
      rw [Nat.zero_mul, Nat.zero_add, List.getD_append _ _ _ _ (hitem ▸ hj)]
      rfl
    | succ i =>
      have hbehind : (i + 1) * width + j = (f item).length + (i * width + j) := by
        rw [hitem, Nat.succ_mul]
        omega
      rw [hbehind, List.getD_append_right _ _ _ _ (Nat.le_add_right _ _), Nat.add_sub_cancel_left]
      exact ih hitems (Nat.lt_of_succ_lt_succ hi)

/-! ## 2. Dealing by the channel's place -/

/-- Dealing gives each channel its block of every waveform, in order. -/
theorem deal_eq_map {channels : Nat} {waveforms : List (List (List α))}
    (h : ∀ w ∈ waveforms, w.length = channels) :
    deal channels waveforms =
      (List.range channels).map fun c => waveforms.flatMap fun w => w.getD c [] := by
  induction waveforms with
  | nil =>
    apply List.ext_getElem <;> simp [deal]
  | cons w waveforms ih =>
    have hw : w.length = channels := h w List.mem_cons_self
    have hrest := ih fun v hv => h v (List.mem_cons_of_mem _ hv)
    have hdeal : deal channels (w :: waveforms) =
        List.zipWith (· ++ ·) w (deal channels waveforms) := rfl
    rw [hdeal, hrest]
    apply List.ext_getElem
    · simp [hw]
    · intro c h₁ h₂
      have hc : c < w.length := by simp at h₁; omega
      simp [List.getD_eq_getElem?_getD, List.getElem?_eq_getElem hc]

/-- Adding to every list twice is adding both at once. -/
theorem zipWith_append_assoc (held first second : List (List α)) :
    List.zipWith (· ++ ·) (List.zipWith (· ++ ·) held first) second =
      List.zipWith (· ++ ·) held (List.zipWith (· ++ ·) first second) := by
  rw [List.zipWith_zipWith_left, List.zipWith_zipWith_right]
  simp only [List.append_assoc]

namespace Layout

/-! ## 3. Positions -/

/-- A whole row before the end of some rows. -/
theorem row_le {row rows : Nat} (width : Nat) (h : row < rows) : row * width + width ≤ rows * width := by
  rw [← Nat.succ_mul]
  exact Nat.mul_le_mul_right width h

/-- The samples of a channel in data of some waveforms, by their positions: waveform by waveform, and
in each sample by sample. -/
def channelSamples (l : Layout) (channel waveforms : Nat) (data : List UInt32) : List UInt16 :=
  (List.range waveforms).flatMap fun w =>
    (List.range l.samples).map fun s => narrow (data.getD (l.index w channel s) 0)

/-- What all channels get of data of some waveforms. -/
def allSamples (l : Layout) (waveforms : Nat) (data : List UInt32) : List (List UInt16) :=
  (List.range l.channels).map fun c => l.channelSamples c waveforms data

theorem allSamples_zero (l : Layout) (data : List UInt32) :
    l.allSamples 0 data = List.replicate l.channels [] := by
  simp [allSamples, channelSamples, List.map_const']

@[simp] theorem length_allSamples (l : Layout) (waveforms : Nat) (data : List UInt32) :
    (l.allSamples waveforms data).length = l.channels := by
  simp [allSamples]

@[simp] theorem length_channelSamples (l : Layout) (channel waveforms : Nat) (data : List UInt32) :
    (l.channelSamples channel waveforms data).length = waveforms * l.samples := by
  simp [channelSamples, List.length_flatMap, List.map_const']

theorem index_lt {l : Layout} {waveforms w c s : Nat} (hw : w < waveforms) (hc : c < l.channels)
    (hs : s < l.samples) : l.index w c s < l.channels * l.samples * waveforms := by
  have hrow : w * l.channels + c + 1 ≤ waveforms * l.channels := by
    have := row_le l.channels hw
    omega
  calc l.index w c s < (w * l.channels + c + 1) * l.samples := by
        rw [index, Nat.succ_mul]
        omega
    _ ≤ waveforms * l.channels * l.samples := Nat.mul_le_mul_right _ hrow
    _ = l.channels * l.samples * waveforms := by
        rw [Nat.mul_comm waveforms, Nat.mul_right_comm]

/-- A block of narrowed data holds the samples at its positions. -/
theorem block_eq_map {l : Layout} {waveforms w c : Nat} {data : List UInt32}
    (h : data.length = l.channels * l.samples * waveforms) (hw : w < waveforms)
    (hc : c < l.channels) :
    ((data.map narrow).drop ((w * l.channels + c) * l.samples)).take l.samples =
      (List.range l.samples).map fun s => narrow (data.getD (l.index w c s) 0) := by
  have hend : (w * l.channels + c) * l.samples + l.samples ≤ data.length := by
    have hrow : w * l.channels + c + 1 ≤ waveforms * l.channels := by
      have := row_le l.channels hw
      omega
    calc (w * l.channels + c) * l.samples + l.samples
        = (w * l.channels + c + 1) * l.samples := (Nat.succ_mul _ _).symm
      _ ≤ waveforms * l.channels * l.samples := Nat.mul_le_mul_right _ hrow
      _ = data.length := by rw [h, Nat.mul_comm waveforms, Nat.mul_right_comm]
  rw [take_drop_eq_map (narrow 0) (by simpa using hend)]
  apply List.map_congr_left
  intro s _
  rw [List.getD_map]
  rfl

/-- Dealing out the blocks of whole waveforms gives each channel its samples by their positions. -/
theorem deal_pieces_eq {l : Layout} {waveforms : Nat} {data : List UInt32}
    (h : data.length = l.channels * l.samples * waveforms) :
    deal l.channels (pieces l.channels (pieces l.samples (data.map narrow))) =
      l.allSamples waveforms data := by
  rcases Nat.eq_zero_or_pos l.samples with hs | hs
  · have hnone : pieces l.samples (data.map narrow) = [] := by rw [pieces, if_pos hs]
    rw [hnone, pieces_nil]
    simp [deal, allSamples, channelSamples, hs, List.map_const']
  rcases Nat.eq_zero_or_pos l.channels with hc | hc
  · simp [pieces, hc, deal, allSamples]
  have hblocks : (pieces l.samples (data.map narrow)).length = waveforms * l.channels := by
    rw [length_pieces (Nat.ne_of_gt hs), List.length_map, h, Nat.mul_right_comm, Nat.mul_div_cancel _ hs,
      Nat.mul_comm]
  have hcut : pieces l.channels (pieces l.samples (data.map narrow)) =
      (List.range waveforms).map fun w =>
        ((pieces l.samples (data.map narrow)).drop (w * l.channels)).take l.channels := by
    rw [pieces_eq_map (Nat.ne_of_gt hc), hblocks, Nat.mul_div_cancel _ hc]
  have hlen : ∀ blocks ∈ pieces l.channels (pieces l.samples (data.map narrow)),
      blocks.length = l.channels := by
    intro blocks hmem
    rw [hcut] at hmem
    obtain ⟨w, hw, rfl⟩ := List.mem_map.mp hmem
    have hrow := row_le l.channels (List.mem_range.mp hw)
    rw [List.length_take, List.length_drop, hblocks]
    omega
  rw [deal_eq_map hlen, hcut, allSamples]
  apply List.map_congr_left
  intro c hmem
  have hc' : c < l.channels := List.mem_range.mp hmem
  rw [List.flatMap_map, channelSamples]
  apply List.flatMap_congr
  intro w hmem
  have hw : w < waveforms := List.mem_range.mp hmem
  have hrow := row_le l.channels hw
  rw [← block_eq_map h hw hc', List.getD_eq_getElem?_getD, List.getElem?_take_of_lt hc',
    List.getElem?_drop, pieces_eq_map (Nat.ne_of_gt hs), List.getElem?_map, List.getElem?_range]
  · rfl
  · rw [← length_pieces (Nat.ne_of_gt hs), hblocks]
    omega

/-! ## 4. What taking apart gives -/

/-- **Data of the right length is taken apart, and each channel gets its samples by their
positions.** -/
theorem demultiplex_eq_ok {l : Layout} {waveforms : Nat} {data : List UInt32}
    (h : l.samplesIn? waveforms = some data.length) :
    l.demultiplex waveforms data = .ok (l.allSamples waveforms data) := by
  have hlen := (samplesIn?_eq_some_iff.mp h).2.1
  rw [demultiplex, h]
  simp [deal_pieces_eq hlen]

theorem samplesIn?_of_demultiplex {l : Layout} {waveforms : Nat} {data : List UInt32}
    {batches : List (List UInt16)} (h : l.demultiplex waveforms data = .ok batches) :
    l.samplesIn? waveforms = some data.length := by
  unfold demultiplex at h
  split at h
  · cases h
  · rename_i expected hexp
    split at h
    · cases h
    · rename_i hlen
      rw [hexp, Decidable.not_not.mp hlen]

/-- **Joining data at the end of a waveform joins what each channel gets.** -/
theorem channelSamples_append {l : Layout} {c m n : Nat} {first second : List UInt32}
    (h : first.length = l.channels * l.samples * m) (hc : c < l.channels) :
    l.channelSamples c (m + n) (first ++ second) =
      l.channelSamples c m first ++ l.channelSamples c n second := by
  have hshift : ∀ w s, l.index (m + w) c s = first.length + l.index w c s := by
    intro w s
    rw [h, index, index, Nat.add_mul m, Nat.add_assoc, Nat.add_mul, Nat.add_assoc]
    congr 1
    rw [Nat.mul_comm m, Nat.mul_right_comm]
  simp only [channelSamples, List.range_add, List.flatMap_append, List.flatMap_map]
  congr 1
  · apply List.flatMap_congr
    intro w hw
    apply List.map_congr_left
    intro s hs
    have hlt := index_lt (List.mem_range.mp hw) hc (List.mem_range.mp hs)
    rw [List.getD_append _ _ _ _ (by omega)]
  · apply List.flatMap_congr
    intro w _
    apply List.map_congr_left
    intro s _
    rw [hshift, List.getD_append_right _ _ _ _ (Nat.le_add_right _ _), Nat.add_sub_cancel_left]

/-- Joining data at the end of a waveform joins what all channels get. -/
theorem allSamples_append {l : Layout} {m n : Nat} {first second : List UInt32}
    (h : first.length = l.channels * l.samples * m) :
    List.zipWith (· ++ ·) (l.allSamples m first) (l.allSamples n second) =
      l.allSamples (m + n) (first ++ second) := by
  apply List.ext_getElem
  · simp
  · intro c h₁ h₂
    have hc : c < l.channels := by simpa using h₂
    simp [allSamples, channelSamples_append h hc]

end Layout

end Readout
