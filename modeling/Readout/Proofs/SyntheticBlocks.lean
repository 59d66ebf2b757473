/-
# What synthetic data holds

A block of synthetic data has a sample for each waveform, channel and place, at the position that the
layout of a request says.  Taken apart, it gives each channel the low halves of its samples, waveform by
waveform (`Synthetic.recorded`); and a stream that is cut into chunks is one block when it is joined again.

* `Synthetic.allSamples_block` -- what each channel gets of a block;
* `Tiles.joined` -- the blocks of a stream's cuts make up one block;
* `length_cuts` -- how many cuts there are.
-/
import Readout.Proofs.Positions
import Readout.Proofs.SimulatedAnswers

namespace Readout

namespace Synthetic

/-! ## 1. Samples by their positions -/

variable {channels : List UInt32} {first waveforms samples w c s : Nat}

/-- **A block has each sample at the position that the layout says.** -/
theorem getD_block (hw : w < waveforms) (hc : c < channels.length) (hs : s < samples) :
    (block channels first waveforms samples).getD
        (Layout.index ⟨channels.length, samples⟩ w c s) 0 =
      sample (UInt32.ofNat (first + w)) channels[c] (UInt32.ofNat s) := by
  have hposition : Layout.index ⟨channels.length, samples⟩ w c s =
      w * (channels.length * samples) + (c * samples + s) := by
    rw [Layout.index, Nat.add_mul, Nat.mul_assoc, Nat.add_assoc]
  have hwithin : c * samples + s < channels.length * samples :=
    Nat.lt_of_lt_of_le (Nat.add_lt_add_left hs _) (Layout.row_le samples hc)
  have hcount : w < (List.range' first waveforms).length := by rwa [List.length_range']
  rw [hposition, block, getD_flatMap 0 (fun number _ => length_waveform ..) hcount hwithin, waveform,
    getD_flatMap 0 (fun channel _ => length_run ..) hc hs, List.getElem_range', Nat.one_mul, run,
    List.getD_eq_getElem _ _ (by simpa using hs), List.getElem_map, List.getElem_range]

/-- What is recorded of a channel: the low halves of its samples, waveform by waveform. -/
def recorded (waveforms samples : Nat) (channel : UInt32) : List UInt16 :=
  (List.range waveforms).flatMap fun w =>
    (List.range samples).map fun s => narrow (sample (UInt32.ofNat w) channel (UInt32.ofNat s))

/-- **A block from the first waveform on gives each channel what is recorded of it.** -/
theorem allSamples_block (channels : List UInt32) (waveforms samples : Nat) :
    Layout.allSamples ⟨channels.length, samples⟩ waveforms (block channels 0 waveforms samples) =
      channels.map (recorded waveforms samples) := by
  apply List.ext_getElem
  · rw [Layout.length_allSamples, List.length_map]
  · intro c hall hc
    have hc : c < channels.length := by simpa using hc
    simp only [Layout.allSamples, Layout.channelSamples, List.getElem_map, List.getElem_range, recorded]
    apply List.flatMap_congr
    intro w hw
    apply List.map_congr_left
    intro s hs
    rw [getD_block (List.mem_range.mp hw) hc (List.mem_range.mp hs), Nat.zero_add]

/-! ## 2. Blocks one after another -/

theorem block_append (channels : List UInt32) (first before behind samples : Nat) :
    block channels first (before + behind) samples =
      block channels first before samples ++ block channels (first + before) behind samples := by
  rw [block, block, block, ← List.flatMap_append, ← List.range'_append, Nat.one_mul]

end Synthetic

/-- **The blocks of a stream's cuts make up one block.** -/
theorem Tiles.joined {most total sent : Nat} {cuts : List Cut} (h : Tiles most total sent cuts)
    (channels : List UInt32) (samples : Nat) :
    (cuts.flatMap fun cut => Synthetic.block channels cut.first cut.waveforms samples) =
      Synthetic.block channels sent (total - sent) samples := by
  induction h with
  | @last sent waveforms ends bounded =>
    obtain rfl : waveforms = total - sent := by omega
    rw [List.flatMap_cons, List.flatMap_nil, List.append_nil]
  | @more sent waveforms cuts room bounded rest ih =>
    have hsplit : total - sent = waveforms + (total - (sent + waveforms)) := by omega
    rw [List.flatMap_cons, ih, hsplit, Synthetic.block_append]

/-! ## 3. How many cuts there are -/

theorem length_cutsFrom {size total sent : Nat} (h : sent ≤ total) :
    (cutsFrom size total sent).length =
      max 1 ((total - sent + max size 1 - 1) / max size 1) := by
  have hpos : 0 < max size 1 := Nat.le_max_right size 1
  fun_induction cutsFrom size total sent with
  | case1 sent waveforms hend =>
    have hsize : waveforms = min (max size 1) (total - sent) := rfl
    have hone : (total - sent + max size 1 - 1) / max size 1 < 2 :=
      (Nat.div_lt_iff_lt_mul hpos).mpr (by omega)
    rw [List.length_singleton]
    omega
  | case2 sent waveforms hend ih =>
    have hsize : waveforms = min (max size 1) (total - sent) := rfl
    have hfull : waveforms = max size 1 := by omega
    have hless : total - (sent + waveforms) + max size 1 - 1 = total - sent - 1 := by omega
    have hmore : total - sent + max size 1 - 1 = total - sent - 1 + max size 1 := by omega
    have hsome : 0 < (total - sent - 1) / max size 1 := Nat.div_pos (by omega) hpos
    rw [List.length_cons, ih (by omega), hless, hmore, Nat.add_div_right _ hpos]
    omega

/-- **A stream is cut into as few chunks as its size admits**, but into one at least. -/
theorem length_cuts {size : Nat} (hpos : 0 < size) (total : Nat) :
    (cuts size total).length = max 1 ((total + size - 1) / size) := by
  have hlength : (cutsFrom size total 0).length = _ := length_cutsFrom (Nat.zero_le total)
  rwa [Nat.max_eq_left hpos, Nat.sub_zero] at hlength

end Readout
