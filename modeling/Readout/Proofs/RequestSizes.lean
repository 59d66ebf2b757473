/-
# What a request may ask for, and the sizes that follow from it

A request is refused unless its data fits in a word.  That is checked once, and everything that is computed
from the request later relies on it: the samples of a whole answer or of some of its waveforms, the position
of each sample, and the bound on the octets of an answer.

Positions are computed in words without a check.  `Layout.indexInWords?` checks every operation of that
computation, and for a request that was accepted none of them leaves the words (`indexInWords?_eq_index`).

* `AcquisitionRequest.exists_make_iff` -- which requests are accepted;
* `AcquisitionRequest.sizesSafe` -- what follows from that for the sizes;
* `AcquisitionRequest.make_exact` -- both, in numbers without an upper end.
-/
import Readout.Proofs.Accounts
import Readout.Proofs.MessageSizes

namespace Readout

/-! ## 1. Positions in words -/

/-- The sum, unless it does not fit in a word. -/
def Word.add? (a b : Nat) : Option Nat :=
  if a + b < size then some (a + b) else none

theorem Word.add?_eq_some {a b : Nat} (h : a + b < size) : add? a b = some (a + b) := if_pos h

theorem Word.mul?_eq_some {a b : Nat} (h : a * b < size) : mul? a b = some (a * b) := if_pos h

namespace Layout

variable {l : Layout} {waveform channel sample : Nat}

/-- The position of a sample as it is computed in words; `none` if one of the products and sums is not a
word. -/
def indexInWords? (l : Layout) (waveform channel sample : Nat) : Option Nat :=
  (Word.mul? waveform l.channels).bind fun rows =>
    (Word.add? rows channel).bind fun row =>
      (Word.mul? row l.samples).bind fun start => Word.add? start sample

/-- **No part of the computation of a position is larger than the position.** -/
theorem indexInWords?_eq_index (hsamples : 0 < l.samples)
    (h : l.index waveform channel sample < Word.size) :
    l.indexInWords? waveform channel sample = some (l.index waveform channel sample) := by
  have hrow : waveform * l.channels + channel ≤ (waveform * l.channels + channel) * l.samples :=
    Nat.le_mul_of_pos_right _ hsamples
  have hindex : l.index waveform channel sample =
      (waveform * l.channels + channel) * l.samples + sample := rfl
  rw [indexInWords?, Word.mul?_eq_some (by omega), Option.bind_some, Word.add?_eq_some (by omega),
    Option.bind_some, Word.mul?_eq_some (by omega), Option.bind_some, Word.add?_eq_some (by omega), hindex]

end Layout

namespace AcquisitionRequest

variable {channels : List UInt32} {waveforms samples : UInt32} {softwareTrigger : Bool}
  {r : AcquisitionRequest}

/-! ## 2. Which requests are accepted -/

/-- **The size of the data is checked exactly**: no product on the way to it is larger. -/
theorem sizeFits_iff (hwaveforms : waveforms ≠ 0) :
    sizeFits channels waveforms samples = true ↔
      channels.length * samples.toNat * waveforms.toNat * octetsPerSample < Word.size := by
  constructor
  · exact fits_of_sizeFits
  · intro hfits
    have hpos : 0 < waveforms.toNat := Nat.pos_of_ne_zero fun h => hwaveforms (UInt32.toNat_inj.mp h)
    have hcount : channels.length * samples.toNat * waveforms.toNat < Word.size :=
      Nat.lt_of_le_of_lt (Nat.le_mul_of_pos_right _ (by decide)) hfits
    have hstride : channels.length * samples.toNat < Word.size :=
      Nat.lt_of_le_of_lt (Nat.le_mul_of_pos_right _ hpos) hcount
    have hall : (⟨channels.length, samples.toNat⟩ : Layout).samplesIn? waveforms.toNat = some _ :=
      Layout.samplesIn?_eq_some_iff.mpr ⟨hstride, rfl, hcount⟩
    rw [sizeFits, hall, Option.bind_some, Word.mul?_eq_some hfits]
    rfl

/-- A request that is accepted asks for what it was given. -/
theorem fields_of_make (h : make channels waveforms samples softwareTrigger = .ok r) :
    r.channels = channels ∧ r.waveforms = waveforms ∧ r.samples = samples ∧
      r.softwareTrigger = softwareTrigger := by
  unfold make at h
  split at h
  · cases h
  · split at h
    · cases h
    · split at h
      · cases h
      · split at h
        · cases h
        · split at h <;> cases h
          exact ⟨rfl, rfl, rfl, rfl⟩

/-- **A request is accepted exactly if it is acceptable.** -/
theorem exists_make_iff :
    (∃ r, make channels waveforms samples softwareTrigger = .ok r) ↔
      Acceptable channels waveforms samples := by
  constructor
  · rintro ⟨r, h⟩
    obtain ⟨rfl, rfl, rfl, -⟩ := fields_of_make h
    exact r.acceptable
  · rintro ⟨hnonempty, hrange, hdistinct, hwaveforms, hsamples, hfits⟩
    have hchannels : checkChannels [] channels = .ok () :=
      checkChannels_eq_ok_iff.mpr ⟨hrange, hdistinct, fun _ _ => List.not_mem_nil⟩
    unfold make
    rw [dif_neg hnonempty]
    split
    · rename_i hdefect
      cases hchannels.symm.trans hdefect
    · rw [dif_neg hwaveforms, dif_neg hsamples, dif_pos ((sizeFits_iff hwaveforms).mpr hfits)]
      exact ⟨_, rfl⟩

/-- What is asked of a request, in numbers. -/
theorem acceptable_iff :
    Acceptable channels waveforms samples ↔
      channels ≠ [] ∧ channels.Nodup ∧ (∀ channel ∈ channels, channel.toNat ≤ 39) ∧
        1 ≤ waveforms.toNat ∧ 1 ≤ samples.toNat ∧
        4 * channels.length * waveforms.toNat * samples.toNat < Word.size := by
  have hpos : ∀ count : UInt32, count ≠ 0 ↔ 1 ≤ count.toNat := fun count =>
    (not_congr UInt32.toNat_inj.symm).trans Nat.one_le_iff_ne_zero.symm
  have hproduct : channels.length * samples.toNat * waveforms.toNat * octetsPerSample =
      4 * channels.length * waveforms.toNat * samples.toNat := by
    rw [Nat.mul_comm _ octetsPerSample, Nat.mul_right_comm, ← Nat.mul_assoc, ← Nat.mul_assoc]
    rfl
  constructor
  · rintro ⟨hnonempty, hrange, hdistinct, hwaveforms, hsamples, hfits⟩
    exact ⟨hnonempty, hdistinct, hrange, (hpos _).mp hwaveforms, (hpos _).mp hsamples, hproduct ▸ hfits⟩
  · rintro ⟨hnonempty, hdistinct, hrange, hwaveforms, hsamples, hfits⟩
    exact ⟨hnonempty, hrange, hdistinct, (hpos _).mpr hwaveforms, (hpos _).mpr hsamples,
      hproduct.symm ▸ hfits⟩

/-! ## 3. Sizes -/

/-- The sizes that are computed from a request are what they are meant to be. -/
structure SizesSafe (r : AcquisitionRequest) : Prop where
  /-- The samples of the whole answer are counted, and not replaced by the largest word. -/
  total : r.totalSamples = r.channels.length * r.waveforms.toNat * r.samples.toNat
  total_lt : r.totalSamples < Word.top
  /-- So are those of some of its waveforms. -/
  part : ∀ count ≤ r.waveforms.toNat,
    r.layout.samplesIn? count = some (r.channels.length * r.samples.toNat * count)
  /-- Positions are computed in words, and lie within the answer. -/
  index : ∀ waveform channel sample, waveform < r.waveforms.toNat → channel < r.channels.length →
    sample < r.samples.toNat →
    r.layout.indexInWords? waveform channel sample = some (r.layout.index waveform channel sample) ∧
      r.layout.index waveform channel sample < r.totalSamples
  /-- The bound on an answer is exact, unless that is not a word. -/
  bound : ∀ count : UInt32, count.toNat ≤ r.waveforms.toNat →
    let octets := 5 * r.channels.length * count.toNat * r.samples.toNat + 1024
    r.replyBound count = if octets < Word.size then octets else Word.top

/-- **Every request has safe sizes.** -/
theorem sizesSafe (r : AcquisitionRequest) : r.SizesSafe := by
  have hfits := r.acceptable.fits
  have htotal : r.totalSamples = r.channels.length * r.samples.toNat * r.waveforms.toNat := r.totalSamples_eq
  have hbelow : 4 * r.totalSamples < Word.size := by
    rw [htotal, Nat.mul_comm]
    exact hfits
  refine ⟨?_, ?_, fun count hcount => r.samplesIn?_eq_some hcount, ?_, ?_⟩
  · rw [htotal, Nat.mul_right_comm]
  · rw [Word.top]
    have hsize : Word.size = 0x10000000000000000 := rfl
    omega
  · intro waveform channel sample hwaveform hchannel hsample
    have hindex : r.layout.index waveform channel sample < r.totalSamples := by
      rw [htotal]
      exact Layout.index_lt hwaveform hchannel hsample
    exact ⟨Layout.indexInWords?_eq_index (Nat.zero_lt_of_lt hsample) (by omega), hindex⟩
  · intro count hcount
    have hproduct : 5 * (r.channels.length * r.samples.toNat * count.toNat) =
        5 * r.channels.length * count.toNat * r.samples.toNat := by
      rw [Nat.mul_right_comm, ← Nat.mul_assoc, ← Nat.mul_assoc]
    have htop : Word.top + 1 = Word.size := rfl
    rw [r.replyBound_eq hcount, hproduct]
    simp only
    split <;> omega

/-- **Which requests are accepted, and which sizes they have**: those, and only those, whose data fits in
the words; and nothing that is computed from them later exceeds these without notice. -/
theorem make_exact (channels : List UInt32) (waveforms samples : UInt32) (softwareTrigger : Bool) :
    ((∃ r, make channels waveforms samples softwareTrigger = .ok r) ↔
        channels ≠ [] ∧ channels.Nodup ∧ (∀ channel ∈ channels, channel.toNat ≤ 39) ∧
          1 ≤ waveforms.toNat ∧ 1 ≤ samples.toNat ∧
          4 * channels.length * waveforms.toNat * samples.toNat < Word.size) ∧
      ∀ r, make channels waveforms samples softwareTrigger = .ok r →
        r.channels = channels ∧ r.waveforms = waveforms ∧ r.samples = samples ∧
          r.softwareTrigger = softwareTrigger ∧ r.SizesSafe := by
  refine ⟨exists_make_iff.trans acceptable_iff, ?_⟩
  intro r h
  obtain ⟨hchannels, hwaveforms, hsamples, htrigger⟩ := fields_of_make h
  exact ⟨hchannels, hwaveforms, hsamples, htrigger, r.sizesSafe⟩

/-- The largest request of its kind: with one more sample it is refused, and its bound is not a word. -/
theorem make_exact_largest :
    (∃ r, make [7] 0x80000000 0x7fffffff false = .ok r ∧ r.totalSamples = 0x3fffffff80000000 ∧
      r.layout.indexInWords? 0x7fffffff 0 0x7ffffffe = some 0x3fffffff7fffffff ∧
      r.replyBound 0x80000000 = Word.top ∧ r.replyBound 1 = 5 * 0x7fffffff + 1024) ∧
      ¬∃ r, make [7] 0x80000000 0x80000000 false = .ok r := by
  obtain ⟨haccepted, hsafe⟩ := make_exact [7] 0x80000000 0x7fffffff false
  obtain ⟨r, h⟩ := haccepted.mpr ⟨List.cons_ne_nil 7 [], by decide,
    List.forall_mem_singleton.mpr (by decide), by decide, by decide, by decide⟩
  obtain ⟨hchannels, hwaveforms, hsamples, -, htotal, -, -, hindex, hbound⟩ := hsafe r h
  have hlayout : r.layout = ⟨1, 0x7fffffff⟩ := by rw [layout, hchannels, hsamples]; rfl
  rw [hchannels, hwaveforms, hsamples] at hindex hbound
  rw [hchannels, hwaveforms, hsamples] at htotal
  refine ⟨⟨r, h, htotal, ?_, (hbound 0x80000000 (by decide)).trans (by decide),
    (hbound 1 (by decide)).trans (by decide)⟩, ?_⟩
  · rw [(hindex 0x7fffffff 0 0x7ffffffe (by decide) (by decide) (by decide)).1, hlayout]
    rfl
  · rw [(make_exact [7] 0x80000000 0x80000000 false).1]
    rintro ⟨-, -, -, -, -, hfits⟩
    exact absurd hfits (by decide)

end AcquisitionRequest

end Readout
