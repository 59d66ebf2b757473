/-
# Credit is what the budget holds

The octets of a chunk are counted by products that stop at the largest size of 128 bits, and a factor
behind a product that has stopped may still be zero.  Neither changes how many chunks fit in a budget of
64 bits: products that stop one after another are the whole product, stopped once (`chunkOctets_eq`), and
where that has stopped, the budget holds no chunk of either size (`budget_div_chunkOctets`).

* `credit_eq` -- so the credit is the exact quotient, kept between its bounds;
* `credit_exact` -- and it falls as chunks grow, stays within its bounds, and fills the budget without
  going beyond it wherever the bounds leave it a choice.
-/
import Readout.Acquire.Credit

namespace Readout.CreditConfig

variable {config : CreditConfig} {samples waveforms channels : Nat}

/-! ## 1. How large a chunk is -/

/-- The octets of a chunk in numbers without an upper end, and at least one. -/
def wholeOctets (config : CreditConfig) (samples waveforms channels : Nat) : Nat :=
  max 1 (samples * waveforms * channels * config.octetsPerSample)

theorem wholeOctets_pos : 0 < config.wholeOctets samples waveforms channels := Nat.le_max_left 1 _

/-- A chunk with more in it is no smaller. -/
theorem wholeOctets_le {samples' waveforms' channels' : Nat} (hsamples : samples ≤ samples')
    (hwaveforms : waveforms ≤ waveforms') (hchannels : channels ≤ channels') :
    config.wholeOctets samples waveforms channels ≤
      config.wholeOctets samples' waveforms' channels' := by
  have hshape := Nat.mul_le_mul (Nat.mul_le_mul hsamples hwaveforms) hchannels
  have hproduct := Nat.mul_le_mul_right config.octetsPerSample hshape
  exact Nat.max_le.mpr ⟨Nat.le_max_left 1 _, Nat.le_trans hproduct (Nat.le_max_right 1 _)⟩

/-- A product that has stopped may be multiplied further: what comes of it stops as well, or is zero in
either case. -/
theorem times_of_stopped (a b : Nat) : times (min a maxSize) b = times a b := by
  unfold times
  rcases Nat.eq_zero_or_pos b with rfl | hb
  · rw [Nat.mul_zero, Nat.mul_zero]
  · rcases Nat.le_total a maxSize with ha | ha
    · rw [Nat.min_eq_left ha]
    · have hstopped : maxSize ≤ maxSize * b := Nat.le_mul_of_pos_right _ hb
      have hwhole : maxSize ≤ a * b := Nat.le_trans ha (Nat.le_mul_of_pos_right _ hb)
      rw [Nat.min_eq_right ha, Nat.min_eq_right hstopped, Nat.min_eq_right hwhole]

/-- **Products that stop one after another** are the whole product, stopped once. -/
theorem chunkOctets_eq : config.chunkOctets samples waveforms channels =
    max 1 (min (samples * waveforms * channels * config.octetsPerSample) maxSize) := by
  have hshape : times (times samples waveforms) channels = times (samples * waveforms) channels :=
    times_of_stopped _ _
  have hchunk : times (times (samples * waveforms) channels) config.octetsPerSample =
      times (samples * waveforms * channels) config.octetsPerSample := times_of_stopped _ _
  rw [chunkOctets, hshape, hchunk, times, Nat.max_comm]

/-! ## 2. How many chunks the budget holds -/

/-- **A budget of 64 bits holds as many chunks as if their octets were counted without an upper end.** -/
theorem budget_div_chunkOctets (hbudget : config.budget < Word.size) :
    config.budget / config.chunkOctets samples waveforms channels =
      config.budget / config.wholeOctets samples waveforms channels := by
  have hbelow : config.budget < maxSize := Nat.lt_trans hbudget (by decide)
  rw [chunkOctets_eq, wholeOctets]
  rcases Nat.le_total (samples * waveforms * channels * config.octetsPerSample) maxSize with h | h
  · rw [Nat.min_eq_left h]
  · have hstopped : config.budget < max 1 maxSize := Nat.lt_of_lt_of_le hbelow (Nat.le_max_right 1 _)
    have hwhole := Nat.lt_of_lt_of_le (Nat.lt_of_lt_of_le hbelow h) (Nat.le_max_right 1 _)
    rw [Nat.min_eq_right h, Nat.div_eq_of_lt hstopped, Nat.div_eq_of_lt hwhole]

/-- **The credit is the exact quotient, kept between its bounds.** -/
theorem credit_eq (hbudget : config.budget < Word.size) :
    config.credit samples waveforms channels = min config.maxCredit
      (max config.minCredit (config.budget / config.wholeOctets samples waveforms channels)) := by
  have hfits : config.budget / config.wholeOctets samples waveforms channels ≤ Word.top :=
    Nat.le_trans (Nat.div_le_self _ _) (Nat.le_sub_one_of_lt hbudget)
  rw [credit, budget_div_chunkOctets hbudget, Nat.min_eq_left hfits, Nat.min_comm,
    Nat.max_comm config.minCredit]

/-- Larger chunks get no more credit. -/
theorem credit_le {samples' waveforms' channels' : Nat} (hbudget : config.budget < Word.size)
    (hsamples : samples ≤ samples') (hwaveforms : waveforms ≤ waveforms')
    (hchannels : channels ≤ channels') :
    config.credit samples' waveforms' channels' ≤ config.credit samples waveforms channels := by
  have hoctets : config.wholeOctets samples waveforms channels ≤
      config.wholeOctets samples' waveforms' channels' :=
    wholeOctets_le hsamples hwaveforms hchannels
  have hquotient : config.budget / config.wholeOctets samples' waveforms' channels' ≤
      config.budget / config.wholeOctets samples waveforms channels :=
    Nat.div_le_div_left hoctets wholeOctets_pos
  rw [credit_eq hbudget, credit_eq hbudget]
  omega

/-- **The credit of a chunk's shape**, for a budget of 64 bits and shapes and bounds of any size: it is
the exact quotient between its bounds, of which the upper one wins, and falls as any part of the shape
grows.  Above the lower bound, that many chunks keep the budget; below the upper bound, one more would
not. -/
theorem credit_exact (hbudget : config.budget < Word.size) (samples waveforms channels : Nat) :
    let credit := config.credit samples waveforms channels
    let octets := max 1 (samples * waveforms * channels * config.octetsPerSample)
    credit = min config.maxCredit (max config.minCredit (config.budget / octets)) ∧
    (∀ samples' waveforms' channels', samples ≤ samples' → waveforms ≤ waveforms' →
      channels ≤ channels' → config.credit samples' waveforms' channels' ≤ credit) ∧
    (config.minCredit ≤ config.maxCredit → config.minCredit ≤ credit ∧ credit ≤ config.maxCredit) ∧
    (config.maxCredit < config.minCredit → credit = config.maxCredit) ∧
    (config.minCredit < credit → credit * octets ≤ config.budget) ∧
    (credit < config.maxCredit → config.budget < (credit + 1) * octets) := by
  intro credit octets
  have hcredit : credit = min config.maxCredit (max config.minCredit (config.budget / octets)) :=
    credit_eq hbudget
  have hpos : 0 < octets := wholeOctets_pos
  refine ⟨hcredit, fun _ _ _ => credit_le hbudget, ?_, ?_, ?_, ?_⟩
  · intro hbounds
    omega
  · intro hbounds
    omega
  · intro habove
    have hquotient : credit ≤ config.budget / octets := by omega
    exact (Nat.le_div_iff_mul_le hpos).mp hquotient
  · intro hbelow
    have hquotient : config.budget / octets < credit + 1 := by omega
    exact (Nat.div_lt_iff_lt_mul hpos).mp hquotient

/-- Samples of no octets at all, in a shape whose parts are multiplied beyond 128 bits. -/
theorem credit_exact_zero_octets :
    let config : CreditConfig := { budget := 10, maxCredit := 100, octetsPerSample := 0 }
    config.budget < Word.size ∧ Word.top * Word.top * Word.top > maxSize ∧
      config.credit Word.top Word.top Word.top = 10 := by
  intro config
  have hbudget : config.budget < Word.size := by decide
  obtain ⟨hcredit, -⟩ := credit_exact hbudget Word.top Word.top Word.top
  exact ⟨hbudget, by decide, hcredit.trans (by decide)⟩

end Readout.CreditConfig
