/-
# Synthetic samples

The samples of a simulated device depend on their waveform, channel and place alone, so that a reader
can tell them apart.  The upper half of every sample is set, so that it also shows whether only the
lower half was kept.  `block` lays samples out as reply data does.
-/
import Readout.Word
import Readout.Acquire.Layout

namespace Readout.Synthetic

/-- The sample of a channel at a place in a waveform; the arithmetic is that of 32-bit words. -/
def sample (waveform channel place : UInt32) : UInt32 :=
  0xA5A50000 ||| ((waveform * 131 + channel * 17 + place) &&& 0xFFFF)

/-- The samples of one channel in one waveform. -/
def run (waveform channel : UInt32) (samples : Nat) : List UInt32 :=
  (List.range samples).map fun place => sample waveform channel (UInt32.ofNat place)

/-- The samples of all channels in one waveform. -/
def waveform (channels : List UInt32) (samples number : Nat) : List UInt32 :=
  channels.flatMap fun channel => run (UInt32.ofNat number) channel samples

/-- Reply data of some waveforms from a first one on. -/
def block (channels : List UInt32) (first waveforms samples : Nat) : List UInt32 :=
  (List.range' first waveforms).flatMap (waveform channels samples)

/-- How many samples a block has. -/
def blockSize (channels : List UInt32) (waveforms samples : Nat) : Nat :=
  channels.length * waveforms * samples

/-- A block has fewer samples than so many: their octets, four for each, are counted by half a word. -/
def capacity : Nat := 0x2000000000000000

@[simp] theorem length_run (waveform channel : UInt32) (samples : Nat) :
    (run waveform channel samples).length = samples := by
  simp [run]

@[simp] theorem length_waveform (channels : List UInt32) (samples number : Nat) :
    (waveform channels samples number).length = channels.length * samples := by
  induction channels with
  | nil => simp [waveform]
  | cons c cs ih =>
    simp only [waveform] at ih
    simp only [waveform, List.flatMap_cons, List.length_append, length_run, ih, List.length_cons,
      Nat.succ_mul]
    omega

@[simp] theorem length_block (channels : List UInt32) (first waveforms samples : Nat) :
    (block channels first waveforms samples).length = blockSize channels waveforms samples := by
  induction waveforms generalizing first with
  | zero => simp [block, blockSize]
  | succ n ih =>
    simp only [block, blockSize] at ih
    simp only [block, blockSize, List.range'_succ, List.flatMap_cons, List.length_append,
      length_waveform, ih, Nat.mul_succ, Nat.add_mul]
    omega

end Readout.Synthetic
