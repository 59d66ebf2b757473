/-
# The layout of reply data, and taking it apart

Reply data is laid out waveform by waveform, in each waveform channel by channel, and in each channel
sample by sample.  `Layout` counts how many samples there are and says at which position a sample
lies; `demultiplex` takes the data apart into one list for each channel, keeping the low 16 bits of
every sample.

Counts have to fit in a 64-bit word.  Only the count of all samples is looked at; how long the list of one
channel becomes is not computed here.  A machine computes it to make room, which can go wrong where there are
no channels: `Layout.demultiplexInWords` is that machine.
-/
import Readout.Pieces
import Readout.Word

namespace Readout

/-! ## 1. Layouts -/

/-- The shape of reply data. -/
structure Layout where
  /-- How many channels there are. -/
  channels : Nat
  /-- How many samples a waveform of one channel has. -/
  samples : Nat
  deriving DecidableEq, Repr

namespace Layout

/-- The samples of one waveform of all channels, if their count fits. -/
def stride? (l : Layout) : Option Nat := Word.mul? l.channels l.samples

/-- The samples of some waveforms of all channels, if their count fits. -/
def samplesIn? (l : Layout) (waveforms : Nat) : Option Nat :=
  l.stride?.bind fun stride => Word.mul? stride waveforms

/-- The samples of some waveforms of one channel. -/
def perChannel (l : Layout) (waveforms : Nat) : Nat := waveforms * l.samples

/-- The position of a sample: by waveform, by the channel's place, by sample. -/
def index (l : Layout) (waveform channel sample : Nat) : Nat :=
  (waveform * l.channels + channel) * l.samples + sample

theorem samplesIn?_eq_some_iff {l : Layout} {waveforms n : Nat} :
    l.samplesIn? waveforms = some n ↔
      l.channels * l.samples < Word.size ∧
        n = l.channels * l.samples * waveforms ∧
        l.channels * l.samples * waveforms < Word.size := by
  unfold samplesIn? stride?
  rw [Option.bind_eq_some_iff]
  constructor
  · rintro ⟨stride, hs, hn⟩
    obtain ⟨rfl, hlt⟩ := Word.mul?_eq_some_iff.mp hs
    exact ⟨hlt, Word.mul?_eq_some_iff.mp hn⟩
  · rintro ⟨hlt, hn⟩
    exact ⟨_, Word.mul?_eq_some_iff.mpr ⟨rfl, hlt⟩, Word.mul?_eq_some_iff.mpr hn⟩

end Layout

/-! ## 2. Taking data apart -/

/-- Why data does not fit a layout. -/
inductive LayoutError where
  /-- There are more or fewer samples than the layout needs. -/
  | lengthMismatch (expected actual : Nat)
  /-- The count of samples does not fit. -/
  | overflow (waveforms : Nat)
  deriving DecidableEq, Repr

/-- The wording of a layout error. -/
def LayoutError.message : LayoutError → String
  | lengthMismatch expected actual =>
    "data holds " ++ toString actual ++ " samples, layout needs " ++ toString expected
  | overflow waveforms =>
    toString waveforms ++ " waveforms overflow the addressable sample count"

/-- The low 16 bits of a sample. -/
def narrow (sample : UInt32) : UInt16 := sample.toUInt16

/-- Deals the blocks of each waveform out to their channels, in front of what the channels get from
the waveforms after it. -/
def deal {α : Type} (channels : Nat) (waveforms : List (List (List α))) : List (List α) :=
  waveforms.foldr (fun blocks rest => List.zipWith (· ++ ·) blocks rest)
    (List.replicate channels [])

namespace Layout

/-- The samples of each channel, in order, from data of some whole waveforms. -/
def demultiplex (l : Layout) (waveforms : Nat) (data : List UInt32) :
    Except LayoutError (List (List UInt16)) :=
  match l.samplesIn? waveforms with
  | none => .error (.overflow waveforms)
  | some expected =>
    if data.length ≠ expected then .error (.lengthMismatch expected data.length)
    else .ok (deal l.channels (pieces l.channels (pieces l.samples (data.map narrow))))

end Layout

end Readout
