/-
# Credit: how many chunks may wait

The chunks that wait should take about as much memory as the caller is willing to give.  The credit
is the number of chunks that fit in that budget, kept between two bounds; if the bounds are the wrong
way round, the upper one wins.

The size of a chunk is counted in 128 bits and stops at the top.
-/
import Readout.Word

namespace Readout

/-- How much memory waiting chunks may take, and the bounds on their number. -/
structure CreditConfig where
  /-- The memory for waiting chunks, in octets. -/
  budget : Nat := 128 * 1024 * 1024
  minCredit : Nat := 1
  maxCredit : Nat := 1024
  /-- The octets of one sample. -/
  octetsPerSample : Nat := 4
  deriving DecidableEq, Repr

namespace CreditConfig

/-- The largest size that is counted. -/
def maxSize : Nat := Word.size * Word.size - 1

/-- The product, or the largest size where that is smaller. -/
def times (a b : Nat) : Nat := min (a * b) maxSize

/-- The octets of a chunk, at least one. -/
def chunkOctets (config : CreditConfig) (samples waveforms channels : Nat) : Nat :=
  max (times (times (times samples waveforms) channels) config.octetsPerSample) 1

/-- How many chunks of a shape may wait. -/
def credit (config : CreditConfig) (samples waveforms channels : Nat) : Nat :=
  let whole := config.budget / config.chunkOctets samples waveforms channels
  min (max (min whole Word.top) config.minCredit) config.maxCredit

end CreditConfig

end Readout
