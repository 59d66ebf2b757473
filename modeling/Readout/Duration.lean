/-
# Spans of time

A span of time counts nanoseconds.  Its text names the largest of the units `s`, `ms`, `µs` and `ns`
whose count is not zero, with the rest as a decimal fraction that has no trailing zeros: `1.5s`,
`61.001s`, `50ms`, `1.5µs`, and `0ns` for no time at all.

Spans have no end here, and neither have the clocks that they are measured by.  A machine's clock has a last
moment, and a program that adds a span to what its clock shows does not survive a span that leads beyond it.
What this library says of waiting is said of spans that do not; such a clock lasts for centuries.
-/
import Readout.Text.Decimal

namespace Readout

/-- A span of time, in nanoseconds. -/
structure Duration where
  /-- The count of nanoseconds. -/
  nanos : Nat
  deriving DecidableEq, Repr, Inhabited

namespace Duration

instance : LE Duration := ⟨fun a b => a.nanos ≤ b.nanos⟩
instance : LT Duration := ⟨fun a b => a.nanos < b.nanos⟩
instance (a b : Duration) : Decidable (a ≤ b) := inferInstanceAs (Decidable (a.nanos ≤ b.nanos))
instance (a b : Duration) : Decidable (a < b) := inferInstanceAs (Decidable (a.nanos < b.nanos))

/-- No time at all. -/
def zero : Duration := ⟨0⟩

/-- A span of whole seconds. -/
def ofSeconds (n : Nat) : Duration := ⟨n * 1000000000⟩

/-- A span of whole milliseconds. -/
def ofMillis (n : Nat) : Duration := ⟨n * 1000000⟩

/-- The whole seconds of a span. -/
def seconds (d : Duration) : Nat := d.nanos / 1000000000

/-- The nanoseconds beyond the whole seconds. -/
def subsecond (d : Duration) : Nat := d.nanos % 1000000000

/-- The two spans one after the other. -/
def add (a b : Duration) : Duration := ⟨a.nanos + b.nanos⟩

/-- What is left of the first span after the second, and no time if nothing is. -/
def sub (a b : Duration) : Duration := ⟨a.nanos - b.nanos⟩

/-- The shorter of two spans. -/
def min (a b : Duration) : Duration := ⟨Nat.min a.nanos b.nanos⟩

/-- A fraction of `places` decimal places with its point, without trailing zeros; nothing if zero. -/
def fraction (places n : Nat) : String :=
  if n = 0 then "" else
    let shown := (Text.Decimal.padded places n).toList.reverse.dropWhile (· == '0')
    "." ++ String.ofList shown.reverse

/-- The text of a span: the largest unit with a count, and the rest as its fraction. -/
def text (d : Duration) : String :=
  if d.nanos ≥ 1000000000 then
    toString d.seconds ++ fraction 9 d.subsecond ++ "s"
  else if d.nanos ≥ 1000000 then
    toString (d.nanos / 1000000) ++ fraction 6 (d.nanos % 1000000) ++ "ms"
  else if d.nanos ≥ 1000 then
    toString (d.nanos / 1000) ++ fraction 3 (d.nanos % 1000) ++ "µs"
  else
    toString d.nanos ++ "ns"

end Duration

end Readout
