/-
# Decimal text of binary fractions

A `Dyadic` is a number m · 2^q that a 64-bit binary fraction holds, with the interval of numbers that
are read back as it: halfway to its neighbours on both sides, the ends included if m is even.

`Dyadic.shortest` is the decimal with the fewest digits in that interval, the nearest one if there are
two, and the even one if both are equally near.  `Dyadic.places` has a fixed number of places instead;
a half goes to the even neighbour.
-/
import Readout.Text.Decimal

namespace Readout.Text

/-- A binary fraction m · 2^q that is not negative. -/
structure Dyadic where
  /-- The number m. -/
  mantissa : Nat
  /-- The exponent q. -/
  exponent : Int
  /-- Whether the neighbour below is only half as far away as the one above. -/
  narrowBelow : Bool := false
  deriving DecidableEq, Repr

/-- A decimal d · 10^k. -/
structure Decimal.Scaled where
  /-- The number d. -/
  digits : Nat
  /-- The exponent k. -/
  exponent : Int
  deriving DecidableEq, Repr

namespace Dyadic

/-! ## 1. The number behind 64 bits -/

/-- The leading bit of a mantissa, which is not written. -/
def hiddenBit : Nat := 0x10000000000000

/-- The absolute value of the number that 64 bits stand for, unless they stand for none. -/
def ofBits? (bits : UInt64) : Option Dyadic :=
  let fraction := bits.toNat % hiddenBit
  let exponent : Nat := bits.toNat / hiddenBit % 2048
  if exponent = 2047 then none
  else if exponent = 0 then some ⟨fraction, -1074, false⟩
  else some ⟨hiddenBit + fraction, (exponent : Int) - 1075, fraction == 0 && decide (1 < exponent)⟩

/-! ## 2. Comparing with decimals -/

/-- A power with an integer exponent, as numerator and denominator. -/
def power (base : Nat) (exponent : Int) : Nat × Nat :=
  (Nat.pow base exponent.toNat, Nat.pow base (-exponent).toNat)

/-- How d · 10^k compares with n · 2^p. -/
def compareScaled (s : Decimal.Scaled) (n : Nat) (p : Int) : Ordering :=
  let (tenUp, tenDown) := power 10 s.exponent
  let (twoUp, twoDown) := power 2 p
  compare (s.digits * tenUp * twoDown) (n * twoUp * tenDown)

/-- Whether a decimal lies in the interval of a number. -/
def readsBack (x : Dyadic) (s : Decimal.Scaled) : Bool :=
  let below := compareScaled s (4 * x.mantissa - if x.narrowBelow then 1 else 2) (x.exponent - 2)
  let above := compareScaled s (4 * x.mantissa + 2) (x.exponent - 2)
  let isEven := x.mantissa % 2 == 0
  (below == .gt || (isEven && below == .eq)) && (above == .lt || (isEven && above == .eq))

/-- The number as a quotient. -/
def quotient (x : Dyadic) : Nat × Nat :=
  let (up, down) := power 2 x.exponent
  (x.mantissa * up, down)

/-- The number in units of 10^k, as a quotient. -/
def inUnits (x : Dyadic) (k : Int) : Nat × Nat :=
  let (n, d) := x.quotient
  let (up, down) := power 10 k
  (n * down, d * up)

/-- The exponent of the leading decimal digit of a number that is not zero. -/
def leading (x : Dyadic) : Int :=
  let (n, d) := x.quotient
  if d ≤ n then ((toString (n / d)).length : Int) - 1
  else -(((List.range 400).find? fun t => d ≤ n * Nat.pow 10 t).getD 400 : Nat)

/-! ## 3. The fewest digits -/

/-- Which of two neighbours on a grid is nearer to n / d, the lower of which is given; of two that are
equally near, the even one. -/
def nearer (n d low : Nat) : Nat :=
  match compare (2 * n) (d * (2 * low + 1)) with
  | .lt => low
  | .gt => low + 1
  | .eq => if low % 2 = 0 then low else low + 1

/-- The decimal with an exponent that reads back, if there is one. -/
def onGrid? (x : Dyadic) (k : Int) : Option Decimal.Scaled :=
  let (n, d) := x.inUnits k
  let low := n / d
  match x.readsBack ⟨low, k⟩, x.readsBack ⟨low + 1, k⟩ with
  | true, true => some ⟨nearer n d low, k⟩
  | true, false => some ⟨low, k⟩
  | false, true => some ⟨low + 1, k⟩
  | false, false => none

/-- Moves zeros at the end of the digits into the exponent, at most so many. -/
def strip : Nat → Decimal.Scaled → Decimal.Scaled
  | 0, s => s
  | fuel + 1, s =>
    if s.digits ≠ 0 ∧ s.digits % 10 = 0 then strip fuel ⟨s.digits / 10, s.exponent + 1⟩ else s

/-- The decimal with the fewest digits that reads back; seventeen digits always do. -/
def shortest (x : Dyadic) : Decimal.Scaled :=
  if x.mantissa = 0 then ⟨0, 0⟩
  else
    let e := x.leading
    let found := (List.range 17).findSome? fun (count : Nat) => x.onGrid? (e - count)
    strip 18 (found.getD ⟨(x.inUnits (e - 17)).1 / (x.inUnits (e - 17)).2, e - 17⟩)

/-! ## 4. Fixed places -/

/-- A quotient rounded to a whole number; a half goes to the even neighbour. -/
def roundDiv (n d : Nat) : Nat := nearer n d (n / d)

/-- The text with a fixed number of places. -/
def places (count : Nat) (x : Dyadic) : String :=
  let (n, d) := x.inUnits (-(count : Int))
  let scaled := roundDiv n d
  let unit := Nat.pow 10 count
  toString (scaled / unit) ++ "." ++ Decimal.padded count (scaled % unit)

/-! ## 5. Layout of the fewest digits -/

/-- The lowest exponent of a leading digit for which digits are written out around the point. -/
def plainFrom : Int := -5

/-- The first exponent of a leading digit beyond which they no longer are. -/
def plainBelow : Int := 16

/-- Digits around a point, by the count of those before it; at least one digit stands on each side. -/
def aroundPoint (digits : String) (before : Int) : String :=
  if before ≤ 0 then
    "0." ++ String.ofList (List.replicate (-before).toNat '0') ++ digits
  else
    let cs := digits.toList
    let count := before.toNat
    let whole := cs.take count ++ List.replicate (count - cs.length) '0'
    let rest := cs.drop count
    String.ofList whole ++ "." ++ (if rest = [] then "0" else String.ofList rest)

/-- Digits with a point after the first, and an exponent. -/
def withExponent (digits : String) (e : Int) : String :=
  let mark := "e" ++ toString e
  match digits.toList with
  | [] => mark
  | [c] => String.ofList [c] ++ mark
  | c :: cs => String.ofList (c :: '.' :: cs) ++ mark

/-- The text of the decimal with the fewest digits. -/
def text (x : Dyadic) : String :=
  let s := x.shortest
  let digits := toString s.digits
  let e := s.exponent + digits.length - 1
  if plainFrom ≤ e ∧ e < plainBelow then aroundPoint digits (e + 1) else withExponent digits e

end Dyadic

end Readout.Text
