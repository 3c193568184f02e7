import StackCode.Floating.Format

/-!
# Shortest decimal text of floating-point numbers

A finite number is written with the fewest significant digits that read back as
the same number of its format, and among those with the digits nearest to it; an
exact tie takes the larger magnitude.  The text is always positional: it has no
exponent mark, and an integral number has no fractional part.

Main definitions:

- `Interval`: the real numbers that read back as a given number.
- `Format.shortest`: the fewest digits that lie in that interval.
- `Format.text`: the text of a bit pattern.
-/

namespace StackCode.Floating

/-- A non-negative decimal number `digits * 10^exponent`. -/
structure Decimal where
  digits : Nat
  exponent : Int
deriving DecidableEq, Repr

/-! ## Digits -/

/-- Number of decimal digits; zero has none. -/
def digitCount (n : Nat) : Nat := if n = 0 then 0 else (Nat.toDigits 10 n).length

/-- The real numbers that read back as one number of a format, over a common
denominator: `low` and `high` belong to it exactly when `closed` holds. -/
structure Interval where
  low : Nat
  value : Nat
  high : Nat
  denominator : Nat
  closed : Bool

/-- The interval of `significand * 2^exponent`.  Its ends lie halfway to the
neighbours; the lower neighbour of a power of two is only half as far away.  The
ends read back as this number exactly when its significand is even. -/
def Interval.of (format : Format) (significand : Nat) (exponent : Int) : Interval :=
  let below :=
    if significand = 1 <<< format.fractionBits ∧ format.minExponent < exponent then 1 else 2
  let scale := exponent - 2
  let factor := 1 <<< scale.toNat
  { low := (4 * significand - below) * factor
    value := 4 * significand * factor
    high := (4 * significand + 2) * factor
    denominator := 1 <<< (-scale).toNat
    closed := significand % 2 == 0 }

namespace Interval

/-- Whether `digits * 10^exponent` lies in the interval. -/
def contains (interval : Interval) (decimal : Decimal) : Bool :=
  let scaled := decimal.digits * Nat.pow 10 decimal.exponent.toNat * interval.denominator
  let unit := Nat.pow 10 (-decimal.exponent).toNat
  if interval.closed then
    decide (interval.low * unit ≤ scaled) && decide (scaled ≤ interval.high * unit)
  else
    decide (interval.low * unit < scaled) && decide (scaled < interval.high * unit)

/-- The power of ten of the leading digit of the value. -/
def leading (interval : Interval) : Int :=
  if interval.denominator ≤ interval.value then
    Int.ofNat (digitCount (interval.value / interval.denominator)) - 1
  else
    let ceiling := (interval.denominator + interval.value - 1) / interval.value
    Int.negOfNat (digitCount (ceiling - 1))

/-- The two neighbours of the value among the multiples of `10^exponent`, and
whether the upper one is at least as near. -/
def neighbours (interval : Interval) (exponent : Int) : Decimal × Decimal × Bool :=
  let numerator := interval.value * Nat.pow 10 (-exponent).toNat
  let denominator := interval.denominator * Nat.pow 10 exponent.toNat
  let below := numerator / denominator
  (⟨below, exponent⟩, ⟨below + 1, exponent⟩,
    decide (denominator ≤ 2 * (numerator % denominator)))

/-- The nearest decimal in the interval on the coarsest of the next `grids` grids
that has one, starting at the multiples of `10^exponent`; the lower neighbour on
the last grid when none has. -/
def search (interval : Interval) (exponent : Int) : Nat → Decimal
  | 0 => (interval.neighbours exponent).1
  | grids + 1 =>
    let (below, above, upper) := interval.neighbours exponent
    match interval.contains below, interval.contains above with
    | true, true => if upper then above else below
    | true, false => below
    | false, true => above
    | false, false => interval.search (exponent - 1) grids

end Interval

/-- The fewest digits that read back as `significand * 2^exponent`, nearest to it.
Seventeen digits always suffice for a significand of 53 bits. -/
def Format.shortest (format : Format) (significand : Nat) (exponent : Int) : Decimal :=
  let interval := Interval.of format significand exponent
  interval.search interval.leading 17

/-! ## Text -/

namespace Decimal

/-- The positional digits before and after the point, without trailing zeros
after it. -/
def text (decimal : Decimal) : String :=
  let digits := Nat.toDigits 10 decimal.digits
  if 0 ≤ decimal.exponent then
    String.ofList (digits ++ List.replicate decimal.exponent.toNat '0')
  else
    let places := (-decimal.exponent).toNat
    let padded := List.replicate (places + 1 - digits.length) '0' ++ digits
    let whole := padded.take (padded.length - places)
    let fraction := padded.drop (padded.length - places)
    let kept := (fraction.reverse.dropWhile (· == '0')).reverse
    if kept.isEmpty then String.ofList whole
    else String.ofList (whole ++ '.' :: kept)

end Decimal

/-- The text of a number of a format. -/
def Format.numberText (format : Format) : Number → String
  | .nan => "NaN"
  | .infinite negative => if negative then "-inf" else "inf"
  | .finite negative significand exponent =>
    let magnitude :=
      if significand = 0 then "0" else (format.shortest significand exponent).text
    if negative then "-" ++ magnitude else magnitude

/-- The text of a bit pattern. -/
def Format.text (format : Format) (bits : Nat) : String :=
  format.numberText (format.decode bits)

end StackCode.Floating
