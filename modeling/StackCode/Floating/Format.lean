/-!
# Binary floating-point formats

Exact arithmetic for the two binary interchange formats with 32 and 64 bits.
A bit pattern is read as a sign, an integer significand and a power of two; each
operation computes the exact result on integers and rounds once, to the nearest
number of the format with ties to the even significand.

Main definitions:

- `Format.decode`: the number that a bit pattern stands for.
- `Format.round`: the bit pattern nearest to a number.
- `Format.add`, `sub`, `mul`, `div`, `rem`: arithmetic on bit patterns.
- `Format.convert`, `ofInt`, `Number.toIntIn`: changes of format.

An operand that is not a number is the result of an operation, made quiet; the
first operand is preferred.
-/

namespace StackCode.Floating

/-- A binary interchange format: the number of significand bits, the leading one
included, and the number of exponent bits. -/
structure Format where
  precision : Nat
  exponentBits : Nat
deriving DecidableEq, Repr

/-- What a bit pattern stands for.  A finite number is
`(-1)^negative * significand * 2^exponent`. -/
inductive Number where
  | nan
  | infinite (negative : Bool)
  | finite (negative : Bool) (significand : Nat) (exponent : Int)
deriving DecidableEq, Repr

/-! ## Reading numbers -/

namespace Number

/-- The number with the other sign. -/
def neg : Number → Number
  | nan => nan
  | infinite negative => infinite !negative
  | finite negative significand exponent => finite (!negative) significand exponent

/-- Whether this is the zero of either sign. -/
def isZero : Number → Bool
  | finite _ significand _ => significand == 0
  | _ => false

/-- The signed significand after scaling to a smaller exponent. -/
def scaledTo (exponent : Int) : Bool → Nat → Int → Int
  | negative, significand, own =>
    let magnitude : Int := Int.ofNat (significand <<< (own - exponent).toNat)
    if negative then -magnitude else magnitude

/-- The order of two numbers, absent when one of them is not a number.  The two
zeros are equal. -/
def compare? : Number → Number → Option Ordering
  | nan, _ => none
  | _, nan => none
  | infinite m, infinite n =>
    some (if m == n then .eq else if m then .lt else .gt)
  | infinite m, finite .. => some (if m then .lt else .gt)
  | finite .., infinite n => some (if n then .gt else .lt)
  | finite m a p, finite n b q =>
    let exponent := if p ≤ q then p else q
    some (compare (scaledTo exponent m a p) (scaledTo exponent n b q))

/-- The integer part of a number, limited to the range from `least` to
`greatest`; zero for what is not a number. -/
def toIntIn (least greatest : Int) : Number → Int
  | nan => 0
  | infinite negative => if negative then least else greatest
  | finite negative significand exponent =>
    let magnitude : Int :=
      if 0 ≤ exponent then Int.ofNat (significand <<< exponent.toNat)
      else Int.ofNat (significand >>> (-exponent).toNat)
    let whole := if negative then -magnitude else magnitude
    if whole < least then least else if greatest < whole then greatest else whole

end Number

/-! ## Formats -/

namespace Format

/-- The format with 64 bits. -/
def binary64 : Format := ⟨53, 11⟩

/-- The format with 32 bits. -/
def binary32 : Format := ⟨24, 8⟩

/-- Number of bits that hold the significand below its leading one. -/
def fractionBits (format : Format) : Nat := format.precision - 1

/-- Position of the sign bit. -/
def signPosition (format : Format) : Nat := format.fractionBits + format.exponentBits

/-- The exponent of the last place of the smallest numbers. -/
def minExponent (format : Format) : Int :=
  3 - Int.ofNat (1 <<< (format.exponentBits - 1)) - Int.ofNat format.precision

/-- The bit pattern of positive infinity. -/
def infinityBits (format : Format) : Nat :=
  ((1 <<< format.exponentBits) - 1) <<< format.fractionBits

/-- The bit that tells a quiet from a signalling pattern that is not a number. -/
def quietBit (format : Format) : Nat := 1 <<< (format.fractionBits - 1)

/-- The sign bit of a pattern. -/
def signBit (format : Format) (negative : Bool) : Nat :=
  if negative then 1 <<< format.signPosition else 0

/-- What an operation without a meaningful result gives. -/
def invalidBits (format : Format) : Nat :=
  format.signBit true + format.infinityBits + format.quietBit

/-- The infinity of a sign. -/
def infinite (format : Format) (negative : Bool) : Nat :=
  format.signBit negative + format.infinityBits

/-- Splits a pattern into its sign, exponent field and fraction field. -/
def fields (format : Format) (bits : Nat) : Bool × Nat × Nat :=
  (bits.testBit format.signPosition,
    (bits >>> format.fractionBits) % (1 <<< format.exponentBits),
    bits % (1 <<< format.fractionBits))

/-- The number that a bit pattern stands for. -/
def decode (format : Format) (bits : Nat) : Number :=
  let (negative, exponent, fraction) := format.fields bits
  if exponent + 1 = 1 <<< format.exponentBits then
    if fraction = 0 then .infinite negative else .nan
  else if exponent = 0 then .finite negative fraction format.minExponent
  else
    .finite negative (fraction + (1 <<< format.fractionBits))
      (format.minExponent + Int.ofNat exponent - 1)

/-- Divides by a power of two to the nearest integer, ties to the even one.
With `more` the dividend stands for a number slightly above itself. -/
def shiftNearest (significand shift : Nat) (more : Bool) : Nat :=
  let quotient := significand >>> shift
  let rest := significand % (1 <<< shift)
  let half := 1 <<< (shift - 1)
  if shift = 0 then significand
  else if rest < half then quotient
  else if half < rest || more then quotient + 1
  else quotient + quotient % 2

/-- The bit pattern nearest to `(-1)^negative * significand * 2^exponent`, ties
to the even significand.  With `more` the magnitude stands for a number slightly
above that, which needs a significand of more than `precision` bits. -/
def round (format : Format) (negative : Bool) (significand : Nat) (exponent : Int)
    (more : Bool) : Nat :=
  if significand = 0 then format.signBit negative
  else
    let natural := exponent + Int.ofNat (significand.log2 + 1) - Int.ofNat format.precision
    let target := if natural < format.minExponent then format.minExponent else natural
    let rounded :=
      if target ≤ exponent then significand <<< (exponent - target).toNat
      else shiftNearest significand (target - exponent).toNat more
    let bits := ((target - format.minExponent).toNat <<< format.fractionBits) + rounded
    if format.infinityBits ≤ bits then format.infinite negative
    else format.signBit negative + bits

/-! ## Arithmetic -/

/-- Whether a pattern is not a number. -/
def isNan (format : Format) (bits : Nat) : Bool :=
  match format.decode bits with
  | .nan => true
  | _ => false

/-- The pattern with its quiet bit set. -/
def quiet (format : Format) (bits : Nat) : Nat := bits ||| format.quietBit

/-- The pattern with its sign flipped, whatever it stands for. -/
def neg (format : Format) (bits : Nat) : Nat := bits ^^^ format.signBit true

/-- Applies an operation to two operands that are numbers; an operand that is not
a number is passed on, the first one first. -/
def lift (format : Format) (operation : Number → Number → Nat) (a b : Nat) : Nat :=
  if format.isNan a then format.quiet a
  else if format.isNan b then format.quiet b
  else operation (format.decode a) (format.decode b)

/-- The rounded sum of two numbers. -/
def sum (format : Format) : Number → Number → Nat
  | .infinite m, .infinite n => if m == n then format.infinite m else format.invalidBits
  | .infinite m, _ => format.infinite m
  | _, .infinite n => format.infinite n
  | .finite m a p, .finite n b q =>
    let exponent := if p ≤ q then p else q
    let total := Number.scaledTo exponent m a p + Number.scaledTo exponent n b q
    if total = 0 then format.signBit (m && n)
    else format.round (decide (total < 0)) total.natAbs exponent false
  | _, _ => format.invalidBits

/-- The rounded product of two numbers. -/
def product (format : Format) : Number → Number → Nat
  | .infinite m, .infinite n => format.infinite (m != n)
  | .infinite m, .finite n b _ =>
    if b = 0 then format.invalidBits else format.infinite (m != n)
  | .finite m a _, .infinite n =>
    if a = 0 then format.invalidBits else format.infinite (m != n)
  | .finite m a p, .finite n b q => format.round (m != n) (a * b) (p + q) false
  | _, _ => format.invalidBits

/-- The rounded quotient of two numbers. -/
def quotient (format : Format) : Number → Number → Nat
  | .infinite m, .finite n _ _ => format.infinite (m != n)
  | .finite m _ _, .infinite n => format.signBit (m != n)
  | .finite m a p, .finite n b q =>
    if b = 0 then
      if a = 0 then format.invalidBits else format.infinite (m != n)
    else
      let shift := format.precision + 3 + b.log2 - a.log2
      let scaled := a <<< shift
      format.round (m != n) (scaled / b) (p - q - Int.ofNat shift) (scaled % b != 0)
  | _, _ => format.invalidBits

/-- The remainder of the division truncated toward zero; it has the sign of the
dividend and is exact. -/
def remainder (format : Format) : Number → Number → Nat
  | .finite m a p, .infinite _ => format.round m a p false
  | .finite m a p, .finite _ b q =>
    if b = 0 then format.invalidBits
    else
      let exponent := if p ≤ q then p else q
      let scaled := a <<< (p - exponent).toNat
      let divisor := b <<< (q - exponent).toNat
      format.round m (scaled % divisor) exponent false
  | _, _ => format.invalidBits

/-- Addition. -/
def add (format : Format) : Nat → Nat → Nat := format.lift format.sum

/-- Subtraction. -/
def sub (format : Format) : Nat → Nat → Nat :=
  format.lift fun a b => format.sum a b.neg

/-- Multiplication. -/
def mul (format : Format) : Nat → Nat → Nat := format.lift format.product

/-- Division. -/
def div (format : Format) : Nat → Nat → Nat := format.lift format.quotient

/-- Remainder. -/
def rem (format : Format) : Nat → Nat → Nat := format.lift format.remainder

/-! ## Changes of format -/

/-- The pattern nearest to an integer. -/
def ofInt (format : Format) (value : Int) : Nat :=
  format.round (decide (value < 0)) value.natAbs 0 false

/-- The pattern of another format nearest to what a pattern stands for.  What is
not a number keeps its sign and the leading bits of its fraction. -/
def convert (source target : Format) (bits : Nat) : Nat :=
  match source.decode bits with
  | .finite negative significand exponent => target.round negative significand exponent false
  | .infinite negative => target.infinite negative
  | .nan =>
    let (negative, _, fraction) := source.fields bits
    let aligned := (fraction <<< target.fractionBits) >>> source.fractionBits
    target.quiet (target.infinite negative + aligned)

end Format

end StackCode.Floating
