/-!
# Binary floating point numbers

Numbers are IEEE 754 binary64 data, held as their 64 bits and computed with in
exact natural number arithmetic, so that every statement about them is a
statement about integers.

A finite number is `± significand · 2 ^ exponent`.  All roundings go through
one function:

* `ofRatio` — the number nearest to a fraction, a tie going to the even
  significand, too large a fraction going to infinity;
* `ofInt`, `product`, `quotient` — that rounding of an integer and of the exact
  product and quotient;
* `toInt?` — the integer a number is, if it is one;
* `==` compares as numbers: the two zeros are equal and a NaN differs from
  itself.
-/

namespace TemplateRegistry

/-- A binary64 number, as its bits. -/
structure Double where
  bits : UInt64
  deriving DecidableEq

namespace Double

/-- Below the exponent field: the 52 bits of the fraction. -/
def fractionSize : Nat := Nat.pow 2 52

/-- The exponent field of infinities and NaNs. -/
def topField : Nat := 2047

/-- The sign bit. -/
def isNegative (x : Double) : Bool :=
  x.bits.toNat / Nat.pow 2 63 = 1

/-- The eleven bits of the biased exponent. -/
def exponentField (x : Double) : Nat :=
  x.bits.toNat / fractionSize % 2048

/-- The fraction bits. -/
def fraction (x : Double) : Nat :=
  x.bits.toNat % fractionSize

/-- Neither an infinity nor a NaN. -/
def isFinite (x : Double) : Bool :=
  x.exponentField ≠ topField

/-- Not a number. -/
def isNaN (x : Double) : Bool :=
  x.exponentField = topField && x.fraction ≠ 0

/-- Either zero. -/
def isZero (x : Double) : Bool :=
  x.exponentField = 0 && x.fraction = 0

/-- The significand of a finite number; the leading bit is implicit unless the
exponent field is zero. -/
def significand (x : Double) : Nat :=
  if x.exponentField = 0 then x.fraction else x.fraction + fractionSize

/-- The power of two that scales the significand of a finite number. -/
def exponent (x : Double) : Int :=
  (max x.exponentField 1 : Nat) - 1075

/-- A number from its sign and the 63 bits below it. -/
def ofMagnitude (negative : Bool) (magnitude : Nat) : Double :=
  ⟨UInt64.ofNat (if negative then Nat.pow 2 63 + magnitude else magnitude)⟩

/-- The 63 bits of an infinity. -/
def infinityMagnitude : Nat := topField * fractionSize

/-- The infinity of a sign. -/
def infinity (negative : Bool) : Double :=
  ofMagnitude negative infinityMagnitude

/-- The quiet NaN. -/
def nan : Double :=
  ofMagnitude false (infinityMagnitude + Nat.pow 2 51)

/-- The zero of a sign. -/
def zero (negative : Bool) : Double :=
  ofMagnitude negative 0

/-- The number with the other sign. -/
def negate (x : Double) : Double :=
  ofMagnitude (!x.isNegative) (x.bits.toNat % Nat.pow 2 63)

/-- The fraction `num / den` divided by a power of two, as a fraction. -/
def scaleDown (num den : Nat) (power : Int) : Nat × Nat :=
  if 0 ≤ power then (num, den * Nat.pow 2 power.toNat)
  else (num * Nat.pow 2 (-power).toNat, den)

/-- The natural number nearest to `num / den`, a tie going to the even one. -/
def roundEven (num den : Nat) : Nat :=
  let quotient := num / den
  let twice := 2 * (num % den)
  if twice < den then quotient
  else if den < twice then quotient + 1
  else if quotient % 2 = 0 then quotient else quotient + 1

/-- The power of two that scales the significand of the number nearest to
`num / den`: the least one that is at least `-1074` and leaves no more than 53
bits before the point. -/
def scaleOf (num den : Nat) : Int :=
  let guess := max ((num.log2 : Int) - den.log2 - 53) (-1074)
  let scaled := scaleDown num den guess
  if scaled.1 / scaled.2 < 2 * fractionSize then guess else guess + 1

/-- The 63 bits of the number nearest to `num / den`.  A significand rounded
up to `2 ^ 53` carries into the exponent field by itself, and whatever lies
beyond the largest finite number is cut down to infinity. -/
def magnitudeOf (num den : Nat) : Nat :=
  if num = 0 then 0
  else
    let power := scaleOf num den
    let scaled := scaleDown num den power
    min ((power + 1074).toNat * fractionSize + roundEven scaled.1 scaled.2)
      infinityMagnitude

/-- The number nearest to `± num / den`, for a positive `den`. -/
def ofRatio (negative : Bool) (num den : Nat) : Double :=
  ofMagnitude negative (magnitudeOf num den)

/-- The number nearest to an integer. -/
def ofInt (i : Int) : Double :=
  ofRatio (decide (i < 0)) i.natAbs 1

/-- The absolute value of a finite number as a fraction. -/
def ratio (x : Double) : Nat × Nat :=
  scaleDown x.significand 1 (-x.exponent)

/-- The rounded product of two finite numbers. -/
def product (x y : Double) : Double :=
  ofRatio (x.isNegative != y.isNegative) (x.ratio.1 * y.ratio.1)
    (x.ratio.2 * y.ratio.2)

/-- The rounded quotient of two finite numbers, the second not zero. -/
def quotient (x y : Double) : Double :=
  ofRatio (x.isNegative != y.isNegative) (x.ratio.1 * y.ratio.2)
    (x.ratio.2 * y.ratio.1)

/-- The integer a number is, if it is one. -/
def toInt? (x : Double) : Option Int :=
  if x.isFinite && x.ratio.1 % x.ratio.2 = 0 then
    let size : Int := (x.ratio.1 / x.ratio.2 : Nat)
    some (if x.isNegative then -size else size)
  else none

/-- Equality as numbers. -/
instance : BEq Double where
  beq x y := !x.isNaN && !y.isNaN && (decide (x = y) || (x.isZero && y.isZero))

end Double

end TemplateRegistry
