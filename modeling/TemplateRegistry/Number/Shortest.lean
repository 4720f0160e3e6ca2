import TemplateRegistry.Number.Double
/-!
# Shortest decimal digits

The decimal text of a number has as few digits as still read back to it.  A
decimal reads back iff it lies in the interval of reals that round to the
number, whose ends belong to it iff the significand is even.

For one digit, two digits and so on the number has two neighbours on the grid
of decimals with that many digits, one below and one above.  The first grid
with a neighbour in the interval is the shortest; of two hits the nearer one is
taken, and a `Tie` says which of two equally near ones.

* `Double.shortest` — those digits;
* `Decimal.positional` and `Decimal.scientific` — the two ways to write them;
* `Style` — which of the two a printed form uses, and its other decisions.
-/

namespace TemplateRegistry

/-- Which of two equally near neighbours is taken. -/
inductive Tie
  | upward
  | toEven
  deriving DecidableEq

/-- The decimal `digits · 10 ^ power`. -/
structure Decimal where
  digits : Nat
  power : Int
  deriving DecidableEq

namespace Decimal

/-- The same decimal without trailing zero digits, at most `steps` of them. -/
def strip : Nat → Decimal → Decimal
  | 0, d => d
  | steps + 1, d =>
    if d.digits ≠ 0 ∧ d.digits % 10 = 0 then
      strip steps ⟨d.digits / 10, d.power + 1⟩
    else d

/-- The digits as characters. -/
def chars (d : Decimal) : List Char :=
  Nat.toDigits 10 d.digits

/-- How many digits stand before the decimal point. -/
def pointPosition (d : Decimal) : Int :=
  d.chars.length + d.power

/-- Without exponent: `wholeTail` is what follows a decimal without fraction
digits. -/
def positional (wholeTail : List Char) (d : Decimal) : List Char :=
  let point := d.pointPosition
  if point ≤ 0 then '0' :: '.' :: (List.replicate (-point).toNat '0' ++ d.chars)
  else if (d.chars.length : Int) ≤ point then
    d.chars ++ List.replicate d.power.toNat '0' ++ wholeTail
  else d.chars.take point.toNat ++ '.' :: d.chars.drop point.toNat

/-- With one digit before the point and a signed exponent. -/
def scientific (d : Decimal) : List Char :=
  let exponent := d.pointPosition - 1
  let sign := if exponent < 0 then '-' else '+'
  let fraction := d.chars.drop 1
  d.chars.take 1 ++ (if fraction.isEmpty then [] else '.' :: fraction) ++
    'e' :: sign :: Nat.toDigits 10 exponent.natAbs

end Decimal

namespace Double

/-- The value and the two ends of the interval that rounds to a positive finite
number, as numerators over one denominator: below, value, above, denominator.
Right above a power of two the spacing below is half of the spacing above. -/
def interval (x : Double) : Nat × Nat × Nat × Nat :=
  let narrow := x.significand = fractionSize ∧ 1 < x.exponentField
  let below := 4 * x.significand - (if narrow then 1 else 2)
  let scale (n : Nat) : Nat := (scaleDown n 1 (2 - x.exponent)).1
  (scale below, scale (4 * x.significand), scale (4 * x.significand + 2),
    (scaleDown 1 1 (2 - x.exponent)).2)

/-- The power of ten of the leading digit of the positive fraction
`num / den`. -/
def leadingPower (num den : Nat) : Int :=
  if den ≤ num then (Nat.toDigits 10 (num / den)).length - 1
  else -((Nat.toDigits 10 ((den + num - 1) / num - 1)).length : Int)

/-- The decimal on the grid of multiples of `10 ^ power` that reads back as a
positive finite number, if that grid has one. -/
def onGrid (tie : Tie) (x : Double) (power : Int) : Option Decimal :=
  let (below, value, above, den) := x.interval
  let grid := Nat.pow 10 power.toNat
  let refine := Nat.pow 10 (-power).toNat
  -- one grid step is `grid * den`, against numerators scaled by `refine`
  let step := grid * den
  let low := value * refine / step
  let inside (n : Nat) : Bool :=
    if x.significand % 2 = 0 then
      below * refine ≤ n * step && n * step ≤ above * refine
    else below * refine < n * step && n * step < above * refine
  let nearer :=
    let twice := 2 * (value * refine)
    let middle := (2 * low + 1) * step
    if twice < middle then low
    else if middle < twice then low + 1
    else
      match tie with
      | .upward => low + 1
      | .toEven => if low % 2 = 0 then low else low + 1
  match inside low, inside (low + 1) with
  | true, true => some ⟨nearer, power⟩
  | true, false => some ⟨low, power⟩
  | false, true => some ⟨low + 1, power⟩
  | false, false => none

/-- The shortest decimal that reads back as a positive finite number; 17 digits
always suffice. -/
def shortest (tie : Tie) (x : Double) : Decimal :=
  let top := leadingPower x.ratio.1 x.ratio.2
  let found :=
    (List.range 17).findSome? fun (count : Nat) => onGrid tie x (top - count)
  (found.getD ⟨x.ratio.1 / x.ratio.2, 0⟩).strip 17

end Double

/-- The decisions of a printed form of numbers. -/
structure Style where
  /-- Which of two equally near shortest decimals is printed. -/
  tie : Tie
  /-- Whether a number with this exponent is written without exponent. -/
  isPositional : Int → Bool
  /-- What follows a number written without exponent and fraction. -/
  wholeTail : List Char

/-- A finite number in a printed form. -/
def Style.print (style : Style) (x : Double) : List Char :=
  let sign := if x.isNegative then ['-'] else []
  if x.isZero then sign ++ '0' :: style.wholeTail
  else
    let decimal := x.shortest style.tie
    sign ++
      (if style.isPositional (decimal.pointPosition - 1) then
        decimal.positional style.wholeTail
      else decimal.scientific)

end TemplateRegistry
