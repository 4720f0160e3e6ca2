import TemplateRegistry.Number.Double
/-!
# Decimal numerals

A numeral is the decimal spelling of a number: a sign, whole digits, perhaps
fraction digits, perhaps an exponent.  This file holds its grammar and its two
readings.

* `Numeral.ofChars?` — the spelling of a number in a JSON text;
* `Numeral.ofText?`, `Double.ofText?` — the spelling of a number on its own,
  which is less strict;
* `Numeral.nearest` — the double nearest to the value of the numeral;
* `Numeral.quick` — the value by one rounded multiplication or division: as
  many digits as fit into 64 bits are kept, rounded to a double, and scaled by
  a power of ten that is itself a rounded double.  It may miss the nearest
  double by a unit in the last place; what is too large grows to infinity.
-/

namespace TemplateRegistry

/-- A decimal numeral as written. -/
structure Numeral where
  negative : Bool
  whole : List Nat
  fraction : List Nat
  exponent : Int
  /-- Whether there is neither a fraction nor an exponent. -/
  isPlain : Bool

namespace Numeral

/-- The value of a decimal digit. -/
def digit? (c : Char) : Option Nat :=
  if '0' ≤ c ∧ c ≤ '9' then some (c.toNat - 48) else none

/-- The value of a hexadecimal digit. -/
def hexDigit? (c : Char) : Option Nat :=
  if '0' ≤ c ∧ c ≤ '9' then some (c.toNat - 48)
  else if 'a' ≤ c ∧ c ≤ 'f' then some (c.toNat - 87)
  else if 'A' ≤ c ∧ c ≤ 'F' then some (c.toNat - 55)
  else none

/-- The leading decimal digits of a text and the rest. -/
def takeDigits : List Char → List Nat × List Char
  | [] => ([], [])
  | c :: rest =>
    match digit? c with
    | some d => (d :: (takeDigits rest).1, (takeDigits rest).2)
    | none => ([], c :: rest)

/-- The number that a list of decimal digits spells. -/
def ofDigits (digits : List Nat) : Nat :=
  digits.foldl (fun sum d => 10 * sum + d) 0

/-- A sign in front of a text, and the text after it. -/
def takeSign : List Char → Bool × List Char
  | '-' :: body => (true, body)
  | '+' :: body => (false, body)
  | body => (false, body)

/-- The exponent part of a numeral: absent or a mark, an optional sign and
digits; nothing may follow it. -/
def exponent? : List Char → Option (Option Int)
  | [] => some none
  | mark :: rest =>
    if mark = 'e' ∨ mark = 'E' then
      let (negative, digits) := takeSign rest
      match takeDigits digits with
      | (d :: ds, []) =>
        let size : Int := ofDigits (d :: ds)
        some (some (if negative then -size else size))
      | _ => none
    else none

/-- The fraction and exponent part of a numeral. -/
def tail? : List Char → Option (List Nat × Option Int)
  | '.' :: rest =>
    match takeDigits rest with
    | ([], _) => none
    | (digits, rest) => (exponent? rest).map fun exponent => (digits, exponent)
  | rest => (exponent? rest).map fun exponent => ([], exponent)

/-- Read a numeral: an optional minus sign, whole digits without a leading zero
unless zero is the only one, an optional fraction, an optional exponent. -/
def ofChars? (s : List Char) : Option Numeral :=
  let (negative, body) :=
    match s with
    | '-' :: body => (true, body)
    | body => (false, body)
  match takeDigits body with
  | ([], _) => none
  | (0 :: _ :: _, _) => none
  | (whole, rest) =>
    (tail? rest).map fun (fraction, exponent) =>
      { negative, whole, fraction, exponent := exponent.getD 0,
        isPlain := fraction.isEmpty && exponent.isNone }

/-- Read a numeral that stands on its own: an optional sign, digits with a point
before, between or after them or none, an optional exponent. -/
def ofText? (s : List Char) : Option Numeral :=
  let (negative, body) := takeSign s
  let (whole, rest) := takeDigits body
  let (fraction, rest) :=
    match rest with
    | '.' :: rest => takeDigits rest
    | rest => ([], rest)
  if whole.isEmpty && fraction.isEmpty then none
  else
    (exponent? rest).map fun exponent =>
      { negative, whole, fraction, exponent := exponent.getD 0,
        isPlain := fraction.isEmpty && exponent.isNone }

/-- The largest power of ten below the largest double. -/
def largestPower : Int := 308

/-- Every double but zero is larger than this power of ten, and so is half of
the smallest one. -/
def smallestPower : Int := -324

/-- The double nearest to the value of a numeral.  What is far too large or far
too small is not worked out. -/
def nearest (n : Numeral) : Double :=
  let digits := ofDigits (n.whole ++ n.fraction)
  let power := n.exponent - n.fraction.length
  if digits = 0 then Double.zero n.negative
  else if largestPower < power then Double.infinity n.negative
  else if power + (n.whole ++ n.fraction).length < smallestPower then
    Double.zero n.negative
  else
    Double.ofRatio n.negative (digits * Nat.pow 10 power.toNat)
      (Nat.pow 10 (-power).toNat)

/-- The largest number that fits into 64 bits. -/
def wordMax : Nat := Nat.pow 2 64 - 1

/-- Append leading digits to a number as long as it fits into 64 bits; the
digits that were left over are counted by the second component. -/
def fill : Nat → List Nat → Nat × Nat
  | word, [] => (word, 0)
  | word, d :: rest =>
    if word * 10 + d ≤ wordMax then fill (word * 10 + d) rest
    else (word, rest.length + 1)

/-- The power of ten up to which a double times or divided by it is rounded
once. -/
def powerLimit : Int := 308

/-- A rounded power of ten. -/
def powerOfTen (power : Nat) : Double :=
  Double.ofRatio false (Nat.pow 10 power) 1

/-- Scale a non-negative finite double by a power of ten, with one rounded
multiplication or at most two rounded divisions. -/
def scale (x : Double) (power : Int) : Double :=
  if x.isZero then x
  else if powerLimit < power then Double.infinity false
  else if 0 ≤ power then Double.product x (powerOfTen power.toNat)
  else if -powerLimit ≤ power then Double.quotient x (powerOfTen (-power).toNat)
  else if -2 * powerLimit ≤ power then
    Double.quotient (Double.quotient x (powerOfTen powerLimit.toNat))
      (powerOfTen (-powerLimit - power).toNat)
  else Double.zero false

/-- The quickly read value of a numeral. -/
def quick (n : Numeral) : Double :=
  let (whole, left) := fill 0 n.whole
  let (word, dropped) := fill whole n.fraction
  let power := n.exponent + left - (n.fraction.length - dropped : Nat)
  let size := scale (Double.ofInt word) power
  if n.negative then size.negate else size

/-- The integer a plain numeral spells, if it fits into 64 bits, signed or
unsigned.  A negative zero is no integer. -/
def integer? (n : Numeral) : Option Int :=
  let size := ofDigits n.whole
  if !n.isPlain then none
  else if n.negative then
    if 0 < size ∧ size ≤ Nat.pow 2 63 then some (-(size : Int)) else none
  else if size ≤ wordMax then some size else none

end Numeral

/-- Read a number that stands on its own: a numeral, or in letters of any case a
number that has none. -/
def Double.ofText? (s : String) : Option Double :=
  let (negative, body) := Numeral.takeSign s.toList
  let word := String.ofList (body.map Char.toLower)
  if word = "nan" then some Double.nan
  else if word = "inf" ∨ word = "infinity" then some (Double.infinity negative)
  else (Numeral.ofText? s.toList).map Numeral.nearest

end TemplateRegistry
