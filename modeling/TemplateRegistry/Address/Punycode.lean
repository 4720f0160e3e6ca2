import TemplateRegistry.Number.Numeral
/-!
# International labels in ASCII

A label with letters beyond ASCII can be written in ASCII: its ASCII letters, a
hyphen if there are any, and digits of base 36 that say which other letters
stand where.  Each of those letters is a number, in digits whose weights depend
on the letters before it; the number counts steps through all places of all code
points in order.

This is Punycode, and only its decoder is needed: a host whose label starts with
`xn--` is accepted if the rest decodes to a label that could have been written
as it is (`Address.decodeLabel?`).

* `Punycode.decode?` — the label that such digits stand for, unless they stop
  within a letter, name no code point, or grow beyond 32 bits.
-/

namespace TemplateRegistry.Punycode

/-- The value of a digit of base 36: letters come before the decimal digits. -/
def digit? (c : Char) : Option Nat :=
  if 'a' ≤ c ∧ c ≤ 'z' then some (c.toNat - 97)
  else (Numeral.digit? c).map (· + 26)

/-- The digit in a place that is the last one of its number if it is below
this: between 1 and 26, the farther behind the bias the larger. -/
def threshold (place bias : Nat) : Nat :=
  min 26 (max 1 (36 * place - bias))

/-- How often a number is divided by 35 until it is small, and what is left. -/
def reduce (times delta : Nat) : Nat × Nat :=
  if 455 < delta then reduce (times + 1) (delta / 35) else (times, delta)
termination_by delta

/-- The bias after a number, when there are so many letters in all. -/
def adapt (delta count : Nat) (isFirst : Bool) : Nat :=
  let halved := if isFirst then delta / 700 else delta / 2
  let (times, rest) := reduce 0 (halved + halved / count)
  36 * times + 36 * rest / (rest + 38)

/-- Numbers below this have 32 bits. -/
def wordSize : Nat := 0x100000000

/-- The state between two digits. -/
structure State where
  /-- The label so far. -/
  label : List Char
  /-- The code point of the letter before, and the place after it. -/
  code : Nat
  place : Nat
  bias : Nat
  isFirst : Bool
  /-- The number being read: how many digits, their value, the next weight. -/
  digits : Nat
  value : Nat
  weight : Nat

namespace State

/-- The state before the first digit, after some ASCII letters. -/
def start (letters : List Char) : State :=
  ⟨letters, 128, 0, 72, true, 0, 0, 1⟩

/-- The state after the letter whose number is complete. -/
def finish? (s : State) : Option State :=
  let steps := s.place + s.value
  let count := s.label.length + 1
  let code := s.code + steps / count
  if Nat.isValidChar code then
    some
      ⟨s.label.insertIdx (steps % count) (Char.ofNat code), code,
        steps % count + 1, adapt s.value count s.isFirst, false, 0, 0, 1⟩
  else none

/-- The state after a digit, which may complete the number of a letter. -/
def step? (s : State) (digit : Nat) : Option State :=
  let value := s.value + digit * s.weight
  let limit := threshold (s.digits + 1) s.bias
  let weight := s.weight * (36 - limit)
  if wordSize ≤ s.place + value then none
  else if digit < limit then finish? { s with value }
  else if wordSize ≤ weight then none
  else some { s with digits := s.digits + 1, value, weight }

end State

/-- The label after the digits that are left. -/
def decodeAfter? (s : State) : List Char → Option (List Char)
  | [] => if s.digits = 0 then some s.label else none
  | c :: rest =>
    match (digit? c).bind s.step? with
    | some next => decodeAfter? next rest
    | none => none

/-- The label that a text in ASCII stands for: letters and a hyphen, or neither,
before the digits. -/
def decode? (code : List Char) : Option (List Char) :=
  let digits := (code.reverse.takeWhile fun c => c ≠ '-').reverse
  if digits.length = code.length then decodeAfter? (State.start []) digits
  else if digits.length + 1 = code.length then none
  else decodeAfter?
    (State.start (code.take (code.length - digits.length - 1))) digits

end TemplateRegistry.Punycode
