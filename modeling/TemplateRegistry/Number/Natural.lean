import TemplateRegistry.Number.Numeral
/-!
# Natural numbers in settings

The value of a numeric setting is a natural number in decimal digits that must
not be larger than the setting allows.

* `parseNatural` — the number, or the reason why there is none.
-/

namespace TemplateRegistry

/-- The number that decimal digits spell, each step checked against the largest
number allowed. -/
def parseDigits (largest : Nat) (soFar : Nat) : List Char → Except String Nat
  | [] => .ok soFar
  | c :: rest =>
    match Numeral.digit? c with
    | none => .error "invalid digit found in string"
    | some digit =>
      if largest < 10 * soFar + digit then
        .error "number too large to fit in target type"
      else parseDigits largest (10 * soFar + digit) rest

/-- The natural number that a text spells: decimal digits, perhaps after a plus
sign. -/
def parseNatural (largest : Nat) : List Char → Except String Nat
  | [] => .error "cannot parse integer from empty string"
  | ['+'] => .error "invalid digit found in string"
  | '+' :: digits => parseDigits largest 0 digits
  | digits => parseDigits largest 0 digits

/-- The largest number of 16 bits. -/
def largest16 : Nat := Nat.pow 2 16 - 1

/-- The largest number of 32 bits. -/
def largest32 : Nat := Nat.pow 2 32 - 1

/-- The largest number of 64 bits. -/
def largest64 : Nat := Nat.pow 2 64 - 1

end TemplateRegistry
