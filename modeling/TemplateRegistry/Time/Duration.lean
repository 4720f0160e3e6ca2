import TemplateRegistry.Json.Printer
/-!
# Durations

A span of time in whole nanoseconds.  It is printed in the largest of seconds,
milliseconds, microseconds and nanoseconds of which it holds at least one, with
a fraction only as long as it needs to be.
-/

namespace TemplateRegistry

/-- A span of time. -/
structure Duration where
  nanoseconds : Nat
  deriving DecidableEq

namespace Duration

/-- Some seconds. -/
def ofSeconds (seconds : Nat) : Duration :=
  ⟨seconds * 1000000000⟩

/-- The whole seconds of a span. -/
def seconds (d : Duration) : Nat :=
  d.nanoseconds / 1000000000

/-- A natural number with a fixed count of digits, filled up with zeros. -/
def padded (width : Nat) (n : Nat) : List Char :=
  let digits := Nat.toDigits 10 n
  List.replicate (width - digits.length) '0' ++ digits

/-- Digits without the zeros they end in. -/
def trimZeros (digits : List Char) : List Char :=
  (digits.reverse.dropWhile (· == '0')).reverse

/-- A span in units of `10 ^ places` nanoseconds. -/
def inUnits (places : Nat) (d : Duration) : List Char :=
  let whole := Nat.toDigits 10 (d.nanoseconds / Nat.pow 10 places)
  let fraction := trimZeros (padded places (d.nanoseconds % Nat.pow 10 places))
  if fraction.isEmpty then whole else whole ++ '.' :: fraction

/-- The printed form of a span. -/
def display (d : Duration) : String :=
  if 1000000000 ≤ d.nanoseconds then String.ofList (d.inUnits 9) ++ "s"
  else if 1000000 ≤ d.nanoseconds then String.ofList (d.inUnits 6) ++ "ms"
  else if 1000 ≤ d.nanoseconds then String.ofList (d.inUnits 3) ++ "µs"
  else String.ofList (Nat.toDigits 10 d.nanoseconds) ++ "ns"

end Duration

end TemplateRegistry
