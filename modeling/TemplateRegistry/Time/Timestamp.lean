import TemplateRegistry.Text.Blank
import TemplateRegistry.Time.Duration
/-!
# Timestamps

An instant of UTC as seconds since 1970-01-01 and nanoseconds within the
second.  During a leap second the nanoseconds go on from `10 ^ 9` while the
second stays.

* `civil` and `daysOfCivil` — the calendar date of a day and back;
* `rfc3339` — the printed form with an offset text of the caller's choice;
* `minutes` — the printed form of the plain report;
* `ofString?` — reading a date, a time and an offset.
-/

namespace TemplateRegistry

/-- An instant. -/
structure Timestamp where
  seconds : Int
  nanoseconds : Nat
  deriving DecidableEq

/-- A calendar date. -/
structure CivilDate where
  year : Int
  month : Nat
  day : Nat
  deriving DecidableEq

namespace Timestamp

/-- The instant of a count of microseconds since 1970. -/
def ofMicroseconds (count : Int) : Timestamp :=
  ⟨count / 1000000, (count % 1000000).toNat * 1000⟩

/-- The date of the day with a number, counted from 1970-01-01.  Days are
counted in eras of 400 years that start on the first of March. -/
def civil (days : Int) : CivilDate :=
  let shifted := days + 719468
  let era := shifted / 146097
  let dayOfEra := (shifted % 146097).toNat
  let yearOfEra :=
    (dayOfEra - dayOfEra / 1460 + dayOfEra / 36524 - dayOfEra / 146096) / 365
  let dayOfYear :=
    dayOfEra - (365 * yearOfEra + yearOfEra / 4 - yearOfEra / 100)
  let shiftedMonth := (5 * dayOfYear + 2) / 153
  let day := dayOfYear - (153 * shiftedMonth + 2) / 5 + 1
  let month := if shiftedMonth < 10 then shiftedMonth + 3 else shiftedMonth - 9
  ⟨yearOfEra + era * 400 + (if month ≤ 2 then 1 else 0), month, day⟩

/-- The number of the day with a date. -/
def daysOfCivil (date : CivilDate) : Int :=
  let year := date.year - (if date.month ≤ 2 then 1 else 0)
  let era := year / 400
  let yearOfEra := year % 400
  let shiftedMonth : Int :=
    if date.month ≤ 2 then date.month + 9 else (date.month : Int) - 3
  let dayOfYear := (153 * shiftedMonth + 2) / 5 + date.day - 1
  era * 146097 + yearOfEra * 365 + yearOfEra / 4 - yearOfEra /
    100 + dayOfYear - 719468

/-- A year, with a sign outside of 0 to 9999. -/
def yearChars (year : Int) : List Char :=
  if 0 ≤ year ∧ year ≤ 9999 then Duration.padded 4 year.natAbs
  else (if year < 0 then '-' else '+') :: Duration.padded 4 year.natAbs

/-- A date as year, month and day. -/
def dateChars (t : Timestamp) : List Char :=
  let date := civil (t.seconds / 86400)
  yearChars date.year ++ '-' :: Duration.padded 2 date.month ++ '-' ::
    Duration.padded 2 date.day

/-- The second of the day. -/
def secondOfDay (t : Timestamp) : Nat :=
  (t.seconds % 86400).toNat

/-- The time of day as hours and minutes. -/
def clockChars (t : Timestamp) : List Char :=
  Duration.padded 2 (t.secondOfDay / 3600) ++ ':' ::
    Duration.padded 2 (t.secondOfDay / 60 % 60)

/-- The fraction of a second, in three, six or nine digits, none if it is
zero. -/
def fractionChars (nanoseconds : Nat) : List Char :=
  if nanoseconds = 0 then []
  else if nanoseconds % 1000000 = 0 then
    '.' :: Duration.padded 3 (nanoseconds / 1000000)
  else if nanoseconds % 1000 = 0 then
    '.' :: Duration.padded 6 (nanoseconds / 1000)
  else '.' :: Duration.padded 9 nanoseconds

/-- Date and time in the form of RFC 3339; a leap second is second 60. -/
def rfc3339 (offset : String) (t : Timestamp) : String :=
  let leap := t.nanoseconds / 1000000000
  String.ofList (t.dateChars ++ 'T' :: t.clockChars ++
    ':' :: Duration.padded 2 (t.secondOfDay % 60 + leap) ++
    fractionChars (t.nanoseconds % 1000000000)) ++ offset

/-- The form of JSON documents. -/
def json (t : Timestamp) : String :=
  t.rfc3339 "Z"

/-- Date, hour and minute, as the plain report prints them. -/
def minutes (t : Timestamp) : String :=
  String.ofList (t.dateChars ++ ' ' :: t.clockChars) ++ " UTC"

/-- Between one and `most` leading decimal digits of a text and the rest. -/
def takeNumber? (most : Nat) (s : List Char) : Option (List Nat × List Char) :=
  let digits := (Numeral.takeDigits (s.take most)).1
  if digits.isEmpty then none else some (digits, s.drop digits.length)

/-- A number of at most two digits, after blanks. -/
def takePair? (s : List Char) : Option (Nat × List Char) :=
  (takeNumber? 2 (Text.trimLeft s)).map fun (digits, rest) =>
    (Numeral.ofDigits digits, rest)

/-- A character of its own, after blanks. -/
def takeMark? (mark : Char) (s : List Char) : Option (List Char) :=
  match Text.trimLeft s with
  | c :: rest => if c = mark then some rest else none
  | [] => none

/-- A year: four digits at most, or any number of them after a sign. -/
def takeYear? (s : List Char) : Option (Int × List Char) :=
  match Text.trimLeft s with
  | '-' :: rest =>
    (takeNumber? rest.length rest).map fun (digits, rest) =>
      (-(Numeral.ofDigits digits : Int), rest)
  | '+' :: rest =>
    (takeNumber? rest.length rest).map fun (digits, rest) =>
      ((Numeral.ofDigits digits : Int), rest)
  | rest => (takeNumber? 4 rest).map fun (digits, rest) =>
    ((Numeral.ofDigits digits : Int), rest)

/-- The years an instant may lie in. -/
def isYear (year : Int) : Bool :=
  -262143 ≤ year && year ≤ 262142

/-- A date of the calendar. -/
def takeDate? (s : List Char) : Option (CivilDate × List Char) := do
  let (year, s) ← takeYear? s
  let s ← takeMark? '-' s
  let (month, s) ← takePair? s
  let s ← takeMark? '-' s
  let (day, s) ← takePair? s
  let date : CivilDate := ⟨year, month, day⟩
  -- a date of the calendar is the date of its own day
  if isYear year ∧ 1 ≤ month ∧ month ≤ 12 ∧ 1 ≤ day ∧
      civil (daysOfCivil date) = date then
    some (date, s)
  else none

/-- A fraction of a second in nanoseconds; digits past the ninth do not
count. -/
def takeFraction? : List Char → Option (Nat × List Char)
  | '.' :: rest =>
    match Numeral.takeDigits rest with
    | ([], _) => none
    | (digits, rest) =>
      let kept := digits.take 9
      some (Numeral.ofDigits kept * Nat.pow 10 (9 - kept.length), rest)
  | rest => some (0, rest)

/-- A time of day: the second of the day and the nanoseconds.  Second 60 is the
leap second after second 59. -/
def takeTime? (s : List Char) : Option (Nat × Nat × List Char) := do
  let (hour, s) ← takePair? s
  let s ← takeMark? ':' s
  let (minute, s) ← takePair? s
  let s ← takeMark? ':' s
  let (second, s) ← takePair? s
  let (nanoseconds, s) ← takeFraction? s
  if hour < 24 ∧ minute < 60 ∧ second ≤ 60 then
    let leap := if second = 60 then 1 else 0
    some (3600 * hour + 60 * minute + second - leap,
      nanoseconds + leap * 1000000000, s)
  else none

/-- Two digits. -/
def takeTwo? : List Char → Option (Nat × List Char)
  | a :: b :: rest =>
    match Numeral.digit? a, Numeral.digit? b with
    | some x, some y => some (10 * x + y, rest)
    | _, _ => none
  | _ => none

/-- The name of the zero offset, in either case. -/
def isUtcName (s : List Char) : Bool :=
  match s with
  | a :: b :: c :: _ =>
    (a = 'u' || a = 'U') && (b = 't' || b = 'T') && (c = 'c' || c = 'C')
  | _ => false

/-- An offset from UTC in seconds, less than a day: a letter, the name, or a
sign, hours and minutes with blanks and colons between them. -/
def takeOffset? (s : List Char) : Option (Int × List Char) :=
  if isUtcName s then some (0, s.drop 3)
  else
    match s with
    | [] => none
    | sign :: rest =>
      if sign = 'z' ∨ sign = 'Z' then some (0, rest)
      else if sign = '+' ∨ sign = '-' ∨ sign = '−' then do
        let (hours, rest) ← takeTwo? rest
        let (minutes, rest) ← takeTwo? (rest.dropWhile fun c =>
          c = ':' || Text.isBlank c)
        let size : Int := 3600 * hours + 60 * minutes
        if hours < 24 ∧ minutes < 60 then
          some (if sign = '+' then size else -size, rest)
        else none
      else none

/-- The instant a text names: a date, a letter T or a blank, a time and an
offset. -/
def ofChars? (s : List Char) : Option Timestamp := do
  let (date, s) ← takeDate? s
  let s ← match s with
    | c :: rest => if c = 'T' ∨ c = 't' ∨ c = ' ' then some rest else none
    | [] => none
  let (second, nanoseconds, s) ← takeTime? s
  let (offset, s) ← takeOffset? (Text.trimLeft s)
  let t : Timestamp := ⟨daysOfCivil date * 86400 + second - offset, nanoseconds⟩
  if s.all Text.isBlank && isYear (civil (t.seconds / 86400)).year then some t
  else none

/-- The instant a text names. -/
def ofString? (s : String) : Option Timestamp :=
  ofChars? s.toList

end Timestamp

end TemplateRegistry
