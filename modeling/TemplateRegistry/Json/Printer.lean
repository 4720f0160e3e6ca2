import TemplateRegistry.Json.Basic
import TemplateRegistry.Number.Shortest
/-!
# Printing JSON documents

Two layouts of one document: `compact`, without any blank, and `pretty`, with
one item a line and two blanks for each level.  Members are printed in their
order.

* a string escapes the quote, the backslash and the control characters below
  U+0020, by letter where there is one;
* a double has the fewest digits that read back, at least one of them a
  fraction digit where it is written without exponent, which is so from `1e-5`
  up to below `1e16`;
* what has no text of its own, an infinity or an illegible part, is `null`.
-/

namespace TemplateRegistry

namespace Json

/-- Doubles in a JSON text. -/
def numberStyle : Style where
  tie := .toEven
  isPositional exponent := -5 ≤ exponent && exponent < 16
  wholeTail := ['.', '0']

/-- An integer as decimal digits. -/
def integerChars (i : Int) : List Char :=
  if i < 0 then '-' :: Nat.toDigits 10 i.natAbs else Nat.toDigits 10 i.natAbs

/-- A number; what is not finite has no numeral and is written `null`. -/
def numberChars : JsonNumber → List Char
  | .integer i => integerChars i
  | .decimal x => if x.isFinite then numberStyle.print x else "null".toList

/-- A character of a string. -/
def escapeChar (c : Char) : List Char :=
  if c = '"' then ['\\', '"']
  else if c = '\\' then ['\\', '\\']
  else if c = '\x08' then ['\\', 'b']
  else if c = '\x0c' then ['\\', 'f']
  else if c = '\n' then ['\\', 'n']
  else if c = '\r' then ['\\', 'r']
  else if c = '\t' then ['\\', 't']
  else if c.toNat < 0x20 then
    '\\' :: 'u' :: '0' :: '0' :: [Nat.digitChar (c.toNat / 16),
      Nat.digitChar (c.toNat % 16)]
  else [c]

/-- A string between quotes. -/
def stringChars (s : String) : List Char :=
  '"' :: (s.toList.flatMap escapeChar ++ ['"'])

mutual

/-- A document without any blank. -/
def compactChars : Json → List Char
  | .null => "null".toList
  | .bool true => "true".toList
  | .bool false => "false".toList
  | .number n => numberChars n
  | .string s => stringChars s
  | .array items => '[' :: (compactItems items ++ [']'])
  | .object members => '\x7b' :: (compactMembers members ++ ['\x7d'])
  | .illegible => "null".toList

/-- The items of an array, separated by commas. -/
def compactItems : List Json → List Char
  | [] => []
  | [item] => compactChars item
  | item :: next :: rest =>
    compactChars item ++ ',' :: compactItems (next :: rest)

/-- The members of an object, separated by commas. -/
def compactMembers : List (String × Json) → List Char
  | [] => []
  | [(name, value)] => stringChars name ++ ':' :: compactChars value
  | (name, value) :: next :: rest =>
    stringChars name ++ ':' ::
      (compactChars value ++ ',' :: compactMembers (next :: rest))

end

/-- A line break followed by the blanks of a level. -/
def lineBreak (level : Nat) : List Char :=
  '\n' :: List.replicate (2 * level) ' '

mutual

/-- A document with one item a line, at some level. -/
def prettyChars (level : Nat) : Json → List Char
  | .null => "null".toList
  | .bool true => "true".toList
  | .bool false => "false".toList
  | .number n => numberChars n
  | .string s => stringChars s
  | .array [] => ['[', ']']
  | .array (item :: rest) =>
    '[' :: (prettyItems (level + 1) (item :: rest) ++ lineBreak level ++ [']'])
  | .object [] => ['\x7b', '\x7d']
  | .object (member :: rest) =>
    '\x7b' :: (prettyMembers (level + 1) (member :: rest) ++ lineBreak level ++
      ['\x7d'])
  | .illegible => "null".toList

/-- The items of an array, each on a line of its own. -/
def prettyItems (level : Nat) : List Json → List Char
  | [] => []
  | [item] => lineBreak level ++ prettyChars level item
  | item :: next :: rest =>
    lineBreak level ++ prettyChars level item ++ ',' ::
      prettyItems level (next :: rest)

/-- The members of an object, each on a line of its own. -/
def prettyMembers (level : Nat) : List (String × Json) → List Char
  | [] => []
  | [(name, value)] =>
    lineBreak level ++ stringChars name ++ ':' :: ' ' :: prettyChars level value
  | (name, value) :: next :: rest =>
    lineBreak level ++ stringChars name ++ ':' :: ' ' ::
      (prettyChars level value ++
        ',' :: prettyMembers level (next :: rest))

end

/-- A document without any blank. -/
def compact (document : Json) : String :=
  String.ofList document.compactChars

/-- A document with one item a line. -/
def pretty (document : Json) : String :=
  String.ofList (document.prettyChars 0)

end Json

end TemplateRegistry
