import TemplateRegistry.Json.Basic
/-!
# Tokens of a JSON text

A JSON text falls into punctuation, strings and words: a word is a run of
characters that are neither blank nor punctuation nor a quote, and must be
`null`, `true`, `false` or a numeral.  The text is read one character at a time
by a machine whose mode says what it is in the middle of.

Within a string a quote and a backslash must be escaped and a control character
below U+0020 may not stand.  An escape by code unit may be half of a surrogate
pair: with its other half it makes one character, and a string where a half is
left alone has no characters at all.

* `JsonToken.ofChars?` — the tokens of a text;
* `JsonToken.joinUnits?` — the characters that code points and halves make.
-/

namespace TemplateRegistry

/-- A token of a JSON text. -/
inductive JsonToken
  | arrayOpen
  | arrayClose
  | objectOpen
  | objectClose
  | comma
  | colon
  | null
  | bool (value : Bool)
  | number (value : JsonNumber)
  /-- A string; there is no value if half of a surrogate pair is left alone. -/
  | string (value : Option String)

namespace JsonToken

/-- What the machine is in the middle of.  Words and the units of strings are
collected in reverse; a unit is a code point or half of a surrogate pair. -/
inductive Mode
  /-- Between tokens. -/
  | between
  /-- In a word. -/
  | word (reversed : List Char)
  /-- In a string. -/
  | text (reversed : List Nat)
  /-- After a backslash in a string. -/
  | escape (reversed : List Nat)
  /-- In an escape by code unit: the digits still missing and the value so
  far. -/
  | unit (reversed : List Nat) (missing : Nat) (value : Nat)

/-- A machine: its mode and the tokens read so far, in reverse. -/
structure Machine where
  mode : Mode
  tokens : List JsonToken

/-- Blank between tokens. -/
def isSpace (c : Char) : Bool :=
  c = ' ' || c = '\n' || c = '\r' || c = '\t'

/-- The token of a punctuation character. -/
def punctuation? : Char → Option JsonToken
  | '[' => some .arrayOpen
  | ']' => some .arrayClose
  | '\x7b' => some .objectOpen
  | '\x7d' => some .objectClose
  | ',' => some .comma
  | ':' => some .colon
  | _ => none

/-- The token of a word. -/
def ofWord? (word : List Char) : Option JsonToken :=
  if word = "null".toList then some .null
  else if word = "true".toList then some (.bool true)
  else if word = "false".toList then some (.bool false)
  else (Numeral.ofChars? word).map fun n => .number (JsonNumber.ofNumeral n)

/-- The character of an escape of one letter. -/
def escaped? : Char → Option Char
  | '"' => some '"'
  | '\\' => some '\\'
  | '/' => some '/'
  | 'b' => some '\x08'
  | 'f' => some '\x0c'
  | 'n' => some '\n'
  | 'r' => some '\r'
  | 't' => some '\t'
  | _ => none

/-- The first half of a surrogate pair. -/
def isHighHalf (unit : Nat) : Bool :=
  0xD800 ≤ unit && unit < 0xDC00

/-- The second half of a surrogate pair. -/
def isLowHalf (unit : Nat) : Bool :=
  0xDC00 ≤ unit && unit < 0xE000

/-- The character of a surrogate pair. -/
def joinHalves (high low : Nat) : Char :=
  Char.ofNat (0x10000 + (high - 0xD800) * 0x400 + (low - 0xDC00))

/-- The characters of units in reverse, in front of characters already made. -/
def joinUnits? (made : List Char) : List Nat → Option (List Char)
  | [] => some made
  | [unit] =>
    if isHighHalf unit || isLowHalf unit then none
    else some (Char.ofNat unit :: made)
  | unit :: before :: rest =>
    if isLowHalf unit then
      if isHighHalf before then joinUnits? (joinHalves before unit :: made) rest
      else none
    else if isHighHalf unit then none
    else joinUnits? (Char.ofNat unit :: made) (before :: rest)

/-- The token of a string whose units were collected in reverse. -/
def ofUnits (reversed : List Nat) : JsonToken :=
  .string ((joinUnits? [] reversed).map String.ofList)

/-- The machine after a character between tokens. -/
def start? (tokens : List JsonToken) (c : Char) : Option Machine :=
  if isSpace c then some ⟨.between, tokens⟩
  else if c = '"' then some ⟨.text [], tokens⟩
  else
    match punctuation? c with
    | some token => some ⟨.between, token :: tokens⟩
    | none => some ⟨.word [c], tokens⟩

/-- The machine after one more character, unless the text is no JSON. -/
def Machine.step? (machine : Machine) (c : Char) : Option Machine :=
  match machine.mode with
  | .between => start? machine.tokens c
  | .word reversed =>
    if isSpace c ∨ c = '"' ∨ (punctuation? c).isSome then
      match ofWord? reversed.reverse with
      | some token => start? (token :: machine.tokens) c
      | none => none
    else some ⟨.word (c :: reversed), machine.tokens⟩
  | .text reversed =>
    if c = '"' then some ⟨.between, ofUnits reversed :: machine.tokens⟩
    else if c = '\\' then some ⟨.escape reversed, machine.tokens⟩
    else if c.toNat < 0x20 then none
    else some ⟨.text (c.toNat :: reversed), machine.tokens⟩
  | .escape reversed =>
    if c = 'u' then some ⟨.unit reversed 4 0, machine.tokens⟩
    else (escaped? c).map fun e => ⟨.text (e.toNat :: reversed), machine.tokens⟩
  | .unit reversed missing value =>
    match Numeral.hexDigit? c with
    | none => none
    | some digit =>
      if missing ≤ 1 then
        some ⟨.text ((16 * value + digit) :: reversed), machine.tokens⟩
      else some ⟨.unit reversed (missing - 1) (16 * value + digit),
        machine.tokens⟩

/-- The machine after a whole text. -/
def Machine.run? : Machine → List Char → Option Machine
  | machine, [] => some machine
  | machine, c :: rest =>
    match machine.step? c with
    | some next => next.run? rest
    | none => none

/-- The tokens of a machine whose text has ended. -/
def Machine.finish? (machine : Machine) : Option (List JsonToken) :=
  match machine.mode with
  | .between => some machine.tokens.reverse
  | .word reversed => (ofWord? reversed.reverse).map fun token =>
    (token :: machine.tokens).reverse
  | _ => none

/-- The tokens of a text. -/
def ofChars? (s : List Char) : Option (List JsonToken) :=
  (Machine.run? ⟨.between, []⟩ s).bind Machine.finish?

end JsonToken

end TemplateRegistry
