import TemplateRegistry.Number.Numeral
/-!
# Bytes and characters

A text is sent as bytes in UTF-8, and where few characters are allowed a byte
may be written as a percent sign and two hexadecimal digits.  Not all bytes are
the bytes of a text.

* `percentDecode` — the bytes of a text with such signs in it;
* `utf8Items` — what bytes spell: characters, and runs that are none;
* `ofUtf8` — the characters of bytes, or the first fault;
* `ofUtf8Lossy` — the characters with U+FFFD in the place of each fault.
-/

namespace TemplateRegistry.Text

/-- The bytes of a character in UTF-8. -/
def utf8Bytes (c : Char) : List Nat :=
  (String.utf8EncodeChar c).map UInt8.toNat

/-- The bytes of a text in which a percent sign before two hexadecimal digits
stands for a byte. -/
def percentDecode : List Char → List Nat
  | '%' :: a :: b :: rest =>
    match Numeral.hexDigit? a, Numeral.hexDigit? b with
    | some high, some low => (16 * high + low) :: percentDecode rest
    | _, _ => utf8Bytes '%' ++ percentDecode (a :: b :: rest)
  | c :: rest => utf8Bytes c ++ percentDecode rest
  | [] => []

/-- A piece of what bytes spell. -/
inductive Utf8Item
  | char (c : Char)
  /-- So many bytes that no byte after them makes a character. -/
  | invalid (length : Nat)
  /-- So many bytes, the last ones, of a character that is not complete. -/
  | incomplete (length : Nat)

/-- A character whose first bytes were read. -/
structure PartialChar where
  code : Nat
  /-- How many bytes were read, and how many are missing. -/
  seen : Nat
  missing : Nat
  /-- The least and the greatest next byte. -/
  least : Nat
  greatest : Nat

/-- The character that a byte starts: a continuation byte starts none, nor does
a byte whose characters would be out of range or would have a shorter form. -/
def PartialChar.start? (byte : Nat) : Option PartialChar :=
  if byte < 0xC2 then none
  else if byte < 0xE0 then some ⟨byte - 0xC0, 1, 1, 0x80, 0xBF⟩
  else if byte = 0xE0 then some ⟨0, 1, 2, 0xA0, 0xBF⟩
  else if byte = 0xED then some ⟨0xD, 1, 2, 0x80, 0x9F⟩
  else if byte < 0xF0 then some ⟨byte - 0xE0, 1, 2, 0x80, 0xBF⟩
  else if byte = 0xF0 then some ⟨0, 1, 3, 0x90, 0xBF⟩
  else if byte < 0xF4 then some ⟨byte - 0xF0, 1, 3, 0x80, 0xBF⟩
  else if byte = 0xF4 then some ⟨4, 1, 3, 0x80, 0x8F⟩
  else none

/-- A character after one more byte. -/
def PartialChar.extend (c : PartialChar) (byte : Nat) : PartialChar :=
  ⟨64 * c.code + (byte - 0x80), c.seen + 1, c.missing - 1, 0x80, 0xBF⟩

/-- What a byte starts: an item of its own, or a longer character. -/
def startByte (byte : Nat) : Utf8Item ⊕ PartialChar :=
  if byte < 0x80 then .inl (.char (Char.ofNat byte))
  else
    match PartialChar.start? byte with
    | some c => .inr c
    | none => .inl (.invalid 1)

/-- What bytes spell, after the first bytes of a character if there are any. -/
def utf8ItemsAfter : Option PartialChar → List Nat → List Utf8Item
  | none, [] => []
  | some c, [] => [.incomplete c.seen]
  | none, byte :: rest =>
    match startByte byte with
    | .inl item => item :: utf8ItemsAfter none rest
    | .inr c => utf8ItemsAfter (some c) rest
  | some c, byte :: rest =>
    if c.least ≤ byte ∧ byte ≤ c.greatest then
      if c.missing ≤ 1 then
        .char (Char.ofNat (c.extend byte).code) :: utf8ItemsAfter none rest
      else utf8ItemsAfter (some (c.extend byte)) rest
    else
      .invalid c.seen ::
        match startByte byte with
        | .inl item => item :: utf8ItemsAfter none rest
        | .inr c => utf8ItemsAfter (some c) rest

/-- What bytes spell. -/
def utf8Items (bytes : List Nat) : List Utf8Item :=
  utf8ItemsAfter none bytes

/-- Why bytes are no text, and after how many of them. -/
inductive Utf8Fault
  | invalid (length index : Nat)
  | incomplete (index : Nat)
  deriving DecidableEq

/-- The message of a fault. -/
def Utf8Fault.message : Utf8Fault → String
  | invalid length index =>
    s!"invalid utf-8 sequence of {length} bytes from index {index}"
  | incomplete index => s!"incomplete utf-8 byte sequence from index {index}"

/-- The characters of items that start after some bytes, or the first fault. -/
def charsOfItems (index : Nat) : List Utf8Item → Except Utf8Fault (List Char)
  | [] => .ok []
  | .char c :: rest => (charsOfItems (index + c.utf8Size) rest).map (c :: ·)
  | .invalid length :: _ => .error (.invalid length index)
  | .incomplete _ :: _ => .error (.incomplete index)

/-- The characters of bytes, or the first fault. -/
def ofUtf8 (bytes : List Nat) : Except Utf8Fault (List Char) :=
  charsOfItems 0 (utf8Items bytes)

/-- The characters of bytes, with U+FFFD in the place of each fault. -/
def ofUtf8Lossy (bytes : List Nat) : List Char :=
  (utf8Items bytes).map fun item =>
    match item with
    | .char c => c
    | _ => Char.ofNat 0xFFFD

end TemplateRegistry.Text
