import TemplateRegistry.Text.Mark
import TemplateRegistry.Text.Shape
/-!
# Quoted texts

A text in a message stands between quotes, and a character that could not be
told apart there is written as an escape: by a letter, or by its code point.

Two messages quote a text: that of an address whose query names no known way to
secure the connection, and that of a stored document with a text where something
else belongs.

* `isHidden` — the characters that are written by their code points;
* `quoted` — a text between quotes.
-/

namespace TemplateRegistry.Text

/-- A letter that holds the place of one, and shows nothing. -/
def isFiller (c : Char) : Bool :=
  inRanges [(0x115F, 0x1160), (0x3164, 0x3164), (0xFFA0, 0xFFA0)] c

/-- Whether a character is written by its code point. -/
def isHidden (c : Char) : Bool :=
  isShapeless c || isExtending c || isFiller c

/-- A character between quotes. -/
def quotedChar (c : Char) : List Char :=
  if c = '\x00' then ['\\', '0']
  else if c = '\t' then ['\\', 't']
  else if c = '\n' then ['\\', 'n']
  else if c = '\r' then ['\\', 'r']
  else if c = '"' || c = '\\' then ['\\', c]
  else if isHidden c then
    '\\' :: 'u' :: '\x7b' :: (Nat.toDigits 16 c.toNat ++ ['\x7d'])
  else [c]

/-- A text between quotes. -/
def quoted (s : String) : String :=
  String.ofList ('"' :: (s.toList.flatMap quotedChar ++ ['"']))

end TemplateRegistry.Text
