/-!
# Blank characters, trimming and words

Which characters count as blank decides what is trimmed from a category or a
tag, when a field counts as empty, where a text falls into words, and what may
stand between the braces of a tag.  One class serves all of them: the
characters with the Unicode property White_Space.

* `isBlank` — membership in that class;
* `trim` — a text without the blanks at its two ends;
* `splitWhen` — a text cut at every character of a class;
* `words` — the non-empty pieces between blanks.
-/

namespace TemplateRegistry.Text

/-- The Unicode property White_Space as ranges of code points, both ends
included. -/
def blankRanges : List (Nat × Nat) :=
  [(0x9, 0xD), (0x20, 0x20), (0x85, 0x85), (0xA0, 0xA0), (0x1680, 0x1680),
   (0x2000, 0x200A), (0x2028, 0x2029), (0x202F, 0x202F), (0x205F, 0x205F),
   (0x3000, 0x3000)]

/-- Blank: a character with the property White_Space. -/
def isBlank (c : Char) : Bool :=
  blankRanges.any fun range => range.1 ≤ c.toNat && c.toNat ≤ range.2

/-- A text without its leading blanks. -/
def trimLeft (s : List Char) : List Char :=
  s.dropWhile isBlank

/-- A text without the blanks at either end. -/
def trimChars (s : List Char) : List Char :=
  (trimLeft (trimLeft s).reverse).reverse

/-- A string without the blanks at either end. -/
def trim (s : String) : String :=
  String.ofList (trimChars s.toList)

/-- Whether a string holds nothing but blanks; the empty string does. -/
def isBlankText (s : String) : Bool :=
  s.toList.all isBlank

/-- A text cut at every character of a class; the cuts themselves are dropped,
and there is one piece more than there are cuts. -/
def splitWhen (cut : Char → Bool) : List Char → List (List Char)
  | [] => [[]]
  | c :: rest =>
    match cut c, splitWhen cut rest with
    | true, pieces => [] :: pieces
    | false, [] => [[c]]
    | false, piece :: pieces => (c :: piece) :: pieces

/-- The words of a text: its non-empty pieces between blanks, in order. -/
def words (s : List Char) : List (List Char) :=
  (splitWhen isBlank s).filter fun piece => !piece.isEmpty

/-- Cutting leaves at least one piece. -/
theorem splitWhen_ne_nil (cut : Char → Bool) (s : List Char) :
    splitWhen cut s ≠ [] := by
  cases s with
  | nil => simp [splitWhen]
  | cons c rest =>
    rw [splitWhen]
    split <;> simp

end TemplateRegistry.Text
