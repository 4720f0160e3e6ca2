import TemplateRegistry.Text.Blank
/-!
# Lines of a text

A text falls into lines at its line feeds.  A carriage return directly before
a line feed belongs to the line break; one that ends the text does not.  What
follows the last line feed is a line only if it is not empty, so a text that
ends in a line feed has no empty last line, and the empty text has no lines.
-/

namespace TemplateRegistry.Text

/-- A line without the carriage return that belongs to the break after it. -/
def dropReturn (line : List Char) : List Char :=
  if line.getLast? = some '\r' then line.dropLast else line

/-- The lines of the pieces between line feeds: each but the last was followed
by a break. -/
def linesOfPieces : List (List Char) → List (List Char)
  | [] => []
  | [last] => if last.isEmpty then [] else [last]
  | line :: next :: rest => dropReturn line :: linesOfPieces (next :: rest)

/-- The lines of a text, without their breaks. -/
def lines (s : List Char) : List (List Char) :=
  linesOfPieces (splitWhen (· == '\n') s)

end TemplateRegistry.Text
