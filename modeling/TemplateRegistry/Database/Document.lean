import TemplateRegistry.Json.Printer
import TemplateRegistry.Text.Quoted
import TemplateRegistry.Value.Reader
/-!
# Documents in columns

Some columns hold the text of a JSON document: a value, or an object of values.
A text that spells something else is told with what was found in its place and
with the place where reading it stopped.

* `Document.value`, `Document.object` — what a text spells, or what is wrong;
* `Place.after` — the place after a part of a text;
* `Document.memberEnds` — how far a text is read when a member of its object
  is complete.
-/

namespace TemplateRegistry

/-- A place in a text: its line, counted from one, and the bytes before it on
that line. -/
structure Place where
  line : Nat
  column : Nat

namespace Place

/-- The place after a part of a text. -/
def after (part : List Char) : Place where
  line := part.count '\n' + 1
  column :=
    ((part.reverse.takeWhile fun c => c ≠ '\n').map Char.utf8Size).foldl
      (· + ·) 0

/-- A place in a message. -/
def text (place : Place) : String :=
  s!"at line {place.line} column {place.column}"

end Place

namespace Document

/-- What is said of a text with a part that is no value. -/
def noValue : String :=
  "data did not match any variant of untagged enum Value"

/-- The value that a text spells. -/
def value (text : String) : Except String Value :=
  match Value.ofString? text with
  | some value => .ok value
  | none => .error noValue

/-- A document by its type and, if it has no parts, by its value. -/
def describe : Json → String
  | .null | .illegible => "null"
  | .bool b => if b then "boolean `true`" else "boolean `false`"
  | .number (.integer i) => s!"integer `{i}`"
  | .number (.decimal x) =>
    s!"floating point `{String.ofList (Json.numberChars (.decimal x))}`"
  | .string s => s!"string {Text.quoted s}"
  | .array _ => "sequence"
  | .object _ => "map"

/-- What is being read in a text: strings hide the marks within them. -/
inductive Within
  | outside
  | text
  | escape

/-- How many characters of a text are read when each member of its object is
complete: those before the comma after the member, or all up to the brace after
the last one.  `read` characters were read and `depth` containers are open. -/
def memberEnds (read depth : Nat) (within : Within) : List Char → List Nat
  | [] => []
  | c :: rest =>
    match within with
    | .escape => memberEnds (read + 1) depth .text rest
    | .text =>
      memberEnds (read + 1) depth
        (if c = '\\' then .escape else if c = '"' then .outside else .text)
        rest
    | .outside =>
      if c = '"' then memberEnds (read + 1) depth .text rest
      else if c = '[' ∨ c = '\x7b' then
        memberEnds (read + 1) (depth + 1) .outside rest
      else if depth = 1 ∧ c = ',' then
        read :: memberEnds (read + 1) depth .outside rest
      else if depth = 1 ∧ c = '\x7d' then [read + 1]
      else if c = ']' ∨ c = '\x7d' then
        memberEnds (read + 1) (depth - 1) .outside rest
      else memberEnds (read + 1) depth .outside rest

/-- How many characters are read when the first member that is no value is. -/
def firstFault? : List (String × Json) → List Nat → Option Nat
  | (_, document) :: members, stop :: ends =>
    if (Value.ofJson? document).isNone then some stop
    else firstFault? members ends
  | _, _ => none

/-- The part of a text that was read when its document turned out to be no
object: nothing of an array but the blanks before it, else all but the blanks
at the end. -/
def readBefore (document : Json) (text : List Char) : List Char :=
  match document with
  | .array _ => text.takeWhile JsonToken.isSpace
  | _ => (text.reverse.dropWhile JsonToken.isSpace).reverse

/-- The object of values that a text spells. -/
def object (text : String) : Except String (Table Value) :=
  match Json.ofString? text with
  | some (.object members) =>
    match Value.tableOfJson? (.object members) with
    | some table => .ok table
    | none =>
      let stop :=
        (firstFault? members (memberEnds 0 0 .outside text.toList)).getD 0
      .error s!"{noValue} {(Place.after (text.toList.take stop)).text}"
  | some document =>
    .error <| s!"invalid type: {describe document}, expected a map " ++
      (Place.after (readBefore document text.toList)).text
  | none => .error "expected value at line 1 column 1"

end Document

end TemplateRegistry
