import TemplateRegistry.Number.Numeral
/-!
# JSON documents

A JSON document as a tree.  A number is an integer, when its numeral is plain
and fits into 64 bits, and a double otherwise; a numeral beyond the doubles is
an infinity, which no reader takes for a value.  The members of an object are
kept in the order of the text, repetitions included: whether a repeated name is
an error or the last one wins is for the reader of the object to say.
-/

namespace TemplateRegistry

/-- A number of a JSON document. -/
inductive JsonNumber
  | integer (value : Int)
  | decimal (value : Double)
  deriving DecidableEq

namespace JsonNumber

/-- The number a numeral stands for. -/
def ofNumeral (n : Numeral) : JsonNumber :=
  match n.integer? with
  | some i => .integer i
  | none => .decimal n.quick

/-- A number as a double. -/
def toDouble : JsonNumber → Double
  | .integer i => Double.ofInt i
  | .decimal x => x

end JsonNumber

/-- A JSON document. -/
inductive Json
  | null
  | bool (value : Bool)
  | number (value : JsonNumber)
  | string (value : String)
  | array (items : List Json)
  | object (members : List (String × Json))
  /-- A string with half of a surrogate pair, an object with such a name, or a
  container inside too many others. -/
  | illegible

namespace Json

/-- An integer as a document. -/
def integer (i : Int) : Json :=
  .number (.integer i)

/-- A document or `null`. -/
def option {α : Type} (write : α → Json) : Option α → Json
  | none => .null
  | some a => write a

/-- A list of strings as a document. -/
def strings (items : List String) : Json :=
  .array (items.map .string)

end Json

end TemplateRegistry
