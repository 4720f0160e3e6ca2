import TemplateRegistry.Value.Basic
import TemplateRegistry.Json.Reader
/-!
# Reading values out of JSON documents

There are two readings.  They agree on documents in which every part is a value;
a `null`, a number beyond the doubles and an illegible part are none:

* `Value.ofJson?` is strict: one of these anywhere makes it fail;
* `Value.ofJsonLenient?` drops them: items, members, or the whole.

Of two members of one name the last one counts in both.
-/

namespace TemplateRegistry

namespace Value

/-- The value of a number, unless it is beyond the doubles. -/
def ofJsonNumber? (n : JsonNumber) : Option Value :=
  if n.toDouble.isFinite then some (number n.toDouble) else none

mutual

/-- The value of a document, every part of which is one. -/
def ofJson? : Json → Option Value
  | .null => none
  | .bool b => some (boolean b)
  | .number n => ofJsonNumber? n
  | .string s => some (string s)
  | .array items => (itemsOfJson? items).map array
  | .object members => (entriesOfJson? [] members).map object
  | .illegible => none

/-- The values of a list of documents. -/
def itemsOfJson? : List Json → Option (List Value)
  | [] => some []
  | item :: rest =>
    match ofJson? item, itemsOfJson? rest with
    | some value, some values => some (value :: values)
    | _, _ => none

/-- A map with the values of members stored into it. -/
def entriesOfJson? (table : Table Value) :
    List (String × Json) → Option (Table Value)
  | [] => some table
  | (key, document) :: rest =>
    match ofJson? document with
    | some value => entriesOfJson? (Table.insert key value table) rest
    | none => none

end

mutual

/-- The value of a document with every part left out that is none. -/
def ofJsonLenient? : Json → Option Value
  | .null => none
  | .bool b => some (boolean b)
  | .number n => ofJsonNumber? n
  | .string s => some (string s)
  | .array items => some (array (itemsOfJsonLenient items))
  | .object members => some (object (entriesOfJsonLenient [] members))
  | .illegible => none

/-- The values of the items that have one. -/
def itemsOfJsonLenient : List Json → List Value
  | [] => []
  | item :: rest =>
    match ofJsonLenient? item with
    | some value => value :: itemsOfJsonLenient rest
    | none => itemsOfJsonLenient rest

/-- A map with the values of members stored into it; a member without a value
takes the key out again. -/
def entriesOfJsonLenient (table : Table Value) :
    List (String × Json) → Table Value
  | [] => table
  | (key, document) :: rest =>
    match ofJsonLenient? document with
    | some value => entriesOfJsonLenient (Table.insert key value table) rest
    | none => entriesOfJsonLenient (Table.erase key table) rest

end

/-- The value a JSON text spells. -/
def ofString? (text : String) : Option Value :=
  (Json.ofString? text).bind ofJson?

/-- A map of values, as log metadata and render parameters are. -/
def tableOfJson? : Json → Option (Table Value)
  | .object members => entriesOfJson? [] members
  | _ => none

end Value

end TemplateRegistry
