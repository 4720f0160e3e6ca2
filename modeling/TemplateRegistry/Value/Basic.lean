import TemplateRegistry.Table
import TemplateRegistry.Json.Printer
/-!
# Parameter values

The values of parameters, of declared defaults and of log metadata: strings,
numbers, truth values, lists, and maps with ascending keys.

* `Value.isTruthy` — what an `if` section tests;
* `Value.follow?` — a path of keys into nested maps;
* `Value.toJson` and `Value.canonicalJson` — the one JSON text of a value;
* `Value.display` — the text a placeholder is replaced by.

An integral number below `9e15` in magnitude is written as an integer in both
texts, so the two zeros are written alike.
-/

namespace TemplateRegistry

/-- A typed value. -/
inductive Value
  | string (value : String)
  | number (value : Double)
  | boolean (value : Bool)
  | array (items : List Value)
  | object (entries : List (String × Value))

/-- Values by name. -/
abbrev Parameters : Type := Table Value

namespace Value

/-- The integer a number is written as: the number itself, if it is integral
and below `9e15` in magnitude. -/
def integral? (x : Double) : Option Int :=
  match x.toInt? with
  | some i => if i.natAbs < 9000000000000000 then some i else none
  | none => none

/-- Truth of a value: everything but the empty string, zero, NaN, `false` and
what holds nothing. -/
def isTruthy : Value → Bool
  | string s => !s.isEmpty
  | number x => !x.isZero && !x.isNaN
  | boolean b => b
  | array items => !items.isEmpty
  | object entries => !entries.isEmpty

mutual

/-- Whether every number in a value is finite. -/
def isFinite : Value → Bool
  | string _ => true
  | number x => x.isFinite
  | boolean _ => true
  | array items => allFinite items
  | object entries => allFiniteEntries entries

/-- Whether every number in a list of values is finite. -/
def allFinite : List Value → Bool
  | [] => true
  | item :: rest => isFinite item && allFinite rest

/-- Whether every number in a map is finite. -/
def allFiniteEntries : List (String × Value) → Bool
  | [] => true
  | (_, value) :: rest => isFinite value && allFiniteEntries rest

end

mutual

/-- Equality of values; numbers compare as numbers. -/
def same : Value → Value → Bool
  | string s, string t => s = t
  | number x, number y => x == y
  | boolean b, boolean c => b = c
  | array items, array others => sameItems items others
  | object entries, object others => sameEntries entries others
  | _, _ => false

/-- Equality of lists of values, item by item. -/
def sameItems : List Value → List Value → Bool
  | [], [] => true
  | item :: rest, other :: others => same item other && sameItems rest others
  | _, _ => false

/-- Equality of maps, entry by entry. -/
def sameEntries : List (String × Value) → List (String × Value) → Bool
  | [], [] => true
  | (key, value) :: rest, (other, otherValue) :: others =>
    key = other && same value otherValue && sameEntries rest others
  | _, _ => false

end

instance : BEq Value := ⟨same⟩

/-- The name of the type of a value. -/
def typeName : Value → String
  | string _ => "string"
  | number _ => "number"
  | boolean _ => "boolean"
  | array _ => "array"
  | object _ => "object"

/-- Walk a path of keys into nested maps. -/
def follow? : List String → Value → Option Value
  | [], value => some value
  | key :: path, object entries => (Table.get? key entries).bind (follow? path)
  | _ :: _, _ => none

/-- A number as a document. -/
def numberJson (x : Double) : Json :=
  match integral? x with
  | some i => .integer i
  | none => if x.isFinite then .number (.decimal x) else .null

mutual

/-- A value as a document. -/
def toJson : Value → Json
  | string s => .string s
  | number x => numberJson x
  | boolean b => .bool b
  | array items => .array (itemsToJson items)
  | object entries => .object (entriesToJson entries)

/-- A list of values as documents. -/
def itemsToJson : List Value → List Json
  | [] => []
  | item :: rest => toJson item :: itemsToJson rest

/-- The entries of a map as members. -/
def entriesToJson : List (String × Value) → List (String × Json)
  | [] => []
  | (key, value) :: rest => (key, toJson value) :: entriesToJson rest

end

/-- The canonical JSON text: no blanks, ascending keys. -/
def canonicalJson (value : Value) : String :=
  value.toJson.compact

/-- Numbers in a rendered text: never an exponent. -/
def displayStyle : Style where
  tie := .upward
  isPositional _ := true
  wholeTail := []

/-- A number in a rendered text. -/
def displayNumber (x : Double) : List Char :=
  match integral? x with
  | some i => Json.integerChars i
  | none =>
    if x.isFinite then displayStyle.print x
    else if x.isNaN then "NaN".toList
    else if x.isNegative then "-inf".toList else "inf".toList

/-- The text that stands for a value in a rendered text. -/
def display : Value → String
  | string s => s
  | number x => String.ofList (displayNumber x)
  | boolean true => "true"
  | boolean false => "false"
  | array items => (array items).canonicalJson
  | object entries => (object entries).canonicalJson

/-- An integer as a value. -/
def ofInt (i : Int) : Value :=
  number (Double.ofInt i)

end Value

end TemplateRegistry
