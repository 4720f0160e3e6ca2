import TemplateRegistry.Json.Basic
/-!
# Reading records out of JSON documents

A record with named fields is read from an object, in any order of the members
and past members of other names, or from an array that gives the fields in
their declared order.  A field given twice is an error.  What a missing field
means depends on the field:

* `Slot.required` — an error;
* `Slot.orElse` — a default value;
* `Slot.nullable` — no value, as `null` does; an array must still reach it.
-/

namespace TemplateRegistry

/-- What a document gives for a field. -/
inductive Slot
  /-- A value. -/
  | given (value : Json)
  /-- The object has no member of that name. -/
  | absent
  /-- The array ended before the field. -/
  | cut

namespace Slot

variable {α : Type}

/-- A field that must be given. -/
def required (read : Json → Option α) : Slot → Option α
  | .given value => read value
  | _ => none

/-- A field with a default. -/
def orElse (default : α) (read : Json → Option α) : Slot → Option α
  | .given value => read value
  | _ => some default

/-- A value or `null`. -/
def readOption (read : Json → Option α) : Json → Option (Option α)
  | .null => some none
  | value => (read value).map some

/-- A field that may be `null` or missing. -/
def nullable (read : Json → Option α) : Slot → Option (Option α)
  | .given value => readOption read value
  | .absent => some none
  | .cut => none

/-- A field that may be `null` or missing, from an array as well. -/
def nullableOrCut (read : Json → Option α) : Slot → Option (Option α)
  | .given value => readOption read value
  | _ => some none

end Slot

namespace Json

/-- The slot of a name among the members of an object, unless it is given
twice. -/
def slot? (members : List (String × Json)) (name : String) : Option Slot :=
  match members.filter fun member => member.1 = name with
  | [] => some .absent
  | [member] => some (.given member.2)
  | _ => none

/-- The slots of the items of an array, one for each field. -/
def slotsOfItems? : List String → List Json → Option (List Slot)
  | [], [] => some []
  | [], _ :: _ => none
  | _ :: names, [] => (slotsOfItems? names []).map (.cut :: ·)
  | _ :: names, item :: items =>
    (slotsOfItems? names items).map (.given item :: ·)

/-- The slots of a record with the given field names, in their order. -/
def slots? (names : List String) : Json → Option (List Slot)
  | .object members => names.mapM (slot? members)
  | .array items => slotsOfItems? names items
  | _ => none

/-- A string. -/
def string? : Json → Option String
  | .string s => some s
  | _ => none

/-- A truth value. -/
def bool? : Json → Option Bool
  | .bool b => some b
  | _ => none

/-- An integer between two bounds, both included. -/
def integerIn? (low high : Int) : Json → Option Int
  | .number (.integer i) => if low ≤ i ∧ i ≤ high then some i else none
  | _ => none

/-- A signed integer of a number of bits. -/
def signed? (bits : Nat) : Json → Option Int :=
  let half : Int := Nat.pow 2 (bits - 1)
  integerIn? (-half) (half - 1)

/-- A signed integer of 64 bits. -/
def int64? : Json → Option Int :=
  signed? 64

/-- A signed integer of 32 bits. -/
def int32? : Json → Option Int :=
  signed? 32

/-- A natural number of 64 bits. -/
def natural? (document : Json) : Option Nat :=
  (integerIn? 0 (Nat.pow 2 64 - 1 : Nat) document).map Int.toNat

/-- A list, each item read alike. -/
def list? {α : Type} (read : Json → Option α) : Json → Option (List α)
  | .array items => items.mapM read
  | _ => none

/-- One of several names, as a string or as the only member of an object whose
value is `null`. -/
def name? : Json → Option String
  | .string s => some s
  | .object [(name, .null)] => some name
  | _ => none

end Json

end TemplateRegistry
