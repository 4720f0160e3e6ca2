import TemplateRegistry.Text.Lines
/-!
# Positional differences

Two lists of lines or words are compared place by place: what agrees at a place
is unchanged, what does not is removed and added, and what one list has beyond
the other is removed or added.  Nothing is realigned, so an inserted line shifts
every pair after it.

* `positional` — the entries of two lists;
* `lineEntries`, `wordEntries` — the entries of two texts.
-/

namespace TemplateRegistry.Diff

/-- What became of an entry from the older to the newer version. -/
inductive Status
  | added
  | removed
  | modified
  | unchanged
  deriving DecidableEq

namespace Status

/-- Every status. -/
def all : List Status := [added, removed, modified, unchanged]

/-- The name of a status. -/
def name : Status → String
  | added => "added"
  | removed => "removed"
  | modified => "modified"
  | unchanged => "unchanged"

/-- The status of a name. -/
def find? (s : String) : Option Status :=
  all.find? fun status => status.name = s

end Status

/-- A line or word with its places, counted from one. -/
structure Entry where
  status : Status
  text : String
  oldPosition : Option Nat
  newPosition : Option Nat
  deriving DecidableEq

/-- The entry of something that only the older list has. -/
def Entry.removed (place : Nat) (text : List Char) : Entry :=
  ⟨.removed, String.ofList text, some place, none⟩

/-- The entry of something that only the newer list has. -/
def Entry.added (place : Nat) (text : List Char) : Entry :=
  ⟨.added, String.ofList text, none, some place⟩

/-- The entry of something that both lists have at a place. -/
def Entry.unchanged (place : Nat) (text : List Char) : Entry :=
  ⟨.unchanged, String.ofList text, some place, some place⟩

/-- The entries of an older list that goes on alone. -/
def removedFrom (place : Nat) : List (List Char) → List Entry
  | [] => []
  | a :: old => .removed place a :: removedFrom (place + 1) old

/-- The entries of a newer list that goes on alone. -/
def addedFrom (place : Nat) : List (List Char) → List Entry
  | [] => []
  | b :: new => .added place b :: addedFrom (place + 1) new

/-- The entries of two lists from a place on. -/
def positionalFrom (place : Nat) : List (List Char) → List (List Char) →
    List Entry
  | [], new => addedFrom place new
  | a :: old, [] => removedFrom place (a :: old)
  | a :: old, b :: new =>
    if a = b then .unchanged place a :: positionalFrom (place + 1) old new
    else .removed place a :: .added place b ::
      positionalFrom (place + 1) old new

/-- The entries of two lists. -/
def positional (old new : List (List Char)) : List Entry :=
  positionalFrom 1 old new

/-- The lines of two texts. -/
def lineEntries (old new : String) : List Entry :=
  positional (Text.lines old.toList) (Text.lines new.toList)

/-- The words of two texts. -/
def wordEntries (old new : String) : List Entry :=
  positional (Text.words old.toList) (Text.words new.toList)

/-- How many entries have a status. -/
def count (status : Status) (entries : List Entry) : Nat :=
  (entries.filter fun entry => entry.status = status).length

end TemplateRegistry.Diff
