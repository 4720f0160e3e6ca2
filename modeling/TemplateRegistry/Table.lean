/-!
# Ordered tables

Finite maps keyed by strings, kept in ascending order of their keys so that
walking one always gives the same order, and ascending lists of distinct
names.  Strings are ordered by code point.

* `Table.insert` replaces the entry of a key or adds one in its place;
* `Table.ofList` lets a later entry of a key win over an earlier one;
* `Ascending.ofList` sorts names and drops repetitions.
-/

namespace TemplateRegistry

/-- A finite map from strings, as a list of entries in ascending order of the
keys. -/
abbrev Table (α : Type) : Type := List (String × α)

namespace Table

variable {α β : Type}

/-- The value stored under a key. -/
def get? (key : String) : Table α → Option α
  | [] => none
  | (k, v) :: rest => if k = key then some v else get? key rest

/-- Whether a key has an entry. -/
def contains (key : String) (table : Table α) : Bool :=
  (get? key table).isSome

/-- Store a value under a key, in place of the one stored before. -/
def insert (key : String) (value : α) : Table α → Table α
  | [] => [(key, value)]
  | (k, v) :: rest =>
    if key = k then (key, value) :: rest
    else if key < k then (key, value) :: (k, v) :: rest
    else (k, v) :: insert key value rest

/-- Remove the entry of a key. -/
def erase (key : String) (table : Table α) : Table α :=
  table.filter fun entry => entry.1 ≠ key

/-- Store a value under a key that has none; an entry already there stays. -/
def insertNew (key : String) (value : α) (table : Table α) : Table α :=
  if contains key table then table else insert key value table

/-- The table of a list of entries; of two with one key the later wins. -/
def ofList (entries : List (String × α)) : Table α :=
  entries.foldl (fun table entry => insert entry.1 entry.2 table) []

/-- The keys, ascending. -/
def keys (table : Table α) : List String :=
  table.map Prod.fst

/-- Looking up the key just stored. -/
theorem get?_insert_self (key : String) (value : α) (table : Table α) :
    get? key (insert key value table) = some value := by
  induction table with
  | nil => simp [insert, get?]
  | cons entry rest ih =>
    obtain ⟨k, v⟩ := entry
    by_cases hk : key = k
    · simp [insert, hk, get?]
    · by_cases hlt : key < k
      · simp [insert, hk, hlt, get?]
      · simp [insert, hk, hlt, get?, ih, Ne.symm hk]

/-- Storing under one key leaves every other key alone. -/
theorem get?_insert_ne {key other : String} (value : α) (table : Table α)
    (h : other ≠ key) :
    get? other (insert key value table) = get? other table := by
  induction table with
  | nil => simp [insert, get?, Ne.symm h]
  | cons entry rest ih =>
    obtain ⟨k, v⟩ := entry
    by_cases hk : key = k
    · subst hk
      simp [insert, get?, Ne.symm h]
    · by_cases hlt : key < k
      · simp [insert, hk, hlt, get?, Ne.symm h]
      · simp [insert, hk, hlt, get?, ih]

end Table

namespace Ascending

/-- Put a name into an ascending list; a name already there is not repeated. -/
def insert (name : String) : List String → List String
  | [] => [name]
  | first :: rest =>
    if name = first then first :: rest
    else if name < first then name :: first :: rest
    else first :: insert name rest

/-- The names of a list, ascending and each once. -/
def ofList (names : List String) : List String :=
  names.foldr insert []

/-- A name is in the list after insertion iff it is the new one or was there. -/
theorem mem_insert {name other : String} {names : List String} :
    other ∈ insert name names ↔ other = name ∨ other ∈ names := by
  induction names with
  | nil => simp [insert]
  | cons first rest ih =>
    by_cases h : name = first
    · subst h
      simp [insert]
    · by_cases hlt : name < first
      · simp [insert, h, hlt]
      · simp only [insert, h, hlt, if_false, List.mem_cons, ih]
        constructor
        · rintro (h1 | h1 | h1) <;> simp [h1]
        · rintro (h1 | h1 | h1) <;> simp [h1]

/-- Sorting keeps the names. -/
theorem mem_ofList {name : String} {names : List String} :
    name ∈ ofList names ↔ name ∈ names := by
  induction names with
  | nil => simp [ofList]
  | cons first rest ih =>
    have h : ofList (first :: rest) = insert first (ofList rest) := rfl
    rw [h, mem_insert, ih, List.mem_cons]

end Ascending

end TemplateRegistry
