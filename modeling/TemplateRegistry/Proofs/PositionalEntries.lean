import TemplateRegistry.Diff.Entry
/-!
# Entries of a place by place comparison

The entries of two lists account for both: each item of the older list is
unchanged or removed, each of the newer one unchanged or added, at its place.
So the counts add up to the lengths, nothing is added or removed only if the
lists are the same, and both lists can be read off the entries.

* `count_unchanged_removed`, `count_unchanged_added` — the counts of the two
  sides;
* `changes_positional_eq_zero_iff` — when there is nothing to count;
* `within_of_mem_positional` — the places;
* `Determines`, `determines_positional` — both lists from their entries.
-/

namespace TemplateRegistry.Diff

/-! ### Counts -/

section Counts

variable {place : Nat} {text : List Char} {entries : List Entry}
  {status : Status}

@[simp]
theorem count_nil : count status [] = 0 :=
  rfl

@[simp]
theorem count_unchanged_cons : count status (.unchanged place text :: entries) =
    count status entries + if status = .unchanged then 1 else 0 := by
  cases status <;> simp [count, Entry.unchanged]

@[simp]
theorem count_removed_cons : count status (.removed place text :: entries) =
    count status entries + if status = .removed then 1 else 0 := by
  cases status <;> simp [count, Entry.removed]

@[simp]
theorem count_added_cons : count status (.added place text :: entries) =
    count status entries + if status = .added then 1 else 0 := by
  cases status <;> simp [count, Entry.added]

/-- Items left over on the older side are all removed. -/
theorem count_removedFrom (place : Nat) (old : List (List Char)) :
    count status (removedFrom place old) =
      if status = .removed then old.length else 0 := by
  induction old generalizing place with
  | nil => simp [removedFrom]
  | cons a rest ih =>
      rw [removedFrom, count_removed_cons, ih]
      split <;> rfl

/-- Items left over on the newer side are all added. -/
theorem count_addedFrom (place : Nat) (new : List (List Char)) :
    count status (addedFrom place new) =
      if status = .added then new.length else 0 := by
  induction new generalizing place with
  | nil => simp [addedFrom]
  | cons b rest ih =>
      rw [addedFrom, count_added_cons, ih]
      split <;> rfl

/-- Unchanged and removed entries make up the older side, unchanged and added
ones the newer side. -/
theorem count_positionalFrom (place : Nat) (old new : List (List Char)) :
    count .unchanged (positionalFrom place old new) +
        count .removed (positionalFrom place old new) = old.length ∧
      count .unchanged (positionalFrom place old new) +
        count .added (positionalFrom place old new) = new.length := by
  fun_induction positionalFrom place old new with
  | case1 place new => simp [count_addedFrom]
  | case2 place a old => simp [count_removedFrom]
  | case3 place a old new ih =>
      simp only [count_unchanged_cons, reduceCtorEq, if_true, if_false,
        List.length_cons]
      omega
  | case4 place a old b new hne ih =>
      simp only [count_removed_cons, count_added_cons, reduceCtorEq, if_true,
        if_false, List.length_cons]
      omega

/-- Every item of the older list is unchanged or removed. -/
theorem count_unchanged_removed (old new : List (List Char)) :
    count .unchanged (positional old new) +
    count .removed (positional old new) = old.length :=
  (count_positionalFrom 1 old new).1

/-- Every item of the newer list is unchanged or added. -/
theorem count_unchanged_added (old new : List (List Char)) :
    count .unchanged (positional old new) + count .added (positional old new) =
      new.length :=
  (count_positionalFrom 1 old new).2

/-- The entries that are added or removed. -/
def changes (entries : List Entry) : Nat :=
  count .added entries + count .removed entries

/-- Two lists that differ in anything have entries that are added or removed. -/
theorem changes_positionalFrom_eq_zero_iff (place : Nat)
    (old new : List (List Char)) :
    changes (positionalFrom place old new) = 0 ↔ old = new := by
  fun_induction positionalFrom place old new with
  | case1 place new => simp [changes, count_addedFrom, eq_comm]
  | case2 place a old => simp [changes, count_removedFrom]
  | case3 place a old new ih => simpa [changes] using ih
  | case4 place a old b new hne ih => simp [changes, hne]

/-- Nothing is removed and nothing added only between equal lists. -/
theorem changes_positional_eq_zero_iff (old new : List (List Char)) :
    changes (positional old new) = 0 ↔ old = new :=
  changes_positionalFrom_eq_zero_iff 1 old new

end Counts

/-! ### Places -/

section Places

variable {place : Nat} {old new : List (List Char)} {e : Entry}

/-- A list compared with itself is unchanged at every place. -/
theorem unchanged_of_mem_positionalFrom_self
    (h : e ∈ positionalFrom place old old) :
    e.status = .unchanged := by
  induction old generalizing place with
  | nil => simp [positionalFrom, addedFrom] at h
  | cons a rest ih =>
      rw [positionalFrom, if_pos rfl] at h
      rcases List.mem_cons.mp h with rfl | hrest
      · rfl
      · exact ih hrest

/-- A list compared with itself has unchanged entries only. -/
theorem unchanged_of_mem_positional_self (h : e ∈ positional old old) :
    e.status = .unchanged :=
  unchanged_of_mem_positionalFrom_self h

/-- An entry whose places are below some bounds. -/
def Entry.Within (e : Entry) (oldBound newBound : Nat) : Prop :=
  (∀ p, e.oldPosition = some p → p < oldBound) ∧ ∀ p, e.newPosition = some p →
    p < newBound

/-- Removed items have positions on the older side. -/
theorem within_of_mem_removedFrom {newBound : Nat}
    (h : e ∈ removedFrom place old) :
    e.Within (place + old.length) newBound := by
  induction old generalizing place with
  | nil => cases h
  | cons a rest ih =>
      rw [List.length_cons]
      rcases List.mem_cons.mp h with rfl | hrest
      · simp [Entry.Within, Entry.removed]
      · simpa only [Nat.add_assoc, Nat.add_comm 1] using ih hrest

/-- Added items have positions on the newer side. -/
theorem within_of_mem_addedFrom {oldBound : Nat} (h : e ∈ addedFrom place new) :
    e.Within oldBound (place + new.length) := by
  induction new generalizing place with
  | nil => cases h
  | cons b rest ih =>
      rw [List.length_cons]
      rcases List.mem_cons.mp h with rfl | hrest
      · simp [Entry.Within, Entry.added]
      · simpa only [Nat.add_assoc, Nat.add_comm 1] using ih hrest

/-- Positions stay within the two sides. -/
theorem within_of_mem_positionalFrom (h : e ∈ positionalFrom place old new) :
    e.Within (place + old.length) (place + new.length) := by
  fun_induction positionalFrom place old new with
  | case1 place new => exact within_of_mem_addedFrom h
  | case2 place a old => exact within_of_mem_removedFrom h
  | case3 place a old new ih =>
      rw [List.length_cons, List.length_cons]
      rcases List.mem_cons.mp h with rfl | hrest
      · simp [Entry.Within, Entry.unchanged]
      · simpa only [Nat.add_assoc, Nat.add_comm 1] using ih hrest
  | case4 place a old b new hne ih =>
      rw [List.length_cons, List.length_cons]
      rcases List.mem_cons.mp h with rfl | hmore
      · simp [Entry.Within, Entry.removed]
      rcases List.mem_cons.mp hmore with rfl | hrest
      · simp [Entry.Within, Entry.added]
      · simpa only [Nat.add_assoc, Nat.add_comm 1] using ih hrest

/-- Places are counted from one up to the lengths of the lists. -/
theorem within_of_mem_positional (h : e ∈ positional old new) :
    e.Within (old.length + 1) (new.length + 1) := by
  simpa only [Nat.add_comm 1] using within_of_mem_positionalFrom h

end Places

/-! ### Both sides -/

section Sides

variable {place : Nat} {old new : List (List Char)} {e : Entry}

/-- What an entry has of the older list, with its place there. -/
def Entry.inOld (e : Entry) : Option (String × Nat) :=
  e.oldPosition.map fun p => (e.text, p)

/-- What an entry has of the newer list, with its place there. -/
def Entry.inNew (e : Entry) : Option (String × Nat) :=
  e.newPosition.map fun p => (e.text, p)

/-- The items of a list with their places, from a place on. -/
def numberedFrom (place : Nat) (items : List (List Char)) :
    List (String × Nat) :=
  (items.map String.ofList).zipIdx place

/-- An entry of an index at which two lists agree, where the first index has a
place. -/
def Agrees (place : Nat) (old new : List (List Char)) (e : Entry) : Prop :=
  ∃ (i : Nat) (item : List Char), old[i]? = some item ∧ new[i]? = some item ∧
    e = .unchanged (place + i) item

/-- Both lists can be read off some entries. -/
structure Determines (old new : List (List Char)) (entries : List Entry) :
    Prop where
  /-- No entry is modified. -/
  no_modified : ∀ e ∈ entries, e.status ≠ .modified
  /-- An entry has a place in the older list unless it is added. -/
  placed_old : ∀ e ∈ entries, e.oldPosition.isSome = true ↔ e.status ≠ .added
  /-- An entry has a place in the newer list unless it is removed. -/
  placed_new : ∀ e ∈ entries, e.newPosition.isSome = true ↔ e.status ≠ .removed
  old_side : entries.filterMap Entry.inOld = numberedFrom 1 old
  new_side : entries.filterMap Entry.inNew = numberedFrom 1 new
  /-- An unchanged entry stands exactly where the two lists agree. -/
  unchanged_iff : ∀ e, e ∈ entries ∧ e.status = .unchanged ↔ Agrees 1 old new e
  old_count : count .unchanged entries + count .removed entries = old.length
  new_count : count .unchanged entries + count .added entries = new.length

/-- What an entry of a comparison looks like. -/
inductive Entry.Positional : Entry → Prop
  | unchanged (place : Nat) (text : List Char) :
      Positional (.unchanged place text)
  | removed (place : Nat) (text : List Char) : Positional (.removed place text)
  | added (place : Nat) (text : List Char) : Positional (.added place text)

/-- Its status says on which sides such an entry stands. -/
theorem Entry.Positional.status (h : e.Positional) : e.status ≠ .modified ∧
    (e.oldPosition.isSome = true ↔ e.status ≠ .added) ∧
      (e.newPosition.isSome = true ↔ e.status ≠ .removed) := by
  cases h <;> simp [Entry.unchanged, Entry.removed, Entry.added]

/-- What an older list has alone is removed. -/
theorem eq_removed_of_mem_removedFrom (h : e ∈ removedFrom place old) :
    ∃ p text, e = .removed p text := by
  induction old generalizing place with
  | nil => cases h
  | cons a rest ih =>
      rcases List.mem_cons.mp h with rfl | hrest
      · exact ⟨place, a, rfl⟩
      · exact ih hrest

/-- What a newer list has alone is added. -/
theorem eq_added_of_mem_addedFrom (h : e ∈ addedFrom place new) :
    ∃ p text, e = .added p text := by
  induction new generalizing place with
  | nil => cases h
  | cons b rest ih =>
      rcases List.mem_cons.mp h with rfl | hrest
      · exact ⟨place, b, rfl⟩
      · exact ih hrest

/-- Every entry compares the items of one position. -/
theorem positional_of_mem_positionalFrom
    (h : e ∈ positionalFrom place old new) :
    e.Positional := by
  fun_induction positionalFrom place old new with
  | case1 place new =>
      obtain ⟨p, text, rfl⟩ := eq_added_of_mem_addedFrom h
      exact .added p text
  | case2 place a old =>
      obtain ⟨p, text, rfl⟩ := eq_removed_of_mem_removedFrom h
      exact .removed p text
  | case3 place old b new ih =>
      rcases List.mem_cons.mp h with rfl | hrest
      · exact .unchanged place b
      · exact ih hrest
  | case4 place a old b new hne ih =>
      rcases List.mem_cons.mp h with rfl | hmore
      · exact .removed place a
      rcases List.mem_cons.mp hmore with rfl | hrest
      · exact .added place b
      · exact ih hrest

@[simp]
theorem numberedFrom_cons (place : Nat) (item : List Char)
    (rest : List (List Char)) :
    numberedFrom place (item :: rest) =
      (String.ofList item, place) :: numberedFrom (place + 1) rest :=
  rfl

@[simp]
theorem inOld_unchanged (place : Nat) (text : List Char) :
    (Entry.unchanged place text).inOld = some (String.ofList text, place) :=
  rfl

@[simp]
theorem inNew_unchanged (place : Nat) (text : List Char) :
    (Entry.unchanged place text).inNew = some (String.ofList text, place) :=
  rfl

@[simp]
theorem inOld_removed (place : Nat) (text : List Char) :
    (Entry.removed place text).inOld = some (String.ofList text, place) :=
  rfl

@[simp]
theorem inNew_removed (place : Nat) (text : List Char) :
    (Entry.removed place text).inNew = none :=
  rfl

@[simp]
theorem inOld_added (place : Nat) (text : List Char) :
    (Entry.added place text).inOld = none :=
  rfl

@[simp]
theorem inNew_added (place : Nat) (text : List Char) :
    (Entry.added place text).inNew = some (String.ofList text, place) :=
  rfl

/-- Removed entries give the older side, and nothing of the newer one. -/
theorem sides_removedFrom (place : Nat) (old : List (List Char)) :
    (removedFrom place old).filterMap Entry.inOld = numberedFrom place old ∧
      (removedFrom place old).filterMap Entry.inNew = [] := by
  induction old generalizing place with
  | nil => exact ⟨rfl, rfl⟩
  | cons a rest ih =>
      obtain ⟨hold, hnew⟩ := ih (place + 1)
      simp only [removedFrom, List.filterMap_cons, inOld_removed, inNew_removed,
        hold, hnew, numberedFrom_cons, and_self]

/-- Added entries give the newer side, and nothing of the older one. -/
theorem sides_addedFrom (place : Nat) (new : List (List Char)) :
    (addedFrom place new).filterMap Entry.inOld = [] ∧
      (addedFrom place new).filterMap Entry.inNew = numberedFrom place new := by
  induction new generalizing place with
  | nil => exact ⟨rfl, rfl⟩
  | cons b rest ih =>
      obtain ⟨hold, hnew⟩ := ih (place + 1)
      simp only [addedFrom, List.filterMap_cons, inOld_added, inNew_added, hold,
        hnew, numberedFrom_cons, and_self]

/-- The entries of either side are its items, in order. -/
theorem sides_positionalFrom (place : Nat) (old new : List (List Char)) :
    (positionalFrom place old new).filterMap Entry.inOld =
      numberedFrom place old ∧
      (positionalFrom place old new).filterMap Entry.inNew =
        numberedFrom place new := by
  fun_induction positionalFrom place old new with
  | case1 place new => exact sides_addedFrom place new
  | case2 place a old => exact sides_removedFrom place (a :: old)
  | case3 place old b new ih => simp [ih]
  | case4 place a old b new hne ih => simp [List.filterMap_cons, ih]

/-- Two lists agree at the first index or behind it. -/
theorem agrees_cons_cons {a b : List Char} :
    Agrees place (a :: old) (b :: new) e ↔
    (a = b ∧ e = .unchanged place a) ∨ Agrees (place + 1) old new e := by
  constructor
  · rintro ⟨i, item, hold, hnew, rfl⟩
    cases i with
    | zero =>
        obtain rfl : a = item := by simpa using hold
        obtain rfl : b = a := by simpa using hnew
        exact Or.inl ⟨rfl, rfl⟩
    | succ i =>
        rw [show place + (i + 1) = place + 1 + i by omega]
        exact Or.inr ⟨i, item, by simpa using hold, by simpa using hnew, rfl⟩
  · rintro (⟨rfl, rfl⟩ | ⟨i, item, hold, hnew, rfl⟩)
    · exact ⟨0, a, rfl, rfl, rfl⟩
    · rw [show place + 1 + i = place + (i + 1) by omega]
      exact ⟨i + 1, item, by simpa using hold, by simpa using hnew, rfl⟩

/-- The unchanged entries are those of the indices at which the lists agree. -/
theorem mem_positionalFrom_unchanged_iff (place : Nat)
    (old new : List (List Char)) (e : Entry) :
    e ∈ positionalFrom place old new ∧ e.status = .unchanged ↔
      Agrees place old new e := by
  fun_induction positionalFrom place old new with
  | case1 place new =>
      constructor
      · rintro ⟨hmem, hstatus⟩
        obtain ⟨p, text, rfl⟩ := eq_added_of_mem_addedFrom hmem
        cases hstatus
      · rintro ⟨i, item, hold, -⟩
        simp at hold
  | case2 place a old =>
      constructor
      · rintro ⟨hmem, hstatus⟩
        obtain ⟨p, text, rfl⟩ := eq_removed_of_mem_removedFrom hmem
        cases hstatus
      · rintro ⟨i, item, -, hnew, -⟩
        simp at hnew
  | case3 place old b new ih =>
      rw [agrees_cons_cons, ← ih, List.mem_cons, or_and_right]
      refine or_congr_left ⟨fun h => ⟨rfl, h.1⟩, ?_⟩
      rintro ⟨-, rfl⟩
      exact ⟨rfl, rfl⟩
  | case4 place a old b new hne ih =>
      rw [agrees_cons_cons, ← ih]
      constructor
      · rintro ⟨hmem, hstatus⟩
        rcases List.mem_cons.mp hmem with rfl | hmore
        · cases hstatus
        rcases List.mem_cons.mp hmore with rfl | hrest
        · cases hstatus
        · exact Or.inr ⟨hrest, hstatus⟩
      · rintro (⟨rfl, -⟩ | ⟨hmem, hstatus⟩)
        · exact (hne rfl).elim
        · exact ⟨List.mem_cons_of_mem _ (List.mem_cons_of_mem _ hmem), hstatus⟩

/-- The entries of two lists determine them. -/
theorem determines_positional (old new : List (List Char)) :
    Determines old new (positional old new) where
  no_modified _ he := (positional_of_mem_positionalFrom he).status.1
  placed_old _ he := (positional_of_mem_positionalFrom he).status.2.1
  placed_new _ he := (positional_of_mem_positionalFrom he).status.2.2
  old_side := (sides_positionalFrom 1 old new).1
  new_side := (sides_positionalFrom 1 old new).2
  unchanged_iff := mem_positionalFrom_unchanged_iff 1 old new
  old_count := count_unchanged_removed old new
  new_count := count_unchanged_added old new

/-- **Both sides.**  The lines of two texts are determined by the entries of
their comparison by lines, and their words by the entries of the one by
words. -/
theorem both_sides_determined (old new : String) :
    Determines (Text.lines old.toList) (Text.lines new.toList)
      (lineEntries old new) ∧
      Determines (Text.words old.toList) (Text.words new.toList)
        (wordEntries old new) :=
  ⟨determines_positional _ _, determines_positional _ _⟩

end Sides

end TemplateRegistry.Diff
