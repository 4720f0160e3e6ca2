import TemplateRegistry.Database.Statement
/-!
# Rows by version

The declarations of many versions come in one list of rows, in whatever order
the database gives them.  `RowGroups.ofRows` puts each row into the group of
its version; the group of a version is then looked up with `rowsOf`, and gone
after `erase`.
-/

namespace TemplateRegistry.Database

/-- Rows by the id of the version they belong to. -/
abbrev RowGroups : Type := List (Int × List ParameterRow)

namespace RowGroups

/-- The rows of a version, none unless it has a group. -/
def rowsOf (id : Int) : RowGroups → List ParameterRow
  | [] => []
  | (key, rows) :: rest => if key = id then rows else rowsOf id rest

/-- Put a row at the end of the group of its version, which begins with it if
there was none. -/
def add (row : ParameterRow) : RowGroups → RowGroups
  | [] => [(row.templateId, [row])]
  | (key, rows) :: rest =>
    if key = row.templateId then (key, rows ++ [row]) :: rest
    else (key, rows) :: add row rest

/-- Remove the group of a version. -/
def erase (id : Int) (groups : RowGroups) : RowGroups :=
  groups.filter fun group => group.1 ≠ id

/-- The groups of some rows. -/
def ofRows (rows : List ParameterRow) : RowGroups :=
  rows.foldl (fun groups row => add row groups) []

/-- A row comes last in the group of its version, and into no other. -/
theorem rowsOf_add (id : Int) (row : ParameterRow) (groups : RowGroups) :
    rowsOf id (add row groups) =
      if row.templateId = id then rowsOf id groups ++ [row]
      else rowsOf id groups := by
  induction groups with
  | nil => rfl
  | cons group rest ih =>
    obtain ⟨key, rows⟩ := group
    by_cases hkey : key = row.templateId
    · rw [add, if_pos hkey, rowsOf, rowsOf, hkey]
      by_cases hid : row.templateId = id
      · simp [hid]
      · simp [hid]
    · rw [add, if_neg hkey, rowsOf, rowsOf, ih]
      by_cases hid : key = id
      · have hne : row.templateId ≠ id := fun h => hkey (hid.trans h.symm)
        simp [hid, hne]
      · simp [hid]

/-- Removing one group leaves every other group alone. -/
theorem rowsOf_erase_ne {id other : Int} (h : id ≠ other) (groups : RowGroups) :
    rowsOf id (erase other groups) = rowsOf id groups := by
  induction groups with
  | nil => rfl
  | cons group rest ih =>
    obtain ⟨key, rows⟩ := group
    rw [erase] at ih ⊢
    by_cases hother : key = other
    · have hne : key ≠ id := fun hid => h (hid.symm.trans hother)
      rw [List.filter_cons_of_neg (by simp [hother]), ih, rowsOf, if_neg hne]
    · rw [List.filter_cons_of_pos (by simp [hother]), rowsOf, rowsOf, ih]

/-- What was collected before stands before the rows to come. -/
theorem rowsOf_foldl_add (id : Int) (rows : List ParameterRow)
    (groups : RowGroups) :
    rowsOf id (rows.foldl (fun groups row => add row groups) groups) =
      rowsOf id groups ++ rows.filter fun row => row.templateId = id := by
  induction rows generalizing groups with
  | nil => simp
  | cons row rest ih =>
    rw [List.foldl_cons, ih, rowsOf_add]
    by_cases hid : row.templateId = id
    · simp [hid]
    · simp [hid]

/-- The group of a version is its rows, in the order in which they came. -/
theorem rowsOf_ofRows (id : Int) (rows : List ParameterRow) :
    rowsOf id (ofRows rows) = rows.filter fun row => row.templateId = id := by
  rw [ofRows, rowsOf_foldl_add]
  rfl

end RowGroups

end TemplateRegistry.Database
