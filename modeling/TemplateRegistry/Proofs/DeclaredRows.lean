import Mathlib.Data.List.Forall2
import TemplateRegistry.Proofs.DatabaseSessions
/-!
# Declarations out of rows

A row is read back as the declaration that it is the row of, unless no type has
the name in it.  Rows are read one by one, and the first that cannot be read is
the one reported.  Versions get their declarations out of groups of rows that
are used up on the way; if no two of them have one id, this is to read for each
of them the rows of its own.

* `mapM_eq_ok_iff`, `failureOf?_mapM` — what is read one by one, and the first
  failure;
* `ParameterRow.toDef_eq_ok_iff`, `failureOf?_toDef` — what a row is read as;
* `failureOf?_definitions` — the first row whose type is unknown;
* `attachParameters_eq_mapM` — versions with the declarations of their own rows;
* `TemplateVersion.perm_ownRows` — every row of the versions is one version's
  own.
-/

namespace TemplateRegistry

/-! ### Reading one by one -/

section OneByOne
variable {α β ε ε' : Type}

/-- The error of a result, if it is one. -/
def failureOf? : Except ε α → Option ε
  | .error error => some error
  | .ok _ => none

/-- A function of the value does not change the failure. -/
theorem failureOf?_map (f : α → β) (result : Except ε α) :
    failureOf? (result.map f) = failureOf? result := by
  cases result <;> rfl

/-- All is read, each item as it is read alone. -/
theorem mapM_eq_ok_iff {f : α → Except ε β} {items : List α} {values : List β} :
    items.mapM f = .ok values ↔
      List.Forall₂ (fun a b => f a = .ok b) items values := by
  induction items generalizing values with
  | nil =>
      rw [List.forall₂_nil_left_iff, List.mapM_nil]
      exact ⟨fun h => (Except.ok.inj h).symm, fun h => by rw [h]; rfl⟩
  | cons a rest ih =>
      rw [List.forall₂_cons_left_iff, List.mapM_cons]
      constructor
      · intro h
        cases ha : f a with
        | error error => rw [ha] at h; cases h
        | ok b =>
            cases hrest : rest.mapM f with
            | error error => rw [ha, hrest] at h; cases h
            | ok bs =>
                rw [ha, hrest] at h
                exact ⟨b, bs, rfl, ih.mp hrest, (Except.ok.inj h).symm⟩
      · rintro ⟨b, bs, hb, hbs, rfl⟩
        rw [hb, ih.mpr hbs]
        rfl

/-- What fails first is the failure of all. -/
theorem failureOf?_mapM (f : α → Except ε β) (items : List α) :
    failureOf? (items.mapM f) = items.findSome? fun a => failureOf? (f a) := by
  induction items with
  | nil => rfl
  | cons a rest ih =>
      rw [List.findSome?_cons, ← ih, List.mapM_cons]
      cases f a with
      | error error => rfl
      | ok b => cases rest.mapM f <;> rfl

/-- Traversals agree if they agree at every item. -/
theorem mapM_congr {f g : α → Except ε β} {items : List α}
    (h : ∀ a ∈ items, f a = g a) :
    items.mapM f = items.mapM g := by
  induction items with
  | nil => rfl
  | cons a rest ih =>
      rw [List.mapM_cons, List.mapM_cons, h a List.mem_cons_self,
        ih fun b hb => h b (List.mem_cons_of_mem a hb)]

/-- What a failure means may be said of each item or of all. -/
theorem mapError_mapM (meaning : ε → ε') (f : α → Except ε β) (items : List α) :
    (items.mapM f).mapError meaning = items.mapM fun a =>
      (f a).mapError meaning := by
  induction items with
  | nil => rfl
  | cons a rest ih =>
      rw [List.mapM_cons, List.mapM_cons, ← ih]
      cases f a with
      | error error => rfl
      | ok b => cases rest.mapM f <;> rfl

/-- Renaming the error leaves a success alone. -/
theorem mapError_eq_ok_iff {meaning : ε → ε'} {result : Except ε α}
    {value : α} :
    result.mapError meaning = .ok value ↔ result = .ok value := by
  cases result with
  | error error => simp [Except.mapError]
  | ok other => simp [Except.mapError]

/-- A failure is a renamed one. -/
theorem mapError_eq_error_iff {meaning : ε → ε'} {result : Except ε α}
    {error : ε'} :
    result.mapError meaning = .error error ↔
      ∃ cause, failureOf? result = some cause ∧ error = meaning cause := by
  cases result with
  | error cause => simp [Except.mapError, failureOf?, eq_comm]
  | ok value => simp [Except.mapError, failureOf?]

end OneByOne

/-! ### One row -/

namespace ParameterType

/-- A type is found by its own name. -/
theorem find?_eq_some_iff {s : String} {type : ParameterType} :
    find? s = some type ↔ type.name = s := by
  constructor
  · intro h
    simpa using List.find?_some h
  · rintro rfl
    exact find?_name type

/-- A name that no type has is not found. -/
theorem find?_eq_none_iff {s : String} : find? s = none ↔ s ∉ all.map name := by
  simp [find?]

/-- What is said of a name that no type has. -/
def unknown (s : String) : RegistryError :=
  .validation "type"
    s!"Invalid parameter type '{s}'. Must be one of: string, number, boolean, array, object"

/-- An unknown name is refused, and named in the error. -/
theorem ofName_of_unknown {s : String} (h : s ∉ all.map name) :
    ofName s = .error (unknown s) := by
  have hnames :
    ", ".intercalate (all.map name) =
      "string, number, boolean, array, object" := rfl
  rw [ofName, find?_eq_none_iff.mpr h]
  simp only [hnames, unknown, String.append_assoc]
  rfl

end ParameterType

namespace ParameterRow

/-- Whether a row is the row of a declaration. -/
def Declares (row : ParameterRow) (param : ParameterDef) : Prop :=
  row = .of row.id row.templateId row.position param

/-- Whether no type has the name in a row. -/
def TypeUnknown (row : ParameterRow) : Prop :=
  row.typeName ∉ ParameterType.all.map ParameterType.name

instance : DecidablePred TypeUnknown :=
  fun row => inferInstanceAs
    (Decidable (row.typeName ∉ ParameterType.all.map ParameterType.name))

/-- A row is read as the declaration that it is the row of. -/
theorem toDef_eq_ok_iff {row : ParameterRow} {param : ParameterDef} :
    row.toDef = .ok param ↔ row.Declares param := by
  obtain ⟨id, templateId, position, name, description, required, typeName,
    defaultValue⟩ := row
  obtain ⟨name', description', required', type, defaultValue'⟩ := param
  rw [toDef, ParameterType.ofName]
  cases hfind : ParameterType.find? typeName with
  | none =>
      have hne : type.name ≠ typeName := fun h => by
        simp [ParameterType.find?_eq_some_iff.mpr h] at hfind
      constructor
      · intro h
        cases h
      · intro h
        exact (hne (congrArg ParameterRow.typeName h).symm).elim
  | some found =>
      obtain rfl := ParameterType.find?_eq_some_iff.mp hfind
      constructor
      · intro h
        obtain ⟨rfl, rfl, rfl, rfl, rfl⟩ :=
          ParameterDef.mk.inj (Except.ok.inj h)
        rfl
      · intro h
        obtain ⟨-, -, -, rfl, rfl, rfl, hname, rfl⟩ := ParameterRow.mk.inj h
        have htype : some found = some type := by
          rw [← hfind, ParameterType.find?_eq_some_iff]
          exact hname.symm
        obtain rfl := Option.some.inj htype
        rfl

/-- The row of a declaration is refused just if its type is unknown. -/
theorem failureOf?_toDef (row : ParameterRow) :
    failureOf? row.toDef =
      if row.TypeUnknown then some (ParameterType.unknown row.typeName)
      else none := by
  by_cases h : row.TypeUnknown
  · rw [toDef, ParameterType.ofName_of_unknown h, if_pos h]
    rfl
  · have hfind : ParameterType.find? row.typeName ≠ none :=
      fun hnone => h (ParameterType.find?_eq_none_iff.mp hnone)
    obtain ⟨type, htype⟩ := Option.ne_none_iff_exists'.mp hfind
    rw [toDef, ParameterType.ofName, htype, if_neg h]
    rfl

end ParameterRow

/-! ### The rows of a version, and of many -/

namespace Database

/-- Rows are read as the declarations that they are the rows of. -/
theorem definitions_eq_ok_iff {rows : List ParameterRow}
    {params : List ParameterDef} :
    definitions rows = .ok params ↔
      List.Forall₂ ParameterRow.Declares rows params := by
  simp only [definitions, mapM_eq_ok_iff, ParameterRow.toDef_eq_ok_iff]

/-- The first row whose type is unknown is the one reported. -/
theorem failureOf?_definitions (rows : List ParameterRow) :
    failureOf? (definitions rows) =
      (rows.find? fun row => row.TypeUnknown).map fun row =>
        ParameterType.unknown row.typeName := by
  rw [definitions, failureOf?_mapM]
  induction rows with
  | nil => rfl
  | cons row rest ih =>
      rw [List.findSome?_cons, List.find?_cons, ih,
        ParameterRow.failureOf?_toDef]
      by_cases h : row.TypeUnknown
      · simp [h]
      · simp [h]

end Database

namespace TemplateVersion

/-- The rows of a version, among rows of many. -/
def ownRows (rows : List ParameterRow) (t : TemplateVersion) :
    List ParameterRow :=
  rows.filter fun row => row.templateId = t.id

/-- A version with the declarations of its own rows. -/
def loaded (rows : List ParameterRow) (t : TemplateVersion) :
    Except RegistryError TemplateVersion :=
  (Database.definitions (t.ownRows rows)).map fun parameters =>
    { t with parameters }

/-- Among versions with distinct ids every row of theirs is one version's
own. -/
theorem perm_ownRows {versions : List TemplateVersion}
    (hids : (versions.map TemplateVersion.id).Nodup)
    (rows : List ParameterRow) :
    (versions.flatMap (ownRows rows)).Perm
      (rows.filter fun row =>
        row.templateId ∈ versions.map TemplateVersion.id) := by
  induction versions with
  | nil => simp
  | cons t rest ih =>
      obtain ⟨hnew, hrest⟩ := List.nodup_cons.mp hids
      -- The rows of all are those of the first version and those of the others.
      let listed :=
        rows.filter fun row =>
          row.templateId ∈ (t :: rest).map TemplateVersion.id
      have hfirst :
          listed.filter (fun row => row.templateId = t.id) =
            t.ownRows rows := by
        rw [List.filter_filter]
        exact List.filter_congr fun row _ => by
          by_cases h : row.templateId = t.id <;> simp [h]
      have hothers :
          listed.filter (fun row => !decide (row.templateId = t.id)) =
          rows.filter fun row =>
            row.templateId ∈ rest.map TemplateVersion.id := by
        rw [List.filter_filter]
        refine List.filter_congr fun row _ => ?_
        by_cases h : row.templateId = t.id
        · simpa [h] using hnew
        · simp [h]
      have hsplit :=
        List.filter_append_perm (fun row => row.templateId = t.id) listed
      rw [hfirst, hothers] at hsplit
      exact ((ih hrest).append_left _).trans hsplit

end TemplateVersion

namespace Database

/-- Groups are read as the versions are walked.  Using up the group of one
version leaves the others theirs. -/
theorem attachGroups_eq_mapM {versions : List TemplateVersion}
    {rows : List ParameterRow} (hids : (versions.map TemplateVersion.id).Nodup)
    {groups : RowGroups}
    (hgroups : ∀ t ∈ versions, groups.rowsOf t.id = t.ownRows rows) :
    attachGroups groups versions =
      versions.mapM (TemplateVersion.loaded rows) := by
  -- The groups get fewer, but not those of the versions to come.
  induction versions generalizing groups with
  | nil => rfl
  | cons t rest ih =>
      obtain ⟨hnew, hrest⟩ := List.nodup_cons.mp hids
      have hothers :
          ∀ u ∈ rest, (groups.erase t.id).rowsOf u.id = u.ownRows rows := by
        intro u hu
        have hne : u.id ≠ t.id := fun h => hnew (h ▸ List.mem_map_of_mem hu)
        rw [RowGroups.rowsOf_erase_ne hne]
        exact hgroups u (List.mem_cons_of_mem _ hu)
      rw [attachGroups, List.mapM_cons, ih hrest hothers,
        TemplateVersion.loaded, hgroups t List.mem_cons_self]
      cases definitions (t.ownRows rows) <;> rfl

/-- **Each version gets its own declarations.** -/
theorem attachParameters_eq_mapM {versions : List TemplateVersion}
    (hids : (versions.map TemplateVersion.id).Nodup)
    (rows : List ParameterRow) :
    attachParameters rows versions =
      versions.mapM (TemplateVersion.loaded rows) := by
  exact attachGroups_eq_mapM hids fun t _ => RowGroups.rowsOf_ofRows t.id rows

end Database

end TemplateRegistry
