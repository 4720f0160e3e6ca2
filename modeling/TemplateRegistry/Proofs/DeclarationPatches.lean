import TemplateRegistry.Proofs.ReportedChanges
/-!
# Changes as patches

What a comparison says about declarations and tags is complete: put to the older
side, it gives the newer one.  Declarations are compared by name, and every name
of either side is in exactly one of the four classes, each of which ascends.
Taking the removed declarations out of the older ones by name, replacing the
modified ones and adding the added ones gives the newer ones by name, up to the
sign of a zero in a default that counts as unchanged.

Whether a declaration is modified is decided by one comparison and which of its
fields changed by another; the two agree.

* `Table.eraseAll`, `Table.insertAll` — tables after removing and storing many
  entries;
* `mem_added`, `mem_removed`, `mem_modified`, `mem_unchanged` — the four
  classes, out of the declarations by name;
* `mem_changedFields` — the fields that are named;
* `ParameterDiff.patch`, `patched_diffParameters` — the patch and what it gives;
* `changes_are_patches` — all of this of declarations, and of tags as sets.
-/

namespace TemplateRegistry

namespace Table

/-! ### Many entries at once -/

variable {α : Type} {key : String} {value : α}

/-- A table without the entries of some keys. -/
def eraseAll (keys : List String) (table : Table α) : Table α :=
  keys.foldl (fun table key => erase key table) table

/-- A table with entries stored one after another. -/
def insertAll (entries : List (String × α)) (table : Table α) : Table α :=
  entries.foldl (fun table entry => insert entry.1 entry.2 table) table

/-- A key that is not taken out keeps its value. -/
theorem get?_eraseAll_of_not_mem {keys : List String} (table : Table α)
    (h : key ∉ keys) :
    get? key (eraseAll keys table) = get? key table := by
  induction keys generalizing table with
  | nil => rfl
  | cons first rest ih =>
      rw [List.mem_cons, not_or] at h
      obtain ⟨hne, hrest⟩ := h
      exact (ih (erase first table) hrest).trans (get?_erase_ne table hne)

/-- A key that is taken out has no value. -/
theorem get?_eraseAll_of_mem {keys : List String} (table : Table α)
    (h : key ∈ keys) :
    get? key (eraseAll keys table) = none := by
  induction keys generalizing table with
  | nil => cases h
  | cons first rest ih =>
      by_cases hrest : key ∈ rest
      · exact ih (erase first table) hrest
      · obtain rfl := (List.mem_cons.mp h).resolve_right hrest
        exact (get?_eraseAll_of_not_mem _ hrest).trans
          (get?_erase_self key table)

/-- A key that is not put in keeps its value. -/
theorem get?_insertAll_of_not_mem {entries : List (String × α)}
    (table : Table α) (h : key ∉ entries.map Prod.fst) :
    get? key (insertAll entries table) = get? key table := by
  induction entries generalizing table with
  | nil => rfl
  | cons first rest ih =>
      rw [List.map_cons, List.mem_cons, not_or] at h
      obtain ⟨hne, hrest⟩ := h
      exact (ih (insert first.1 first.2 table) hrest).trans
        (get?_insert_ne first.2 table hne)

/-- A key that is put in has the value it was put in with. -/
theorem get?_insertAll_of_mem {entries : List (String × α)} (table : Table α)
    (hnodup : (entries.map Prod.fst).Nodup) (h : (key, value) ∈ entries) :
    get? key (insertAll entries table) = some value := by
  induction entries generalizing table with
  | nil => cases h
  | cons first rest ih =>
      obtain ⟨hfirst, hrest⟩ := List.nodup_cons.mp hnodup
      rcases List.mem_cons.mp h with rfl | hmem
      · exact (get?_insertAll_of_not_mem _ hfirst).trans
          (get?_insert_self key value table)
      · exact ih (insert first.1 first.2 table) hrest hmem

/-- The table of a list ascends. -/
theorem pairwise_keys_ofList (entries : List (String × α)) :
    (keys (ofList entries)).Pairwise (· < ·) := by
  rw [← List.reverse_reverse entries]
  induction entries.reverse with
  | nil => exact List.Pairwise.nil
  | cons entry rest ih =>
      rw [List.reverse_cons, ofList_append_singleton]
      exact pairwise_keys_insert ih entry.1 entry.2

/-- What an ascending table holds under a key is its one entry there. -/
theorem mem_iff_get? {table : Table α} (h : (keys table).Pairwise (· < ·)) :
    (key, value) ∈ table ↔ get? key table = some value :=
  ⟨get?_of_mem h, mem_of_get?⟩

end Table

namespace Diff

/-! ### The classes -/

section Classes

variable {params old new : List ParameterDef} {name : String}
  {param : ParameterDef} {change : ParameterChange}

/-- Declarations by name are in the order of their names. -/
theorem ascending_declarationsByName (params : List ParameterDef) :
    (declarationsByName params).keys.Pairwise (· < ·) :=
  Table.pairwise_keys_ofList _

/-- A declaration stands under a name if it is found there. -/
theorem mem_declarationsByName_iff_get? :
    (name, param) ∈ declarationsByName params ↔
      (declarationsByName params).get? name = some param :=
  Table.mem_iff_get? (ascending_declarationsByName params)

/-- What is stored under a name is declared under it. -/
theorem declared_of_get?
    (h : (declarationsByName params).get? name = some param) :
    param ∈ params ∧ param.name = name := by
  have hlisted := Table.mem_of_mem_ofList (Table.mem_of_get? h)
  obtain ⟨other, hother, heq⟩ := List.mem_map.mp hlisted
  cases heq
  exact ⟨hother, rfl⟩

/-- A declaration is found under its own name. -/
theorem name_of_get? (h : (declarationsByName params).get? name = some param) :
    param.name = name :=
  (declared_of_get? h).2

/-- The declarations of one side alone are those whose name the other side
lacks. -/
theorem mem_declarationsBeyond {other : Table ParameterDef} :
    param ∈ declarationsBeyond (declarationsByName params) other ↔
      (declarationsByName params).get? param.name = some param ∧
      other.get? param.name = none := by
  simp only [declarationsBeyond, List.mem_map, List.mem_filter, Prod.exists,
    mem_declarationsByName_iff_get?, Table.contains]
  constructor
  · rintro ⟨name, found, ⟨hfound, hother⟩, rfl⟩
    rw [name_of_get? hfound]
    exact ⟨hfound, by simpa using hother⟩
  · rintro ⟨hfound, hother⟩
    exact ⟨param.name, param, ⟨hfound, by simp [hother]⟩, rfl⟩

/-- What was added is found by its name on the newer side alone. -/
theorem mem_added : param ∈ (diffParameters old new).added ↔
    (declarationsByName new).get? param.name = some param ∧
      (declarationsByName old).get? param.name = none :=
  mem_declarationsBeyond

/-- What was removed is found by its name on the older side alone. -/
theorem mem_removed : param ∈ (diffParameters old new).removed ↔
    (declarationsByName old).get? param.name = some param ∧
      (declarationsByName new).get? param.name = none :=
  mem_declarationsBeyond

/-- What was changed is found by its name on both sides, and not the same. -/
theorem mem_modified : change ∈ (diffParameters old new).modified ↔
    (declarationsByName old).get? change.name = some change.before ∧
      (declarationsByName new).get? change.name = some change.after ∧
        change.before.same change.after = false ∧
          change.changedFields = changedFields change.before change.after := by
  simp only [diffParameters, List.mem_filterMap, Prod.exists,
    mem_declarationsByName_iff_get?]
  constructor
  · rintro ⟨name, after, hafter, hchange⟩
    cases hbefore : (declarationsByName old).get? name with
    | none => simp [hbefore] at hchange
    | some before =>
        cases hsame : before.same after with
        | true => simp [hbefore, hsame] at hchange
        | false =>
            simp only [hbefore, hsame] at hchange
            obtain rfl := Option.some.inj hchange
            exact ⟨hbefore, hafter, hsame, rfl⟩
  · obtain ⟨name, before, after, fields⟩ := change
    rintro ⟨hbefore, hafter, hsame, hfields⟩
    refine ⟨name, after, hafter, ?_⟩
    simp only at hbefore hsame hfields
    simp [hbefore, hsame, hfields]

/-- What was kept is found by its name on both sides, and the same. -/
theorem mem_unchanged : name ∈ (diffParameters old new).unchanged ↔
    ∃ before after, (declarationsByName old).get? name = some before ∧
      (declarationsByName new).get? name = some after ∧ before.same after := by
  simp only [diffParameters, List.mem_filterMap, Prod.exists,
    mem_declarationsByName_iff_get?]
  constructor
  · rintro ⟨other, after, hafter, hname⟩
    cases hbefore : (declarationsByName old).get? other with
    | none => simp [hbefore] at hname
    | some before =>
        cases hsame : before.same after with
        | false => simp [hbefore, hsame] at hname
        | true =>
            simp only [hbefore, hsame] at hname
            obtain rfl := Option.some.inj hname
            exact ⟨before, after, hbefore, hafter, hsame⟩
  · rintro ⟨before, after, hbefore, hafter, hsame⟩
    exact ⟨name, after, hafter, by simp [hbefore, hsame]⟩

/-! ### Their order -/

/-- Declarations of one side alone are in the order of their names. -/
theorem ascending_declarationsBeyond (params : List ParameterDef)
    (other : Table ParameterDef) :
    ((declarationsBeyond (declarationsByName params) other).map
        ParameterDef.name).Pairwise
      (· < ·) := by
  have hkeys :
      (declarationsBeyond (declarationsByName params) other).map
        ParameterDef.name =
      Table.keys ((declarationsByName params).filter fun entry =>
        !other.contains entry.1) := by
    rw [declarationsBeyond, Table.keys, List.map_map]
    refine List.map_congr_left fun entry hentry => ?_
    exact name_of_get?
      (mem_declarationsByName_iff_get?.mp (List.mem_filter.mp hentry).1)
  rw [hkeys]
  exact Table.pairwise_keys_of_sublist
    (ascending_declarationsByName params) List.filter_sublist

/-- Names taken from an ascending table where they stand ascend. -/
theorem ascending_filterMap {α β : Type} {table : Table α}
    (h : table.keys.Pairwise (· < ·)) {take : String × α → Option β}
    {nameOf : β → String}
    (hname : ∀ entry taken, take entry = some taken → nameOf taken = entry.1) :
    ((table.filterMap take).map nameOf).Pairwise (· < ·) := by
  rw [List.pairwise_map]
  refine (List.pairwise_map.mp h).filterMap take
    fun entry other hlt a ha b hb => ?_
  rw [hname entry a ha, hname other b hb]
  exact hlt

/-- Changed declarations are in the order of their names. -/
theorem ascending_modified (old new : List ParameterDef) :
    ((diffParameters old new).modified.map ParameterChange.name).Pairwise
      (· < ·) := by
  refine ascending_filterMap (ascending_declarationsByName new)
    fun entry taken htaken => ?_
  split at htaken
  · split at htaken
    · cases htaken
    · cases htaken
      rfl
  · cases htaken

/-- Kept names are in order. -/
theorem ascending_unchanged (old new : List ParameterDef) :
    (diffParameters old new).unchanged.Pairwise (· < ·) := by
  have hmap : ((diffParameters old new).unchanged.map id).Pairwise (· < ·) := by
    refine ascending_filterMap (ascending_declarationsByName new)
      fun entry taken htaken => ?_
    split at htaken
    · split at htaken
      · cases htaken
        rfl
      · cases htaken
    · cases htaken
  rwa [List.map_id] at hmap

end Classes

/-! ### Which fields changed -/

section Fields

variable {before after : ParameterDef}

/-- The fields in which two declarations differ beside their names, under the
names they have in reports. -/
inductive FieldDiffers (before after : ParameterDef) : String → Prop
  | description (h : before.description ≠ after.description) :
      FieldDiffers before after "description"
  | required (h : before.required ≠ after.required) :
      FieldDiffers before after "required"
  | type (h : before.type ≠ after.type) : FieldDiffers before after "type"
  | defaultValue (h : (before.defaultValue == after.defaultValue) = false) :
      FieldDiffers before after "default_value"

/-- The fields named are those that differ. -/
theorem mem_changedFields {field : String} :
    field ∈ changedFields before after ↔ FieldDiffers before after field := by
  simp only [changedFields, List.mem_append, List.mem_ite_nil_left,
    List.mem_singleton, Bool.not_eq_true]
  constructor
  · rintro (((⟨h, rfl⟩ | ⟨h, rfl⟩) | ⟨h, rfl⟩) | ⟨h, rfl⟩)
    · exact .description h
    · exact .required h
    · exact .type h
    · exact .defaultValue h
  · rintro (h | h | h | h) <;> simp [h]

/-- No field is named twice. -/
theorem nodup_changedFields (before after : ParameterDef) :
    (changedFields before after).Nodup := by
  have hsub : (changedFields before after).Sublist
      (["description"] ++ ["required"] ++ ["type"] ++ ["default_value"]) := by
    unfold changedFields
    refine .append (.append (.append ?_ ?_) ?_) ?_
    all_goals
      split
      · exact List.nil_sublist _
      · exact List.Sublist.refl _
  exact hsub.nodup (by decide)

/-- Declarations of one name are equal exactly if no field differs. -/
theorem changedFields_eq_nil_iff (hname : before.name = after.name) :
    changedFields before after = [] ↔ before.same after := by
  simp [changedFields, ParameterDef.same, hname, and_assoc]

end Fields

/-! ### Patches -/

section Patches

variable {old new : List ParameterDef} {name : String}

/-- Every name in the four classes. -/
def ParameterDiff.names (diff : ParameterDiff) : List String :=
  diff.added.map ParameterDef.name ++ diff.removed.map ParameterDef.name ++
    diff.modified.map ParameterChange.name ++ diff.unchanged

/-- Declarations by name after a comparison is put to them: without the removed
ones, with the modified ones replaced, and with the added ones. -/
def ParameterDiff.patch (diff : ParameterDiff) (table : Table ParameterDef) :
    Table ParameterDef :=
  Table.insertAll (diff.added.map fun param => (param.name, param))
    (Table.insertAll (diff.modified.map fun change =>
        (change.name, change.after))
      (Table.eraseAll (diff.removed.map ParameterDef.name) table))

/-- Ascending names are distinct. -/
theorem nodup_of_ascending {names : List String} (h : names.Pairwise (· < ·)) :
    names.Nodup :=
  h.imp fun hlt => String.ne_of_lt hlt

/-- A name is in a class according to what the two sides declare under it. -/
theorem mem_names_added :
    name ∈ (diffParameters old new).added.map ParameterDef.name ↔
    ((declarationsByName new).get? name).isSome ∧
    (declarationsByName old).get? name = none := by
  simp only [List.mem_map, mem_added, Option.isSome_iff_exists]
  constructor
  · rintro ⟨param, ⟨hnew, hold⟩, rfl⟩
    exact ⟨⟨param, hnew⟩, hold⟩
  · rintro ⟨⟨param, hnew⟩, hold⟩
    obtain rfl := name_of_get? hnew
    exact ⟨param, ⟨hnew, hold⟩, rfl⟩

/-- The names that were removed. -/
theorem mem_names_removed :
    name ∈ (diffParameters old new).removed.map ParameterDef.name ↔
    ((declarationsByName old).get? name).isSome ∧
    (declarationsByName new).get? name = none :=
  mem_names_added

/-- The names whose declarations were changed. -/
theorem mem_names_modified :
    name ∈ (diffParameters old new).modified.map ParameterChange.name ↔
    ∃ before after, (declarationsByName old).get? name = some before ∧
      (declarationsByName new).get? name = some after ∧
      before.same after = false := by
  simp only [List.mem_map, mem_modified]
  constructor
  · rintro ⟨change, ⟨hold, hnew, hsame, -⟩, rfl⟩
    exact ⟨change.before, change.after, hold, hnew, hsame⟩
  · rintro ⟨before, after, hold, hnew, hsame⟩
    exact ⟨⟨name, before, after, changedFields before after⟩,
      ⟨hold, hnew, hsame, rfl⟩, rfl⟩

/-- Every name is in one class at most. -/
theorem nodup_names (old new : List ParameterDef) :
    (diffParameters old new).names.Nodup := by
  have hadded := nodup_of_ascending
    (ascending_declarationsBeyond new (declarationsByName old))
  have hremoved := nodup_of_ascending
    (ascending_declarationsBeyond old (declarationsByName new))
  have hmodified := nodup_of_ascending (ascending_modified old new)
  have hunchanged := nodup_of_ascending (ascending_unchanged old new)
  simp only [ParameterDiff.names, List.nodup_append', List.disjoint_append_left]
  refine ⟨⟨⟨hadded, hremoved, ?_⟩, hmodified, ?_, ?_⟩, hunchanged, ⟨?_, ?_⟩, ?_⟩
  all_goals
    intro name h h'
    simp only [mem_names_added, mem_names_removed, mem_names_modified,
      mem_unchanged] at h h'
    grind

/-- Every name of either side is in a class. -/
theorem mem_names : name ∈ (diffParameters old new).names ↔
    ((declarationsByName old).get? name).isSome ∨
    ((declarationsByName new).get? name).isSome := by
  simp only [ParameterDiff.names, List.mem_append, mem_names_added,
    mem_names_removed, mem_names_modified, mem_unchanged]
  cases hold : (declarationsByName old).get? name with
  | none => simp
  | some before =>
      cases hnew : (declarationsByName new).get? name with
      | none => simp
      | some after => cases hsame : before.same after <;> simp [hsame]

/-- A name of no declaration that is put in has what is left under it. -/
theorem get?_patch_of_not_mem {diff : ParameterDiff}
    (table : Table ParameterDef)
    (hadded : name ∉ diff.added.map ParameterDef.name)
    (hmodified : name ∉ diff.modified.map ParameterChange.name) :
    (diff.patch table).get? name =
      (table.eraseAll (diff.removed.map ParameterDef.name)).get? name := by
  rw [ParameterDiff.patch,
    Table.get?_insertAll_of_not_mem _ (by simpa using hadded),
    Table.get?_insertAll_of_not_mem _ (by simpa using hmodified)]

/-- After the patch an added declaration is found. -/
theorem get?_patch_of_mem_added {param : ParameterDef}
    (table : Table ParameterDef) (h : param ∈ (diffParameters old new).added) :
    ((diffParameters old new).patch table).get? param.name = some param := by
  have hascending := ascending_declarationsBeyond new (declarationsByName old)
  refine Table.get?_insertAll_of_mem _ ?_ (List.mem_map.mpr ⟨param, h, rfl⟩)
  rw [List.map_map]
  exact nodup_of_ascending hascending

/-- After the patch a changed declaration is found as it is now. -/
theorem get?_patch_of_mem_modified {change : ParameterChange}
    (table : Table ParameterDef)
    (h : change ∈ (diffParameters old new).modified) :
    ((diffParameters old new).patch table).get? change.name =
      some change.after := by
  have hadded :
      change.name ∉ (diffParameters old new).added.map ParameterDef.name := by
    rw [mem_names_added, (mem_modified.mp h).1]
    simp
  rw [ParameterDiff.patch,
    Table.get?_insertAll_of_not_mem _ (by simpa using hadded)]
  refine Table.get?_insertAll_of_mem _ ?_ (List.mem_map.mpr ⟨change, h, rfl⟩)
  rw [List.map_map]
  exact nodup_of_ascending (ascending_modified old new)

/-- **The patch.**  Put to the older declarations by name, a comparison gives
the newer ones. -/
theorem patched_diffParameters (hfinite : ∀ param ∈ new, param.HasFiniteDefault)
    (name : String) :
    Option.Rel (fun param other => param.same other)
      (((diffParameters old new).patch (declarationsByName old)).get? name)
      ((declarationsByName new).get? name) := by
  cases hnew : (declarationsByName new).get? name with
  | none =>
      have hadded :
          name ∉ (diffParameters old new).added.map ParameterDef.name := by
        simp [mem_names_added, hnew]
      have hmodified :
          name ∉ (diffParameters old new).modified.map
            ParameterChange.name := by
        simp [mem_names_modified, hnew]
      have hgone : ((declarationsByName old).eraseAll
          ((diffParameters old new).removed.map ParameterDef.name)).get? name =
            none := by
        by_cases hremoved :
          name ∈ (diffParameters old new).removed.map ParameterDef.name
        · exact Table.get?_eraseAll_of_mem _ hremoved
        · rw [Table.get?_eraseAll_of_not_mem _ hremoved]
          simpa [mem_names_removed, hnew] using hremoved
      rw [get?_patch_of_not_mem _ hadded hmodified, hgone]
      exact .none
  | some after =>
      obtain ⟨hdeclared, rfl⟩ := declared_of_get? hnew
      have hself := ParameterDef.same_self (hfinite after hdeclared)
      cases hold : (declarationsByName old).get? after.name with
      | none =>
          rw [get?_patch_of_mem_added _ (mem_added.mpr ⟨hnew, hold⟩)]
          exact .some hself
      | some before =>
          cases hsame : before.same after with
          | false =>
              have hmodified :
                  ⟨after.name, before, after, changedFields before after⟩ ∈
                  (diffParameters old new).modified :=
                mem_modified.mpr ⟨hold, hnew, hsame, rfl⟩
              rw [get?_patch_of_mem_modified _ hmodified]
              exact .some hself
          | true =>
              -- the older declaration stays, whatever sign its zeros have
              have hadded :
                  after.name ∉
                    (diffParameters old new).added.map ParameterDef.name := by
                simp [mem_names_added, hold]
              have hmodified :
                  after.name ∉ (diffParameters old new).modified.map
                    ParameterChange.name := by
                simp [mem_names_modified, hold, hnew, hsame]
              have hremoved :
                  after.name ∉
                    (diffParameters old new).removed.map ParameterDef.name := by
                simp [mem_names_removed, hnew]
              rw [get?_patch_of_not_mem _ hadded hmodified,
                Table.get?_eraseAll_of_not_mem _ hremoved, hold]
              exact .some hsame

/-- What a comparison of two lists of declarations is to say.  Each class
ascends, and of all names each is in one.  The classes are what they are called,
the patch gives the newer side, and the fields named with a modified declaration
are those that differ, at least one. -/
structure ParameterDiff.Patches (diff : ParameterDiff)
    (old new : List ParameterDef) : Prop where
  names_nodup : diff.names.Nodup
  mem_names : ∀ name, name ∈ diff.names ↔
    ∃ param ∈ old ++ new, param.name = name
  added_ascending : (diff.added.map ParameterDef.name).Pairwise (· < ·)
  removed_ascending : (diff.removed.map ParameterDef.name).Pairwise (· < ·)
  modified_ascending : (diff.modified.map ParameterChange.name).Pairwise (· < ·)
  unchanged_ascending : diff.unchanged.Pairwise (· < ·)
  mem_added : ∀ param, param ∈ diff.added ↔
    param ∈ new ∧ ∀ other ∈ old, other.name ≠ param.name
  mem_removed : ∀ param, param ∈ diff.removed ↔
    param ∈ old ∧ ∀ other ∈ new, other.name ≠ param.name
  mem_modified : ∀ change, change ∈ diff.modified ↔
    (change.before ∈ old ∧ change.before.name = change.name) ∧
      (change.after ∈ new ∧ change.after.name = change.name) ∧
        change.before.same change.after = false ∧
          change.changedFields = changedFields change.before change.after
  mem_unchanged : ∀ name, name ∈ diff.unchanged ↔ ∃ before ∈ old, ∃ after ∈ new,
    before.name = name ∧ after.name = name ∧ before.same after
  patched : ∀ name, Option.Rel (fun param other => param.same other)
    ((diff.patch (declarationsByName old)).get? name)
    ((declarationsByName new).get? name)
  fields_ne_nil : ∀ change ∈ diff.modified, change.changedFields ≠ []
  fields_nodup : ∀ change ∈ diff.modified, change.changedFields.Nodup
  mem_fields : ∀ change ∈ diff.modified, ∀ field, field ∈ change.changedFields ↔
    FieldDiffers change.before change.after field

/-- A name that no declaration has is not found. -/
theorem get?_declarationsByName_eq_none (h : NamesUnique old) :
    (declarationsByName old).get? name = none ↔
      ∀ param ∈ old, param.name ≠ name := by
  rw [Option.eq_none_iff_forall_ne_some]
  simp only [ne_eq, get?_declarationsByName h, not_and]

/-- **Declarations.**  The comparison of two lists of declarations says all that
changed. -/
theorem patches_diffParameters (hold : NamesUnique old) (hnew : NamesUnique new)
    (hfinite : ∀ param ∈ new, param.HasFiniteDefault) :
    (diffParameters old new).Patches old new where
  names_nodup := nodup_names old new
  mem_names name := by
    rw [mem_names, Option.isSome_iff_exists, Option.isSome_iff_exists]
    simp only [get?_declarationsByName hold, get?_declarationsByName hnew,
      List.mem_append, or_and_right, exists_or]
  added_ascending := ascending_declarationsBeyond new (declarationsByName old)
  removed_ascending := ascending_declarationsBeyond old (declarationsByName new)
  modified_ascending := ascending_modified old new
  unchanged_ascending := ascending_unchanged old new
  mem_added param := by
    rw [mem_added, get?_declarationsByName hnew,
      get?_declarationsByName_eq_none hold]
    simp
  mem_removed param := by
    rw [mem_removed, get?_declarationsByName hold,
      get?_declarationsByName_eq_none hnew]
    simp
  mem_modified change := by
    rw [mem_modified, get?_declarationsByName hold,
      get?_declarationsByName hnew]
  mem_unchanged name := by
    rw [mem_unchanged]
    simp only [get?_declarationsByName hold, get?_declarationsByName hnew]
    grind
  patched := patched_diffParameters hfinite
  fields_ne_nil change hchange := by
    obtain ⟨hbefore, hafter, hsame, hfields⟩ := mem_modified.mp hchange
    have hname := (name_of_get? hbefore).trans (name_of_get? hafter).symm
    rw [hfields, Ne, changedFields_eq_nil_iff hname, hsame]
    exact Bool.false_ne_true
  fields_nodup change hchange := by
    rw [(mem_modified.mp hchange).2.2.2]
    exact nodup_changedFields _ _
  mem_fields change hchange field := by
    rw [(mem_modified.mp hchange).2.2.2]
    exact mem_changedFields

end Patches

/-! ### Tags -/

section Tags

/-- What a comparison of two lists of tags is to say: three classes that ascend
and have no tag in common, which are the new tags, the tags that are gone and
those that both lists have. -/
structure TagDiff.Splits (diff : TagDiff) (old new : List String) : Prop where
  added_ascending : diff.added.Pairwise (· < ·)
  removed_ascending : diff.removed.Pairwise (· < ·)
  unchanged_ascending : diff.unchanged.Pairwise (· < ·)
  nodup : (diff.added ++ diff.removed ++ diff.unchanged).Nodup
  mem_added : ∀ tag, tag ∈ diff.added ↔ tag ∈ new ∧ tag ∉ old
  mem_removed : ∀ tag, tag ∈ diff.removed ↔ tag ∈ old ∧ tag ∉ new
  mem_unchanged : ∀ tag, tag ∈ diff.unchanged ↔ tag ∈ old ∧ tag ∈ new

/-- **Tags.**  The comparison of two lists of tags says all that changed. -/
theorem splits_diffTags (old new : List String) :
    (diffTags old new).Splits old new := by
  have hadded : ∀ tag, tag ∈ (diffTags old new).added ↔ tag ∈ new ∧ tag ∉ old :=
    fun tag => by
      simp [diffTags, Ascending.mem_ofList]
  have hremoved : ∀ tag, tag ∈ (diffTags old new).removed ↔
      tag ∈ old ∧ tag ∉ new := fun tag => by
    simp [diffTags, Ascending.mem_ofList]
  have hunchanged : ∀ tag, tag ∈ (diffTags old new).unchanged ↔
      tag ∈ old ∧ tag ∈ new :=
    fun tag => by simp [diffTags, Ascending.mem_ofList]
  have haddedAscends : (diffTags old new).added.Pairwise (· < ·) :=
    (Ascending.pairwise_ofList new).filter _
  have hremovedAscends : (diffTags old new).removed.Pairwise (· < ·) :=
    (Ascending.pairwise_ofList old).filter _
  have hunchangedAscends : (diffTags old new).unchanged.Pairwise (· < ·) :=
    (Ascending.pairwise_ofList old).filter _
  refine ⟨haddedAscends, hremovedAscends, hunchangedAscends, ?_, hadded,
    hremoved, hunchanged⟩
  simp only [List.nodup_append', List.disjoint_append_left]
  refine ⟨⟨nodup_of_ascending haddedAscends,
      nodup_of_ascending hremovedAscends, ?_⟩,
    nodup_of_ascending hunchangedAscends, ?_, ?_⟩
  · intro tag h h'
    exact ((hadded tag).mp h).2 ((hremoved tag).mp h').1
  · intro tag h h'
    exact ((hadded tag).mp h).2 ((hunchanged tag).mp h').1
  · intro tag h h'
    exact ((hremoved tag).mp h).2 ((hunchanged tag).mp h').2

end Tags

/-- **Changes are patches.**  The comparison of two lists of declarations with
names of their own and finite defaults says all that changed, and so does that
of any two lists of tags. -/
theorem changes_are_patches (old new : List ParameterDef)
    (hold : NamesUnique old) (hnew : NamesUnique new)
    (hfinite : ∀ param ∈ new, param.HasFiniteDefault) :
    (diffParameters old new).Patches old new ∧
      ∀ oldTags newTags, (diffTags oldTags newTags).Splits oldTags newTags :=
  ⟨patches_diffParameters hold hnew hfinite, splits_diffTags⟩

/-- The declarations of a version and of the one after it.  One is taken out,
one put in, one is given another type and default, and one only has its zero
turned. -/
def parcelBefore : List ParameterDef :=
  [⟨"weight", "in kilograms", false, .array,
      some (.array [.number (.zero false)])⟩,
    ⟨"note", "for the driver", false, .string, none⟩,
    ⟨"floor", "where to", true, .number, none⟩]

def parcelAfter : List ParameterDef :=
  [⟨"floor", "where to", true, .string, some (.string "ground")⟩,
    ⟨"weight", "in kilograms", false, .array,
      some (.array [.number (.zero true)])⟩,
    ⟨"insured", "or not", false, .boolean, some (.boolean true)⟩]

/-- The changes of the parcel: the turned zero in a default is none of them. -/
theorem changes_of_parcel_are_patches :
    (NamesUnique parcelBefore ∧ NamesUnique parcelAfter ∧
      ∀ param ∈ parcelAfter, param.HasFiniteDefault) ∧
    (diffParameters parcelBefore parcelAfter).Patches parcelBefore parcelAfter ∧
    ((diffParameters parcelBefore parcelAfter).unchanged = ["weight"] ∧
      (diffParameters parcelBefore parcelAfter).modified.map
        ParameterChange.changedFields =
        [["type", "default_value"]]) ∧
    (diffTags ["b", "a"] ["c", "b", "c"]).Splits ["b", "a"]
      ["c", "b", "c"] := by
  have hbefore : NamesUnique parcelBefore := by unfold NamesUnique; decide
  have hafter : NamesUnique parcelAfter := by unfold NamesUnique; decide
  have hfinite : ∀ param ∈ parcelAfter, param.HasFiniteDefault := by
    intro param hparam value hvalue
    simp only [parcelAfter, List.mem_cons, List.not_mem_nil, or_false] at hparam
    rcases hparam with rfl | rfl | rfl
    all_goals
      cases hvalue
      decide
  obtain ⟨hpatches, hsplits⟩ :=
    changes_are_patches parcelBefore parcelAfter hbefore hafter hfinite
  exact ⟨⟨hbefore, hafter, hfinite⟩, hpatches, by decide +kernel, hsplits _ _⟩

end Diff

end TemplateRegistry
