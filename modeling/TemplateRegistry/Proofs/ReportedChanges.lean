import Mathlib.Data.List.Nodup
import TemplateRegistry.Diff.Comparison
import TemplateRegistry.Proofs.PositionalEntries
import TemplateRegistry.Proofs.Tables
import TemplateRegistry.Proofs.TextLines
import TemplateRegistry.Proofs.ValueEquality
/-!
# What a comparison reports as changed

Two versions differ in content, in category, in tags as a set, or in a
declaration under a name.  A comparison is said to have changes when its total
is positive or the category changed, and the total counts the lines, the
declarations and the tags.  Lines are compared without their breaks, so contents
that differ in the breaks alone leave nothing to count, although the comparison
states that the content changed.

* `diffTags_isEmpty_iff` — tags are compared as sets;
* `diffParameters_isEmpty_iff` — declarations are compared by name;
* `hasChanges_iff_linesDiffer` — the changes of every pair of versions;
* `changes_reported_iff` — the same, with when nothing is hidden and what a
  version compared with itself reports;
* `line_break_not_reported` — a change of content that is not.
-/

namespace TemplateRegistry.Diff

/-! ### Tags -/

/-- Nothing is reported of tags just if both sides have the same ones. -/
theorem diffTags_isEmpty_iff (old new : List String) :
    (diffTags old new).isEmpty ↔ ∀ tag, tag ∈ old ↔ tag ∈ new := by
  simp only [TagDiff.isEmpty, diffTags, Bool.and_eq_true, List.isEmpty_iff,
    List.filter_eq_nil_iff, decide_eq_true_eq, Decidable.not_not,
    Ascending.mem_ofList]
  exact ⟨fun h tag => ⟨h.2 tag, h.1 tag⟩, fun h =>
    ⟨fun tag => (h tag).mpr, fun tag => (h tag).mp⟩⟩

/-! ### Declarations -/

section Declarations

variable {params old new : List ParameterDef}

/-- Declarations with a name of their own each. -/
def NamesUnique (params : List ParameterDef) : Prop :=
  (params.map ParameterDef.name).Nodup

/-- Declarations with names of their own are told by their names. -/
theorem eq_of_name_eq (h : NamesUnique params) {param other : ParameterDef}
    (hparam : param ∈ params) (hother : other ∈ params)
    (hname : param.name = other.name) :
    param = other :=
  List.inj_on_of_nodup_map h hparam hother hname

/-- Two lists that declare the same under every name. -/
def DeclareAlike (old new : List ParameterDef) : Prop :=
  (∀ param ∈ old, ∃ other ∈ new, param.same other) ∧
    ∀ other ∈ new, ∃ param ∈ old, param.same other

/-- Of declarations with one name the last one counts. -/
theorem get?_declarationsByName_eq_getLast? (params : List ParameterDef)
    (name : String) :
    (declarationsByName params).get? name =
      (params.filter fun param => param.name = name).getLast? := by
  rw [declarationsByName, Table.get?_ofList, List.filter_map, List.getLast?_map,
    Option.map_map]
  exact Option.map_id'

/-- A declaration is found under its name, and nothing else is. -/
theorem get?_declarationsByName (h : NamesUnique params) {name : String}
    {param : ParameterDef} :
    (declarationsByName params).get? name = some param ↔
      param ∈ params ∧ param.name = name := by
  rw [get?_declarationsByName_eq_getLast?]
  constructor
  · intro hlast
    simpa using List.mem_of_getLast? hlast
  · rintro ⟨hparam, hname⟩
    cases hlast : (params.filter fun param => param.name = name).getLast? with
    | none =>
        have hempty := List.getLast?_eq_none_iff.mp hlast
        have hmem : param ∈ params.filter fun param => param.name = name := by
          simp [hparam, hname]
        simp [hempty] at hmem
    | some other =>
        have hother : other ∈ params ∧ other.name = name := by
          simpa using List.mem_of_getLast? hlast
        rw [eq_of_name_eq h hother.1 hparam (hother.2.trans hname.symm)]

/-- There is a declaration under a name if one has it. -/
theorem contains_declarationsByName (h : NamesUnique params) {name : String} :
    (declarationsByName params).contains name ↔
      ∃ param ∈ params, param.name = name := by
  rw [Table.contains, Option.isSome_iff_exists]
  simp only [get?_declarationsByName h]

/-- The entries of the table are the declarations under their names. -/
theorem mem_declarationsByName (h : NamesUnique params) {name : String}
    {param : ParameterDef} :
    (name, param) ∈ declarationsByName params ↔
      param ∈ params ∧ param.name = name := by
  constructor
  · intro hentry
    have hlisted := Table.mem_of_mem_ofList hentry
    simpa using hlisted
  · intro hentry
    exact Table.mem_of_get? ((get?_declarationsByName h).mpr hentry)

/-- One side declares nothing alone just if the other has all of its names. -/
theorem declarationsBeyond_eq_nil_iff (hold : NamesUnique old)
    (hnew : NamesUnique new) :
    declarationsBeyond (declarationsByName new) (declarationsByName old) = [] ↔
      ∀ other ∈ new, ∃ param ∈ old, param.name = other.name := by
  simp only [declarationsBeyond, List.map_eq_nil_iff, List.filter_eq_nil_iff,
    Bool.not_eq_true', Bool.not_eq_false, contains_declarationsByName hold,
    Prod.forall, mem_declarationsByName hnew]
  constructor
  · intro h other hother
    exact h other.name other ⟨hother, rfl⟩
  · rintro h name other ⟨hother, rfl⟩
    exact h other hother

/-- Nothing is modified exactly if the declarations under one name are equal. -/
theorem modified_eq_nil_iff (hold : NamesUnique old) (hnew : NamesUnique new) :
    (diffParameters old new).modified = [] ↔
      ∀ param ∈ old, ∀ other ∈ new, param.name = other.name →
        param.same other := by
  simp only [diffParameters, List.filterMap_eq_nil_iff, Prod.forall,
    mem_declarationsByName hnew]
  constructor
  · intro h param hparam other hother hname
    have hfound := (get?_declarationsByName hold).mpr ⟨hparam, hname⟩
    simpa [hfound] using h other.name other ⟨hother, rfl⟩
  · rintro h name other ⟨hother, rfl⟩
    cases hfound : (declarationsByName old).get? other.name with
    | none => rfl
    | some param =>
        obtain ⟨hparam, hname⟩ := (get?_declarationsByName hold).mp hfound
        simp [h param hparam other hother hname]

/-- Declarations are compared by name. -/
theorem diffParameters_isEmpty_iff (hold : NamesUnique old)
    (hnew : NamesUnique new) :
    (diffParameters old new).isEmpty ↔ DeclareAlike old new := by
  have hadded : (diffParameters old new).added = [] ↔
      ∀ other ∈ new, ∃ param ∈ old, param.name = other.name :=
    declarationsBeyond_eq_nil_iff hold hnew
  have hremoved : (diffParameters old new).removed = [] ↔
      ∀ param ∈ old, ∃ other ∈ new, other.name = param.name :=
    declarationsBeyond_eq_nil_iff hnew hold
  simp only [ParameterDiff.isEmpty, Bool.and_eq_true, List.isEmpty_iff, hadded,
    hremoved, modified_eq_nil_iff hold hnew]
  constructor
  · rintro ⟨⟨hall, hkept⟩, hsame⟩
    refine ⟨fun param hparam => ?_, fun other hother => ?_⟩
    · obtain ⟨other, hother, hname⟩ := hkept param hparam
      exact ⟨other, hother, hsame param hparam other hother hname.symm⟩
    · obtain ⟨param, hparam, hname⟩ := hall other hother
      exact ⟨param, hparam, hsame param hparam other hother hname⟩
  · rintro ⟨hkept, hall⟩
    refine ⟨⟨fun other hother => ?_, fun param hparam => ?_⟩,
      fun param hparam other hother hname => ?_⟩
    · obtain ⟨param, hparam, hsame⟩ := hall other hother
      exact ⟨param, hparam, ParameterDef.same_name hsame⟩
    · obtain ⟨other, hother, hsame⟩ := hkept param hparam
      exact ⟨other, hother, (ParameterDef.same_name hsame).symm⟩
    · obtain ⟨kept, hmem, hsame⟩ := hkept param hparam
      have hkeptName := (ParameterDef.same_name hsame).symm.trans hname
      rwa [eq_of_name_eq hnew hmem hother hkeptName] at hsame

/-- Finite declarations declare what they declare. -/
theorem declareAlike_self (hfinite : ∀ param ∈ params, param.HasFiniteDefault) :
    DeclareAlike params params :=
  ⟨fun param hparam => ⟨param, hparam,
      ParameterDef.same_self (hfinite param hparam)⟩,
    fun param hparam =>
      ⟨param, hparam, ParameterDef.same_self (hfinite param hparam)⟩⟩

end Declarations

/-! ### Versions -/

section Versions

variable {old new : Snapshot}

/-- A version to compare whose declarations have names of their own, and finite
defaults. -/
structure Snapshot.Sound (version : Snapshot) : Prop where
  names : NamesUnique version.fields.parameters
  finite : ∀ param ∈ version.fields.parameters, param.HasFiniteDefault

/-- Two versions that differ besides in their content: in category, in tags as a
set, or in a declaration under a name. -/
def DifferBesideContent (old new : Snapshot) : Prop :=
  old.fields.category ≠ new.fields.category ∨
    (¬ ∀ tag, tag ∈ old.fields.tags ↔ tag ∈ new.fields.tags) ∨
    ¬ DeclareAlike old.fields.parameters new.fields.parameters

/-- Two versions that differ in anything that makes up a version. -/
def Differ (old new : Snapshot) : Prop :=
  old.fields.content ≠ new.fields.content ∨ DifferBesideContent old new

/-- Two versions whose contents do not have the same lines. -/
def LinesDiffer (old new : Snapshot) : Prop :=
  Text.lines old.fields.content.toList ≠ Text.lines new.fields.content.toList

/-- A comparison that reports no change of any kind. -/
structure Comparison.ReportsNothing (c : Comparison) : Prop where
  hasChanges : c.hasChanges = false
  totalChanges : c.stats.totalChanges = 0
  contentChanged : c.content.changed = false
  lines : ∀ entry ∈ c.content.lines, entry.status = .unchanged
  words : ∀ entry ∈ c.content.words, entry.status = .unchanged
  category : c.category = none
  parameters : c.parameters.isEmpty
  tags : c.tags.isEmpty
  charDelta : c.stats.charDelta = 0

/-- The total is made up of the changes of lines, of declarations and of
tags. -/
theorem totalChanges_eq (templateName : String) (old new : Snapshot) :
    (compare templateName old new).stats.totalChanges =
      changes (compare templateName old new).content.lines +
        ((compare templateName old new).parameters.added.length +
          (compare templateName old new).parameters.removed.length +
          (compare templateName old new).parameters.modified.length) +
        ((compare templateName old new).tags.added.length +
          (compare templateName old new).tags.removed.length) := by
  simp only [compare, changes]
  omega

/-- Nothing is counted just if the lines are the same, and what is declared, and
the tags. -/
theorem totalChanges_eq_zero_iff (templateName : String) (hold : old.Sound)
    (hnew : new.Sound) :
    (compare templateName old new).stats.totalChanges = 0 ↔
      Text.lines old.fields.content.toList =
        Text.lines new.fields.content.toList ∧
        DeclareAlike old.fields.parameters new.fields.parameters ∧
        ∀ tag, tag ∈ old.fields.tags ↔ tag ∈ new.fields.tags := by
  rw [totalChanges_eq, ← diffParameters_isEmpty_iff hold.names hnew.names,
    ← diffTags_isEmpty_iff, ← changes_positional_eq_zero_iff]
  simp only [ParameterDiff.isEmpty, TagDiff.isEmpty, Bool.and_eq_true,
    List.isEmpty_iff, ← List.length_eq_zero_iff]
  simp only [compare, lineEntries]
  omega

/-- **What a comparison reports.**  Two versions have changes exactly if their
contents have different lines, or if they differ besides. -/
theorem hasChanges_iff_linesDiffer (templateName : String) (hold : old.Sound)
    (hnew : new.Sound) :
    (compare templateName old new).hasChanges ↔
      LinesDiffer old new ∨ DifferBesideContent old new := by
  have hcategory : (compare templateName old new).stats.categoryChanged ↔
      old.fields.category ≠ new.fields.category := by
    simp [compare]
  rw [Comparison.hasChanges, Bool.or_eq_true, decide_eq_true_eq,
    Nat.pos_iff_ne_zero, hcategory, Ne,
    totalChanges_eq_zero_iff templateName hold hnew]
  unfold LinesDiffer DifferBesideContent
  tauto

/-- A version compared with itself. -/
theorem reportsNothing_self (templateName : String) (hold : old.Sound) :
    (compare templateName old old).ReportsNothing where
  hasChanges := by
    rw [← Bool.not_eq_true, hasChanges_iff_linesDiffer templateName hold hold]
    simp [LinesDiffer, DifferBesideContent, declareAlike_self hold.finite]
  totalChanges := by
    rw [totalChanges_eq_zero_iff templateName hold hold]
    exact ⟨rfl, declareAlike_self hold.finite, fun _ => Iff.rfl⟩
  contentChanged := by simp [compare]
  lines _ hentry := unchanged_of_mem_positional_self hentry
  words _ hentry := unchanged_of_mem_positional_self hentry
  category := by simp [compare]
  parameters := (diffParameters_isEmpty_iff hold.names hold.names).mpr
    (declareAlike_self hold.finite)
  tags := (diffTags_isEmpty_iff _ _).mpr fun _ => Iff.rfl
  charDelta := by simp [compare]

/-- Two versions that differ in the line breaks of their contents and in nothing
else. -/
def OnlyBreaksDiffer (old new : Snapshot) : Prop :=
  old.fields.content ≠ new.fields.content ∧ ¬ LinesDiffer old new ∧
    ¬ DifferBesideContent old new

/-- **Which changes are reported.**  A comparison has changes if the contents
have different lines, or if category, tags or declarations differ; so it reports
exactly the changes of a pair of versions unless they differ in line breaks
alone.  A version compared with itself has no change of any kind. -/
theorem changes_reported_iff (templateName : String) (old new : Snapshot)
    (hold : old.Sound) (hnew : new.Sound) :
    ((compare templateName old new).hasChanges ↔
      LinesDiffer old new ∨ DifferBesideContent old new) ∧
    (((compare templateName old new).hasChanges ↔ Differ old new) ↔
      ¬ OnlyBreaksDiffer old new) ∧
    (compare templateName old old).ReportsNothing := by
  have hreported := hasChanges_iff_linesDiffer templateName hold hnew
  refine ⟨hreported, ?_, reportsNothing_self templateName hold⟩
  have hcontent :
      LinesDiffer old new → old.fields.content ≠ new.fields.content :=
    fun hlines heq => hlines (by rw [heq])
  rw [hreported, Differ, OnlyBreaksDiffer]
  tauto

/-- A version with a text and nothing else. -/
def plainVersion (id version : Int) (content : String) : Snapshot where
  summary := ⟨id, version, version = 1, "alice", ⟨1700000000, 0⟩⟩
  fields := ⟨content, "general", [], []⟩

/-- A version without declarations is sound. -/
theorem sound_plainVersion (id version : Int) (content : String) :
    (plainVersion id version content).Sound :=
  ⟨List.nodup_nil, fun _ hparam => absurd hparam List.not_mem_nil⟩

/-- A greeting whose only line changed has changes. -/
theorem changes_of_greeting_reported :
    (plainVersion 10 1 "Hello").Sound ∧ (plainVersion 11 2 "Hello you").Sound ∧
      (compare "greeting" (plainVersion 10 1 "Hello")
        (plainVersion 11 2 "Hello you")).hasChanges :=
  ⟨sound_plainVersion _ _ _, sound_plainVersion _ _ _,
    (changes_reported_iff "greeting" (plainVersion 10 1 "Hello")
      (plainVersion 11 2 "Hello you") (sound_plainVersion _ _ _)
          (sound_plainVersion _ _ _)).1.mpr
        (Or.inl (by unfold LinesDiffer; decide))⟩

/-- A line feed put behind a content that has no other: the comparison states
that the content changed, and has no changes. -/
theorem line_break_not_reported :
    ¬ ∀ (templateName : String) (old new : Snapshot), old.Sound → new.Sound →
      ((compare templateName old new).hasChanges ↔ Differ old new) := by
  intro hexact
  have hdiffer : Differ (plainVersion 10 1 "a") (plainVersion 11 2 "a\n") :=
    Or.inl (by decide)
  have hreported :=
    (hexact "greeting" (plainVersion 10 1 "a") (plainVersion 11 2 "a\n")
      (sound_plainVersion _ _ _) (sound_plainVersion _ _ _)).mpr hdiffer
  have hhidden : (compare "greeting" (plainVersion 10 1 "a")
      (plainVersion 11 2 "a\n")).hasChanges = false := by decide
  exact absurd hreported (by rw [hhidden]; decide)

end Versions

end TemplateRegistry.Diff
