import TemplateRegistry.Proofs.DeclarationPatches
/-!
# Comparing the other way round

A comparison of a newer version with an older one is the mirror image of that of
the older with the newer: what was added is removed, what was removed is added,
and the rest only has its two sides exchanged.  In the lines and words each pair
of a removal and the addition in its place still begins with the removal.

Declarations are walked through the newer side first and the mirror image
through the other side first.  Both walks ascend, so they meet the same names in
the same order.

* `Comparison.mirror` — the mirror image, part by part;
* `mirrorEntries_positional` — lines and words;
* `mirror_diffParameters`, `mirror_diffTags` — declarations and tags;
* `compare_mirrored` — the comparison the other way round.
-/

namespace TemplateRegistry.Diff

/-! ### Mirror images -/

/-- What became of an entry, seen from the newer version. -/
def Status.mirror : Status → Status
  | added => removed
  | removed => added
  | modified => modified
  | unchanged => unchanged

/-- An entry with its two places exchanged. -/
def Entry.mirror (e : Entry) : Entry :=
  ⟨e.status.mirror, e.text, e.newPosition, e.oldPosition⟩

/-- Entries mirrored one by one; a removal and the addition directly after it
change places, so that the removal comes first again. -/
def mirrorEntries : List Entry → List Entry
  | [] => []
  | [entry] => [entry.mirror]
  | entry :: next :: rest =>
    if entry.status = .removed ∧ next.status = .added then
      next.mirror :: entry.mirror :: mirrorEntries rest
    else entry.mirror :: mirrorEntries (next :: rest)

/-- Lines and words the other way round. -/
def ContentDiff.mirror (diff : ContentDiff) : ContentDiff :=
  ⟨diff.changed, mirrorEntries diff.lines, mirrorEntries diff.words⟩

/-- A change of category taken back. -/
def CategoryChange.mirror (change : CategoryChange) : CategoryChange :=
  ⟨change.after, change.before⟩

/-- A changed declaration with its two sides exchanged. -/
def ParameterChange.mirror (change : ParameterChange) : ParameterChange :=
  ⟨change.name, change.after, change.before, change.changedFields⟩

/-- Declarations the other way round. -/
def ParameterDiff.mirror (diff : ParameterDiff) : ParameterDiff :=
  ⟨diff.removed, diff.added, diff.modified.map ParameterChange.mirror,
    diff.unchanged⟩

/-- Tags the other way round. -/
def TagDiff.mirror (diff : TagDiff) : TagDiff :=
  ⟨diff.removed, diff.added, diff.unchanged⟩

/-- The counts the other way round. -/
def Stats.mirror (stats : Stats) : Stats where
  linesAdded := stats.linesRemoved
  linesRemoved := stats.linesAdded
  linesUnchanged := stats.linesUnchanged
  wordsAdded := stats.wordsRemoved
  wordsRemoved := stats.wordsAdded
  charDelta := -stats.charDelta
  parametersAdded := stats.parametersRemoved
  parametersRemoved := stats.parametersAdded
  parametersModified := stats.parametersModified
  tagsAdded := stats.tagsRemoved
  tagsRemoved := stats.tagsAdded
  categoryChanged := stats.categoryChanged
  totalChanges := stats.totalChanges

/-- A comparison the other way round. -/
def Comparison.mirror (c : Comparison) : Comparison where
  templateName := c.templateName
  older := c.newer
  newer := c.older
  content := c.content.mirror
  category := c.category.map CategoryChange.mirror
  parameters := c.parameters.mirror
  tags := c.tags.mirror
  stats := c.stats.mirror

/-! ### Lines and words -/

section Entries

variable {place : Nat} {a b : List Char} {entries : List Entry}

/-- What is unchanged is so from both sides. -/
theorem mirrorEntries_unchanged_cons :
    mirrorEntries (.unchanged place a :: entries) =
      .unchanged place a :: mirrorEntries entries := by
  cases entries <;> rfl

/-- What was added is removed from the other side. -/
theorem mirrorEntries_added_cons :
    mirrorEntries (.added place a :: entries) =
      .removed place a :: mirrorEntries entries := by
  cases entries <;> rfl

/-- What takes the place of something has it taken by that. -/
theorem mirrorEntries_replaced_cons :
    mirrorEntries (.removed place a :: .added place b :: entries) =
      .removed place b :: .added place a :: mirrorEntries entries :=
  rfl

/-- Items left over on the newer side are left over on the older one. -/
theorem mirrorEntries_addedFrom (place : Nat) (new : List (List Char)) :
    mirrorEntries (addedFrom place new) = removedFrom place new := by
  induction new generalizing place with
  | nil => rfl
  | cons b rest ih => rw [addedFrom, mirrorEntries_added_cons, ih, removedFrom]

theorem mirrorEntries_removedFrom (place : Nat) (old : List (List Char)) :
    mirrorEntries (removedFrom place old) = addedFrom place old := by
  induction old generalizing place with
  | nil => rfl
  | cons a rest ih =>
      have halone : mirrorEntries (removedFrom place (a :: rest)) =
          .added place a :: mirrorEntries (removedFrom (place + 1) rest) := by
        cases rest <;> rfl
      rw [halone, ih, addedFrom]

/-- Exchanging the sides mirrors the entries. -/
theorem mirrorEntries_positionalFrom (place : Nat)
    (old new : List (List Char)) :
    mirrorEntries (positionalFrom place old new) =
      positionalFrom place new old := by
  fun_induction positionalFrom place old new with
  | case1 place new =>
      rw [mirrorEntries_addedFrom]
      cases new <;> rfl
  | case2 place a old => exact mirrorEntries_removedFrom place (a :: old)
  | case3 place old b new ih =>
      rw [mirrorEntries_unchanged_cons, ih, positionalFrom, if_pos rfl]
  | case4 place a old b new hne ih =>
      rw [mirrorEntries_replaced_cons, ih, positionalFrom, if_neg (Ne.symm hne)]

/-- **Entries.**  The entries of two lists the other way round. -/
theorem mirrorEntries_positional (old new : List (List Char)) :
    mirrorEntries (positional old new) = positional new old :=
  mirrorEntries_positionalFrom 1 old new

/-- Mirroring twice changes nothing. -/
theorem Status.mirror_eq_iff {status other : Status} :
    status.mirror = other ↔ status = other.mirror := by
  cases status <;> cases other <;> decide

/-- Entries are counted one by one. -/
theorem count_cons (status : Status) (entry : Entry) (entries : List Entry) :
    count status (entry :: entries) =
      count status entries + if entry.status = status then 1 else 0 := by
  by_cases h : entry.status = status <;> simp [count, h]

/-- Mirrored entries are counted under the mirrored status. -/
theorem count_mirrorEntries (status : Status) (entries : List Entry) :
    count status (mirrorEntries entries) = count status.mirror entries := by
  have hmirror : ∀ entry : Entry,
      (entry.mirror.status = status) = (entry.status = status.mirror) :=
    fun entry =>
    propext Status.mirror_eq_iff
  fun_induction mirrorEntries entries with
  | case1 => rfl
  | case2 entry => simp only [count_cons, hmirror, count_nil]
  | case3 entry next rest _ ih =>
      simp only [count_cons, hmirror, ih]
      omega
  | case4 entry next rest _ ih => simp only [count_cons, hmirror, ih]

end Entries

/-! ### Declarations and tags -/

section Classes

/-- Lists that ascend by a name and have the same members are the same. -/
theorem eq_of_ascending {α : Type} (nameOf : α → String) {as bs : List α}
    (has : (as.map nameOf).Pairwise (· < ·))
    (hbs : (bs.map nameOf).Pairwise (· < ·)) (hmem : ∀ a, a ∈ as ↔ a ∈ bs) :
    as = bs := by
  have hperm : as.Perm bs :=
    (List.perm_ext_iff_of_nodup (.of_map nameOf (nodup_of_ascending has))
      (.of_map nameOf (nodup_of_ascending hbs))).mpr hmem
  refine hperm.eq_of_pairwise (fun a b _ _ hab hba => ?_)
    (List.pairwise_map.mp has) (List.pairwise_map.mp hbs)
  exact absurd (String.lt_trans hab hba) (String.lt_irrefl _)

/-- A field has changed whichever side is the older one. -/
theorem changedFields_comm (before after : ParameterDef) :
    changedFields before after = changedFields after before := by
  simp only [changedFields, eq_comm (a := before.description),
    eq_comm (a := before.required), eq_comm (a := before.type),
    Value.option_beq_comm before.defaultValue]

/-- A change and its mirror image are found on either side. -/
theorem mirror_mem_modified {old new : List ParameterDef}
    {change : ParameterChange} :
    change.mirror ∈ (diffParameters old new).modified ↔
      change ∈ (diffParameters new old).modified := by
  rw [mem_modified, mem_modified, ParameterDef.same_comm change.before,
    changedFields_comm change.before]
  exact and_left_comm

/-- **Declarations.**  Both walks meet the same names in the same order. -/
theorem mirror_diffParameters (old new : List ParameterDef) :
    diffParameters new old = (diffParameters old new).mirror := by
  have hmodified : (diffParameters new old).modified =
      (diffParameters old new).modified.map ParameterChange.mirror := by
    refine eq_of_ascending ParameterChange.name (ascending_modified new old) ?_
      fun change => ?_
    · rw [List.map_map]
      exact ascending_modified old new
    · rw [List.mem_map, ← mirror_mem_modified]
      constructor
      · intro h
        exact ⟨change.mirror, h, rfl⟩
      · rintro ⟨other, hother, rfl⟩
        exact hother
  have hunchanged :
      (diffParameters new old).unchanged =
        (diffParameters old new).unchanged := by
    refine eq_of_ascending id (by simpa using ascending_unchanged new old)
      (by simpa using ascending_unchanged old new) fun name => ?_
    rw [mem_unchanged, mem_unchanged]
    constructor
    all_goals
      rintro ⟨before, after, hbefore, hafter, hsame⟩
      exact ⟨after, before, hafter, hbefore,
        ParameterDef.same_comm before after ▸ hsame⟩
  show (⟨_, _, (diffParameters new old).modified,
      (diffParameters new old).unchanged⟩ :
    ParameterDiff) = _
  rw [hmodified, hunchanged]
  rfl

/-- **Tags.**  What both lists have is listed in the same order from either
side. -/
theorem mirror_diffTags (old new : List String) :
    diffTags new old = (diffTags old new).mirror := by
  have hunchanged :
      (diffTags new old).unchanged = (diffTags old new).unchanged := by
    refine eq_of_ascending id
      (by simpa using (splits_diffTags new old).unchanged_ascending)
      (by simpa using (splits_diffTags old new).unchanged_ascending)
      fun tag => ?_
    rw [(splits_diffTags new old).mem_unchanged,
      (splits_diffTags old new).mem_unchanged]
    exact and_comm
  show (⟨_, _, (diffTags new old).unchanged⟩ : TagDiff) = _
  rw [hunchanged]
  rfl

end Classes

/-! ### The whole comparison -/

section Whole

variable (templateName : String) (old new : Snapshot)

/-- The entries of the contents are mirrored. -/
theorem content_mirrored : (compare templateName new old).content =
    (compare templateName old new).content.mirror := by
  simp only [compare, ContentDiff.mirror, lineEntries, wordEntries,
    mirrorEntries_positional, ne_comm (a := new.fields.content)]

/-- The change of category goes the other way. -/
theorem category_mirrored : (compare templateName new old).category =
    (compare templateName old new).category.map CategoryChange.mirror := by
  simp only [compare]
  by_cases h : old.fields.category = new.fields.category
  · simp [h]
  · simp [h, Ne.symm h, CategoryChange.mirror]

/-- The counts of additions and removals change places. -/
theorem stats_mirrored : (compare templateName new old).stats =
    (compare templateName old new).stats.mirror := by
  have hlines : lineEntries new.fields.content old.fields.content =
      mirrorEntries (lineEntries old.fields.content new.fields.content) :=
    (mirrorEntries_positional _ _).symm
  have hwords : wordEntries new.fields.content old.fields.content =
      mirrorEntries (wordEntries old.fields.content new.fields.content) :=
    (mirrorEntries_positional _ _).symm
  simp only [compare, Stats.mirror, hlines, hwords, count_mirrorEntries,
    Status.mirror, mirror_diffParameters old.fields.parameters,
    mirror_diffTags old.fields.tags, ParameterDiff.mirror, TagDiff.mirror,
    List.length_map, ne_comm (a := new.fields.category), Stats.mk.injEq,
    true_and]
  omega

/-- **The other way round.**  The comparison of a newer version with an older
one is the mirror image of that of the older with the newer, and has changes if
that has. -/
theorem compare_mirrored :
    compare templateName new old = (compare templateName old new).mirror ∧
      (compare templateName new old).hasChanges =
        (compare templateName old new).hasChanges := by
  have hmirror :
      compare templateName new old = (compare templateName old new).mirror := by
    show (⟨_, _, _, (compare templateName new old).content,
      (compare templateName new old).category, diffParameters _ _, diffTags _ _,
      (compare templateName new old).stats⟩ : Comparison) = _
    rw [content_mirrored, category_mirrored, mirror_diffParameters,
      mirror_diffTags, stats_mirrored]
    rfl
  refine ⟨hmirror, ?_⟩
  rw [hmirror]
  rfl

end Whole

end TemplateRegistry.Diff
