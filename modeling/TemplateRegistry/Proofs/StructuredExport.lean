import Mathlib.Data.List.Forall2
import TemplateRegistry.Proofs.ComparisonDocuments
import TemplateRegistry.Proofs.PositionalEntries
import TemplateRegistry.Proofs.TextLines
import TemplateRegistry.Report.Document
/-!
# The structured report loses nothing

The structured report of a comparison is its document with one item a line.
Reading it gives the comparison back: no text, no count and no default is lost
or changed, whatever characters the texts have and however the defaults are
nested, as long as the reader allows the nesting.

A default keeps its kind since it is told from its shape, and its numbers since
they are integral; the one thing that the text does not have is the sign of a
zero, and the two zeros are equal.

* `Comparison.Same` — equality of comparisons, as equality of their parts;
* `fits_compare` — comparisons of versions that a machine holds;
* `structured_reads_back` — reading the structured report.
-/

namespace TemplateRegistry

namespace Diff

/-! ### Equality of comparisons -/

/-- Equality of changed declarations; numbers in defaults compare as numbers. -/
structure ParameterChange.Same (change other : ParameterChange) : Prop where
  name : change.name = other.name
  before : change.before.same other.before
  after : change.after.same other.after
  changedFields : change.changedFields = other.changedFields

/-- Equality of the declarations of two versions. -/
structure ParameterDiff.Same (diff other : ParameterDiff) : Prop where
  added :
    List.Forall₂ (fun param kept => param.same kept) diff.added other.added
  removed :
    List.Forall₂ (fun param kept => param.same kept) diff.removed other.removed
  modified : List.Forall₂ ParameterChange.Same diff.modified other.modified
  unchanged : diff.unchanged = other.unchanged

/-- Equality of comparisons. -/
structure Comparison.Same (c other : Comparison) : Prop where
  templateName : c.templateName = other.templateName
  older : c.older = other.older
  newer : c.newer = other.newer
  content : c.content = other.content
  category : c.category = other.category
  parameters : c.parameters.Same other.parameters
  tags : c.tags = other.tags
  stats : c.stats = other.stats

/-- Lists that are read item by item, each as an equal one. -/
theorem forall₂_map {α : Type} {Same : α → α → Prop} {f : α → α} {list : List α}
    (h : ∀ a ∈ list, Same (f a) a) : List.Forall₂ Same (list.map f) list := by
  rw [List.forall₂_map_left_iff, List.forall₂_same]
  exact h

/-- A changed declaration and its canonical form are the same. -/
theorem ParameterChange.same_canonical {change : ParameterChange}
    (h : change.Fits) :
    change.canonical.Same change :=
  ⟨rfl, ParameterDef.same_canonical h.before,
    ParameterDef.same_canonical h.after, rfl⟩

/-- Changes of declarations and their canonical form are the same. -/
theorem ParameterDiff.same_canonical {diff : ParameterDiff} (h : diff.Fits) :
    diff.canonical.Same diff where
  added := forall₂_map fun param hparam =>
    ParameterDef.same_canonical (h.added param hparam)
  removed := forall₂_map fun param hparam =>
    ParameterDef.same_canonical (h.removed param hparam)
  modified := forall₂_map fun change hchange =>
    ParameterChange.same_canonical (h.modified change hchange)
  unchanged := rfl

/-- A comparison and its canonical form are the same. -/
theorem Comparison.same_canonical {c : Comparison} (h : c.Fits) :
    c.canonical.Same c :=
  ⟨rfl, rfl, rfl, rfl, rfl, ParameterDiff.same_canonical h.parameters, rfl, rfl⟩

/-! ### Versions that a machine holds -/

/-- How much a version holds: characters, declarations and tags. -/
def Snapshot.size (version : Snapshot) : Nat :=
  version.fields.content.length + version.fields.parameters.length +
    version.fields.tags.length

/-- A version as a machine of 64 bits holds it, with defaults whose numbers are
integral and whose maps are maps, and with a time that is read as it was
printed. -/
structure Snapshot.Held (version : Snapshot) : Prop where
  summary : version.summary.Fits
  content : version.fields.content.length < Nat.pow 2 63
  defaults : ∀ param ∈ version.fields.parameters, param.Fits

section Held

variable {old new : Snapshot} {params oldParams newParams : List ParameterDef}

/-- What stands under a name is one of the declarations. -/
theorem mem_of_mem_declarationsByName {entry : String × ParameterDef}
    (h : entry ∈ declarationsByName params) : entry.2 ∈ params := by
  obtain ⟨param, hparam, rfl⟩ := List.mem_map.mp (Table.mem_of_mem_ofList h)
  exact hparam

/-- What one side alone declares is one of its declarations. -/
theorem mem_of_mem_declarationsBeyond {other : Table ParameterDef}
    {param : ParameterDef}
    (h : param ∈ declarationsBeyond (declarationsByName params) other) :
    param ∈ params := by
  obtain ⟨entry, hentry, rfl⟩ := List.mem_map.mp h
  exact mem_of_mem_declarationsByName (List.mem_filter.mp hentry).1

/-- A changed declaration is made of one of each side. -/
theorem mem_of_mem_modified {change : ParameterChange}
    (h : change ∈ (diffParameters oldParams newParams).modified) :
    change.before ∈ oldParams ∧ change.after ∈ newParams := by
  obtain ⟨entry, hentry, hchange⟩ := List.mem_filterMap.mp h
  cases hfound : (declarationsByName oldParams).get? entry.1 with
  | none => simp [hfound] at hchange
  | some before =>
      by_cases hsame : before.same entry.2
      · simp [hfound, hsame] at hchange
      · simp only [hfound, hsame] at hchange
        obtain rfl := Option.some.inj hchange
        exact ⟨mem_of_mem_declarationsByName (Table.mem_of_get? hfound),
          mem_of_mem_declarationsByName hentry⟩

/-- The changes of declarations fit if the declarations do. -/
theorem fits_diffParameters (hold : ∀ param ∈ oldParams, param.Fits)
    (hnew : ∀ param ∈ newParams, param.Fits) :
    (diffParameters oldParams newParams).Fits where
  added param hparam := hnew param (mem_of_mem_declarationsBeyond hparam)
  removed param hparam := hold param (mem_of_mem_declarationsBeyond hparam)
  modified _ hchange :=
    ⟨hold _ (mem_of_mem_modified hchange).1,
      hnew _ (mem_of_mem_modified hchange).2⟩

/-- There are no more names than declarations. -/
theorem length_declarationsByName_le (params : List ParameterDef) :
    (declarationsByName params).length ≤ params.length := by
  simpa [declarationsByName] using
    Table.length_ofList_le (params.map fun param => (param.name, param))

/-- Items of two disjoint kinds. -/
theorem length_filter_add_filterMap_le {α β : Type} {p : α → Bool}
    {f : α → Option β} (h : ∀ a, p a → f a = none) (list : List α) :
    (list.filter p).length + (list.filterMap f).length ≤ list.length := by
  induction list with
  | nil => exact Nat.le_refl 0
  | cons a rest ih =>
      rw [List.length_cons]
      by_cases hp : p a
      · rw [List.filter_cons_of_pos hp, List.filterMap_cons_none (h a hp),
          List.length_cons]
        omega
      · rw [List.filter_cons_of_neg hp, List.filterMap_cons]
        split
        · omega
        · rw [List.length_cons]
          omega

/-- A declaration of the newer side is added or changed, not both. -/
theorem length_added_modified_le (oldParams newParams : List ParameterDef) :
    (diffParameters oldParams newParams).added.length +
      (diffParameters oldParams newParams).modified.length ≤
        newParams.length := by
  refine Nat.le_trans ?_ (length_declarationsByName_le newParams)
  rw [diffParameters, declarationsBeyond, List.length_map]
  apply length_filter_add_filterMap_le
  intro entry hnew
  have hnone : (declarationsByName oldParams).get? entry.1 = none := by
    simpa [Table.contains] using hnew
  rw [hnone]

/-- No more declarations are removed than there were. -/
theorem length_removed_le (oldParams newParams : List ParameterDef) :
    (diffParameters oldParams newParams).removed.length ≤ oldParams.length := by
  refine Nat.le_trans ?_ (length_declarationsByName_le oldParams)
  show (declarationsBeyond _ _).length ≤ _
  rw [declarationsBeyond, List.length_map]
  exact List.length_filter_le _ _

/-- A sorted selection of names is no longer than the names. -/
theorem length_filter_ofList_le (names : List String) (p : String → Bool) :
    ((Ascending.ofList names).filter p).length ≤ names.length :=
  Nat.le_trans (List.length_filter_le _ _) (Ascending.length_ofList_le names)

/-- The positions of entries fit a word if the two sides are in memory. -/
theorem fits_entries {oldItems newItems : List (List Char)}
    (hold : oldItems.length < Nat.pow 2 63)
    (hnew : newItems.length < Nat.pow 2 63) {e : Entry}
    (h : e ∈ positional oldItems newItems) : e.Fits := by
  have hwords : Nat.pow 2 63 ≤ Numeral.wordMax := by decide
  obtain ⟨holdPlace, hnewPlace⟩ := within_of_mem_positional h
  refine ⟨fun place hplace => ?_, fun place hplace => ?_⟩
  · have hbound := holdPlace place hplace
    show place ≤ Numeral.wordMax
    omega
  · have hbound := hnewPlace place hplace
    show place ≤ Numeral.wordMax
    omega

/-- A content has no more lines than characters. -/
theorem length_lines_content_le (version : Snapshot) :
    (Text.lines version.fields.content.toList).length ≤
      version.fields.content.length :=
  Text.length_lines_le _

/-- A content has no more words than characters. -/
theorem length_words_content_le (version : Snapshot) :
    (Text.words version.fields.content.toList).length ≤
      version.fields.content.length :=
  Text.length_words_le _

/-- The counts of comparing two versions that a machine holds together. -/
theorem fits_stats (templateName : String) (hold : old.Held) (hnew : new.Held)
    (hmemory : old.size + new.size ≤ Numeral.wordMax) :
    (compare templateName old new).stats.Fits := by
  have holdContent := hold.content
  have hnewContent := hnew.content
  have holdLines := length_lines_content_le old
  have hnewLines := length_lines_content_le new
  have holdWords := length_words_content_le old
  have hnewWords := length_words_content_le new
  have hlinesRemoved :
      count .unchanged (lineEntries old.fields.content new.fields.content) +
      count .removed (lineEntries old.fields.content new.fields.content) =
        (Text.lines old.fields.content.toList).length :=
    count_unchanged_removed _ _
  have hlinesAdded :
      count .unchanged (lineEntries old.fields.content new.fields.content) +
      count .added (lineEntries old.fields.content new.fields.content) =
        (Text.lines new.fields.content.toList).length :=
    count_unchanged_added _ _
  have hwordsRemoved :
      count .unchanged (wordEntries old.fields.content new.fields.content) +
      count .removed (wordEntries old.fields.content new.fields.content) =
        (Text.words old.fields.content.toList).length :=
    count_unchanged_removed _ _
  have hwordsAdded :
      count .unchanged (wordEntries old.fields.content new.fields.content) +
      count .added (wordEntries old.fields.content new.fields.content) =
        (Text.words new.fields.content.toList).length :=
    count_unchanged_added _ _
  have hparamsAdded :=
    length_added_modified_le old.fields.parameters new.fields.parameters
  have hparamsRemoved :=
    length_removed_le old.fields.parameters new.fields.parameters
  have htagsAdded : (diffTags old.fields.tags new.fields.tags).added.length ≤
      new.fields.tags.length := length_filter_ofList_le _ _
  have htagsRemoved :
      (diffTags old.fields.tags new.fields.tags).removed.length ≤
      old.fields.tags.length := length_filter_ofList_le _ _
  have hhalf : Nat.pow 2 (64 - 1) = Nat.pow 2 63 := rfl
  unfold Snapshot.size at hmemory
  constructor
  all_goals
    simp only [compare, Json.IsNatural, Json.IsSigned]
    omega

/-- A comparison of two versions that a machine holds together. -/
theorem fits_compare (templateName : String) (hold : old.Held) (hnew : new.Held)
    (hmemory : old.size + new.size ≤ Numeral.wordMax) :
    (compare templateName old new).Fits where
  older := hold.summary
  newer := hnew.summary
  content :=
    { lines := fun _ => fits_entries
        (Nat.lt_of_le_of_lt (length_lines_content_le old) hold.content)
        (Nat.lt_of_le_of_lt (length_lines_content_le new) hnew.content)
      words := fun _ => fits_entries
        (Nat.lt_of_le_of_lt (length_words_content_le old) hold.content)
        (Nat.lt_of_le_of_lt (length_words_content_le new) hnew.content) }
  parameters := fits_diffParameters hold.defaults hnew.defaults
  stats := fits_stats templateName hold hnew hmemory

end Held

/-! ### Reading the report -/

/-- **The structured report loses nothing.**  Reading the structured report of
two versions gives their comparison back, with every negative zero made the
positive one, and so an equal one. -/
theorem structured_reads_back (templateName : String) (old new : Snapshot)
    (hold : old.Held) (hnew : new.Held)
    (hmemory : old.size + new.size ≤ Numeral.wordMax)
    (hdepth : (compare templateName old new).toJson.depth ≤ Json.depthLimit) :
    (Json.ofString? (Report.structured (compare templateName old new))).bind
        Comparison.ofJson? =
        some (compare templateName old new).canonical ∧
      (compare templateName old new).canonical.Same
        (compare templateName old new) := by
  have hfits := fits_compare templateName hold hnew hmemory
  exact ⟨Comparison.ofString?_pretty hfits hdepth,
    Comparison.same_canonical hfits⟩

/-- A version with a text and a parameter with some default. -/
def optionsVersion (version : Int) (content : String) (default : Value) :
    Snapshot where
  summary := ⟨9 + version, version, version = 1, "zoë", ⟨1700000000, 250000000⟩⟩
  fields := ⟨content, "general", ["draft \"one\""],
    [⟨"options", "what to do", false, .object, some default⟩]⟩

/-- A negative zero in a map. -/
def optionsBefore : Snapshot :=
  optionsVersion 1 "Grüß dich\n" (.object [("a", .number (.zero true))])

/-- A list and an empty map in a map, and a text with a control character. -/
def optionsAfter : Snapshot :=
  optionsVersion 2 "Bonjour\r\n\x00"
    (.object [("a", .array [Value.ofInt (-7)]), ("b", .object [])])

/-- Such a version is one that a machine holds. -/
theorem held_optionsVersion {version : Int} {content : String} {default : Value}
    (hversion : 0 ≤ version ∧ version < 100) (hcontent : content.length < 100)
    (hdefault : default.isWhole ∧ default.isOrdered) :
    (optionsVersion version content default).Held where
  summary :=
    { id := by
        have hhalf : Nat.pow 2 (64 - 1) = 9223372036854775808 := rfl
        simp only [Json.IsSigned, optionsVersion]
        omega
      version := by
        have hhalf : Nat.pow 2 (32 - 1) = 2147483648 := rfl
        simp only [Json.IsSigned, optionsVersion]
        omega
      createdAt := by
        show Timestamp.ofString? (Timestamp.json ⟨1700000000, 250000000⟩) =
          some ⟨1700000000, 250000000⟩
        decide +kernel }
  content := Nat.lt_trans hcontent (by decide)
  defaults := by
    intro param hparam value hvalue
    obtain rfl := List.mem_singleton.mp hparam
    obtain rfl := Option.some.inj hvalue
    exact hdefault

theorem held_optionsBefore : optionsBefore.Held :=
  held_optionsVersion (by decide) (by decide) (by decide +kernel)

theorem held_optionsAfter : optionsAfter.Held :=
  held_optionsVersion (by decide) (by decide) (by decide +kernel)

/-- The report on the two menus is read back, a zero, a list and a control
character included. -/
theorem options_read_back :
    (optionsBefore.Held ∧ optionsAfter.Held ∧
      optionsBefore.size + optionsAfter.size ≤ Numeral.wordMax ∧
      (compare "menu" optionsBefore optionsAfter).toJson.depth = 7) ∧
    (Json.ofString?
          (Report.structured (compare "menu" optionsBefore optionsAfter))).bind
        Comparison.ofJson? =
          some (compare "menu" optionsBefore optionsAfter).canonical ∧
      (compare "menu" optionsBefore optionsAfter).canonical.Same
        (compare "menu" optionsBefore optionsAfter) := by
  have hmemory :
    optionsBefore.size + optionsAfter.size ≤ Numeral.wordMax := by decide
  have hdepth : (compare "menu" optionsBefore optionsAfter).toJson.depth =
    7 := by decide +kernel
  exact ⟨⟨held_optionsBefore, held_optionsAfter, hmemory, hdepth⟩,
    structured_reads_back "menu" optionsBefore optionsAfter held_optionsBefore
      held_optionsAfter hmemory (by rw [hdepth]; decide)⟩

end Diff

end TemplateRegistry
