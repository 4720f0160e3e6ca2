import Mathlib.Data.List.DropRight
import Mathlib.Data.List.TakeWhile
import Mathlib.Data.String.Basic
import TemplateRegistry.Proofs.Tables
import TemplateRegistry.Record.Component
/-!
# Fields in normal form

What passes validation is stored in a normal form: the category and the tags are
trimmed, and the tags are ascending and each there once.  The raw texts are what
is checked, so that the normal form passes as well has to be shown: trimming
makes a text neither blank nor longer, and sorting adds no tags.

* `Text.trim_trim`, `Text.isBlankText_trim`, `Text.utf8ByteSize_trim_le` —
  trimming;
* `validateContent_eq_ok_iff`, `validateCategory_eq_ok_iff`,
  `validateTags_eq_ok_iff`, `validateNotes_eq_ok_iff`,
  `validateParameters_eq_ok_iff` — what each check asks for;
* `Fields.validated_eq_ok_iff`, `NewComponent.prepared_eq_ok_iff` — what passes,
  and as what;
* `Fields.validated_validated`, `NewComponent.prepared_prepared` — the result
  passes as it is;
* `Fields.validated_eq_self_iff`, `NewComponent.prepared_eq_self_iff` — what
  passes as it is.
-/

namespace TemplateRegistry

/-! ### Trimming -/

namespace Text

/-- A text is cut at its start, then at its end. -/
theorem trimChars_eq (s : List Char) :
    trimChars s = (s.dropWhile isBlank).rdropWhile isBlank := rfl

/-- What is left of a text starts with no blank, so that there is nothing to cut
there. -/
theorem dropWhile_trimChars (s : List Char) :
    (trimChars s).dropWhile isBlank = trimChars s := by
  rw [List.dropWhile_eq_self_iff]
  intro hlength
  have hprefix : trimChars s <+: s.dropWhile isBlank :=
    List.rdropWhile_prefix isBlank _
  have hbound : 0 < (s.dropWhile isBlank).length :=
    Nat.lt_of_lt_of_le hlength hprefix.length_le
  have hfirst : (trimChars s)[0] = (s.dropWhile isBlank)[0] :=
    hprefix.getElem hlength
  rw [hfirst]
  exact List.dropWhile_get_zero_not isBlank s _

/-- What was trimmed has no blanks at its ends. -/
theorem trimChars_trimChars (s : List Char) :
    trimChars (trimChars s) = trimChars s := by
  rw [trimChars_eq (trimChars s), dropWhile_trimChars, trimChars_eq,
    List.rdropWhile_idempotent]

/-- Trimming only leaves characters out. -/
theorem trimChars_sublist (s : List Char) : (trimChars s).Sublist s :=
  (List.rdropWhile_prefix isBlank _).sublist.trans
    (List.dropWhile_suffix isBlank).sublist

/-- Nothing is left just of a text of blanks. -/
theorem trimChars_eq_nil_iff {s : List Char} :
    trimChars s = [] ↔ s.all isBlank = true := by
  rw [List.all_eq_true]
  constructor
  · intro hnil
    rw [trimChars_eq, List.rdropWhile_eq_nil_iff] at hnil
    intro c hc
    rw [← List.takeWhile_append_dropWhile (p := isBlank) (l := s)] at hc
    rcases List.mem_append.mp hc with hcut | hleft
    · exact List.mem_takeWhile_imp hcut
    · exact hnil c hleft
  · intro hall
    rw [trimChars_eq, List.dropWhile_eq_nil_iff.mpr hall, List.rdropWhile_nil]

/-- Trimming twice is trimming once. -/
@[simp] theorem trim_trim (s : String) : trim (trim s) = trim s := by
  simp [trim, trimChars_trimChars]

/-- Trimming makes no text blank that was not, and none other that was. -/
@[simp] theorem isBlankText_trim (s : String) :
    isBlankText (trim s) = isBlankText s := by
  have hiff : (trimChars s.toList).all isBlank = true ↔
      s.toList.all isBlank = true := by
    rw [← trimChars_eq_nil_iff, trimChars_trimChars, trimChars_eq_nil_iff]
  simp only [isBlankText, trim, String.toList_ofList]
  exact Bool.eq_iff_iff.mpr hiff

/-- Trimming makes no text longer. -/
theorem utf8ByteSize_trim_le (s : String) :
    (trim s).utf8ByteSize ≤ s.utf8ByteSize := by
  have hsize := String.utf8Len_le_of_sublist (trimChars_sublist s.toList)
  rwa [← String.utf8ByteSize_ofList, ← String.utf8ByteSize_ofList,
    String.ofList_toList] at hsize

end Text

/-! ### What the checks ask for -/

/-- A text that may be stored. -/
def IsContent (content : String) : Prop :=
  Text.isBlankText content = false ∧ content.length ≤ contentLimit

/-- A category that may be stored. -/
def IsCategory (category : String) : Prop :=
  Text.isBlankText category = false ∧ category.utf8ByteSize ≤ categoryLimit

/-- A tag that may be stored. -/
def IsTag (tag : String) : Prop :=
  Text.isBlankText tag = false ∧ tag.utf8ByteSize ≤ tagLimit

/-- Tags that may be stored together. -/
def AreTags (tags : List String) : Prop :=
  tags.length ≤ tagCountLimit ∧ ∀ tag ∈ tags, IsTag tag

/-- A declaration that may be stored. -/
structure ParameterDef.Sound (param : ParameterDef) : Prop where
  named : Text.isBlankText param.name = false
  nameSize : param.name.utf8ByteSize ≤ ParameterDef.nameLimit
  described : Text.isBlankText param.description = false
  default : ∀ value, param.defaultValue = some value →
    param.type.accepts value = true ∧ value.isFinite = true

/-- Declarations that may be stored together. -/
def AreParameters (params : List ParameterDef) : Prop :=
  params.length ≤ ParameterDef.countLimit ∧ (∀ param ∈ params, param.Sound) ∧
    (params.map ParameterDef.name).Nodup

/-- What the check of a content lets through. -/
theorem validateContent_eq_ok_iff {content : String} :
    validateContent content = .ok () ↔ IsContent content := by
  unfold validateContent IsContent
  by_cases hblank : Text.isBlankText content = true
  · simp [hblank]
  · by_cases hlong : contentLimit < content.length
    · simp [hblank, hlong, Nat.not_le.mpr hlong]
    · simp [hblank, hlong, Nat.le_of_not_lt hlong]

/-- What the check of a category lets through. -/
theorem validateCategory_eq_ok_iff {category : String} :
    validateCategory category = .ok () ↔ IsCategory category := by
  unfold validateCategory IsCategory
  by_cases hblank : Text.isBlankText category = true
  · simp [hblank]
  · by_cases hlong : categoryLimit < category.utf8ByteSize
    · simp [hblank, hlong, Nat.not_le.mpr hlong]
    · simp [hblank, hlong, Nat.le_of_not_lt hlong]

/-- What the check of the single tags lets through. -/
theorem validateTagsFrom_eq_ok_iff (index : Nat) {tags : List String} :
    validateTagsFrom index tags = .ok () ↔ ∀ tag ∈ tags, IsTag tag := by
  induction tags generalizing index with
  | nil => simp [validateTagsFrom]
  | cons tag rest ih =>
      rw [validateTagsFrom, List.forall_mem_cons, ← ih (index + 1), IsTag]
      by_cases hblank : Text.isBlankText tag = true
      · simp [hblank]
      · by_cases hlong : tagLimit < tag.utf8ByteSize
        · simp [hblank, hlong, Nat.not_le.mpr hlong]
        · simp [hblank, hlong, Nat.le_of_not_lt hlong]

/-- What the check of tags lets through. -/
theorem validateTags_eq_ok_iff {tags : List String} :
    validateTags tags = .ok () ↔ AreTags tags := by
  unfold validateTags AreTags
  by_cases hmany : tagCountLimit < tags.length
  · simp [hmany, Nat.not_le.mpr hmany]
  · simp [hmany, Nat.le_of_not_lt hmany, validateTagsFrom_eq_ok_iff]

/-- What the check of notes lets through. -/
theorem validateNotes_eq_ok_iff {notes : String} :
    validateNotes notes = .ok () ↔ notes.utf8ByteSize ≤ notesLimit := by
  unfold validateNotes
  split
  next hlong => exact iff_of_false nofun (Nat.not_le.mpr hlong)
  next hshort => exact iff_of_true rfl (Nat.le_of_not_lt hshort)

/-- What the check of a default lets through: no default, or a finite one of the
declared type. -/
theorem ParameterDef.validateDefault_eq_ok_iff {index : Nat}
    {param : ParameterDef} :
    param.validateDefault index = .ok () ↔
      ∀ value, param.defaultValue = some value →
      param.type.accepts value = true ∧ value.isFinite = true := by
  unfold validateDefault
  cases param.defaultValue with
  | none => simp
  | some value =>
      by_cases haccepts : param.type.accepts value = true
      · by_cases hfinite : value.isFinite = true <;> simp [haccepts, hfinite]
      · simp [haccepts]

/-- What the check of a declaration lets through. -/
theorem ParameterDef.validate_eq_ok_iff {index : Nat} {param : ParameterDef} :
    param.validate index = .ok () ↔ param.Sound := by
  rw [validate]
  by_cases hname : Text.isBlankText param.name = true
  · simpa [hname] using fun h : param.Sound => by simpa [hname] using h.named
  by_cases hlong : nameLimit < param.name.utf8ByteSize
  · simpa [hname, hlong] using fun h :
      param.Sound => Nat.not_le.mpr hlong h.nameSize
  by_cases hdescription : Text.isBlankText param.description = true
  · simpa [hname, hlong, hdescription] using
      fun h : param.Sound => by simpa [hdescription] using h.described
  · simp only [hname, hlong, hdescription, if_false, Bool.false_eq_true,
      validateDefault_eq_ok_iff]
    exact ⟨fun h => ⟨by simpa using hname,
        Nat.le_of_not_lt hlong, by simpa using hdescription, h⟩,
      fun h => h.default⟩

/-- The check of declarations asks for the same at every index. -/
theorem validateFrom_eq_ok_iff {seen : List String} {index : Nat}
    {params : List ParameterDef} :
    validateFrom seen index params = .ok () ↔ (∀ param ∈ params, param.Sound) ∧
      (params.map ParameterDef.name).Nodup ∧
      ∀ param ∈ params, param.name ∉ seen := by
  induction params generalizing seen index with
  | nil => simp [validateFrom]
  | cons param rest ih =>
      rw [validateFrom]
      split
      · rename_i error hfailed
        have hunsound : ¬ param.Sound := fun h => by
          rw [ParameterDef.validate_eq_ok_iff.mpr h] at hfailed
          cases hfailed
        simp [hunsound]
      · rename_i hpassed
        have hsound : param.Sound := ParameterDef.validate_eq_ok_iff.mp hpassed
        by_cases hseen : param.name ∈ seen
        · simp [hseen]
        · simp only [hseen, if_false, ih, List.map_cons, List.nodup_cons,
            List.mem_cons, List.mem_map, not_or]
          grind

/-- What the check of all declarations lets through. -/
theorem validateParameters_eq_ok_iff {params : List ParameterDef} :
    validateParameters params = .ok () ↔ AreParameters params := by
  unfold validateParameters AreParameters
  by_cases hmany : ParameterDef.countLimit < params.length
  · simp [hmany, Nat.not_le.mpr hmany]
  · simp [hmany, Nat.le_of_not_lt hmany, validateFrom_eq_ok_iff]

/-! ### Normal forms of the parts -/

/-- A category is still one after trimming. -/
theorem IsCategory.trim {category : String} (h : IsCategory category) :
    IsCategory (Text.trim category) :=
  ⟨by simpa using h.1, (Text.utf8ByteSize_trim_le category).trans h.2⟩

/-- Tags as they are stored: ascending and trimmed. -/
structure NormalTags (tags : List String) : Prop where
  ascending : tags.Pairwise (· < ·)
  trimmed : ∀ tag ∈ tags, Text.trim tag = tag

/-- Normalized tags are ascending and trimmed. -/
theorem normalTags_normalizeTags (tags : List String) :
    NormalTags (normalizeTags tags) := by
  refine ⟨Ascending.pairwise_ofList _, fun tag htag => ?_⟩
  obtain ⟨raw, -, rfl⟩ := List.mem_map.mp (Ascending.mem_ofList.mp htag)
  exact Text.trim_trim raw

/-- Tags are left alone just if they are as they are stored. -/
theorem normalizeTags_eq_self_iff {tags : List String} :
    normalizeTags tags = tags ↔ NormalTags tags := by
  constructor
  · intro hsame
    rw [← hsame]
    exact normalTags_normalizeTags tags
  · intro h
    have hmap : tags.map Text.trim = tags :=
      (List.map_congr_left h.trimmed).trans (List.map_id' tags)
    rw [normalizeTags, hmap, Ascending.ofList_eq_self h.ascending]

/-- Tags that pass their check still do once they are normalized. -/
theorem AreTags.normalizeTags {tags : List String} (h : AreTags tags) :
    AreTags (normalizeTags tags) := by
  refine ⟨?_, fun tag htag => ?_⟩
  · calc (TemplateRegistry.normalizeTags tags).length
        ≤ (tags.map Text.trim).length := Ascending.length_ofList_le _
      _ = tags.length := List.length_map _
      _ ≤ tagCountLimit := h.1
  · obtain ⟨raw, hraw, rfl⟩ := List.mem_map.mp (Ascending.mem_ofList.mp htag)
    obtain ⟨hblank, hsize⟩ := h.2 raw hraw
    exact ⟨by simpa using hblank, (Text.utf8ByteSize_trim_le raw).trans hsize⟩

/-! ### Fields -/

namespace Fields

/-- Fields that pass validation. -/
structure Acceptable (fields : Fields) : Prop where
  content : IsContent fields.content
  category : IsCategory fields.category
  tags : AreTags fields.tags
  parameters : AreParameters fields.parameters

/-- The form in which fields are stored. -/
def normalized (fields : Fields) : Fields :=
  { fields with
    category := Text.trim fields.category
    tags := normalizeTags fields.tags }

/-- Fields in the form in which they are stored. -/
structure Normal (fields : Fields) : Prop extends Acceptable fields where
  categoryTrimmed : Text.trim fields.category = fields.category
  tagsNormal : NormalTags fields.tags

variable {fields result : Fields}

/-- **What passes validation**, and as what. -/
theorem validated_eq_ok_iff :
    fields.validated = .ok result ↔
      fields.Acceptable ∧ result = fields.normalized := by
  have hparts : fields.Acceptable ↔ validateContent fields.content = .ok () ∧
      validateCategory fields.category = .ok () ∧
      validateTags fields.tags = .ok () ∧
      validateParameters fields.parameters = .ok () := by
    rw [validateContent_eq_ok_iff, validateCategory_eq_ok_iff,
      validateTags_eq_ok_iff, validateParameters_eq_ok_iff]
    exact ⟨fun h => ⟨h.1, h.2, h.3, h.4⟩,
      fun h => ⟨h.1, h.2.1, h.2.2.1, h.2.2.2⟩⟩
  rw [hparts, validated, normalized]
  cases validateContent fields.content <;>
    cases validateCategory fields.category <;>
    cases validateTags fields.tags <;>
    cases validateParameters fields.parameters <;>
    simp [bind, Except.bind, pure, Except.pure, eq_comm]

/-- Acceptable fields are normal once they are normalized. -/
theorem Acceptable.normal (h : fields.Acceptable) :
    fields.normalized.Normal where
  content := h.content
  category := h.category.trim
  tags := h.tags.normalizeTags
  parameters := h.parameters
  categoryTrimmed := Text.trim_trim fields.category
  tagsNormal := normalTags_normalizeTags fields.tags

/-- Fields pass as they are just if they are in normal form. -/
theorem validated_eq_self_iff :
    fields.validated = .ok fields ↔ fields.Normal := by
  rw [validated_eq_ok_iff]
  constructor
  · rintro ⟨hacceptable, hsame⟩
    rw [hsame]
    exact hacceptable.normal
  · intro h
    refine ⟨h.toAcceptable, ?_⟩
    rw [normalized, h.categoryTrimmed,
      normalizeTags_eq_self_iff.mpr h.tagsNormal]

/-- **Validation is a projection.** -/
theorem validated_validated (h : fields.validated = .ok result) :
    result.validated = .ok result := by
  obtain ⟨hacceptable, rfl⟩ := validated_eq_ok_iff.mp h
  exact validated_eq_self_iff.mpr hacceptable.normal

end Fields

/-! ### Components -/

/-- The category that a component is stored with. -/
def settledCategory (category : String) : String :=
  if Text.isBlankText category then defaultCategory else Text.trim category

/-- A category that is not blank is stored as it is just if it is trimmed. -/
theorem settledCategory_eq_self_iff {category : String}
    (h : Text.isBlankText category = false) :
    settledCategory category = category ↔ Text.trim category = category := by
  rw [settledCategory, h, if_neg (by simp)]

/-- The stored category is trimmed. -/
theorem trim_settledCategory (category : String) :
    Text.trim (settledCategory category) = settledCategory category := by
  unfold settledCategory
  split
  · decide
  · exact Text.trim_trim category

namespace NewComponent

/-- Components that may be put. -/
structure Acceptable (new : NewComponent) : Prop where
  name : validateName new.name = .ok ()
  content : IsContent new.content
  category : IsCategory (settledCategory new.category)
  tags : AreTags new.tags

/-- The form in which a component is stored. -/
def normalized (new : NewComponent) : NewComponent :=
  { new with
    category := settledCategory new.category
    tags := normalizeTags new.tags }

/-- A component in the form in which it is stored. -/
structure Normal (new : NewComponent) : Prop where
  name : validateName new.name = .ok ()
  content : IsContent new.content
  category : IsCategory new.category
  categoryTrimmed : Text.trim new.category = new.category
  tags : AreTags new.tags
  tagsNormal : NormalTags new.tags

variable {new result : NewComponent}

/-- **What may be put**, and as what. -/
theorem prepared_eq_ok_iff :
    new.prepared = .ok result ↔ new.Acceptable ∧ result = new.normalized := by
  have hparts : new.Acceptable ↔ validateName new.name = .ok () ∧
      validateContent new.content = .ok () ∧
      validateCategory (settledCategory new.category) = .ok () ∧
      validateTags new.tags = .ok () := by
    rw [validateContent_eq_ok_iff, validateCategory_eq_ok_iff,
      validateTags_eq_ok_iff]
    exact ⟨fun h => ⟨h.1, h.2, h.3, h.4⟩,
      fun h => ⟨h.1, h.2.1, h.2.2.1, h.2.2.2⟩⟩
  have hprepared : new.prepared = (do
      validateName new.name
      validateContent new.content
      validateCategory (settledCategory new.category)
      validateTags new.tags
      return new.normalized) := rfl
  rw [hparts, hprepared]
  cases validateName new.name <;> cases validateContent new.content <;>
    cases validateCategory (settledCategory new.category) <;>
    cases validateTags new.tags <;>
    simp [bind, Except.bind, pure, Except.pure, eq_comm]

/-- An acceptable component is normal once it is normalized. -/
theorem Acceptable.normal (h : new.Acceptable) : new.normalized.Normal where
  name := h.name
  content := h.content
  category := h.category
  categoryTrimmed := trim_settledCategory new.category
  tags := h.tags.normalizeTags
  tagsNormal := normalTags_normalizeTags new.tags

/-- A component is stored as it is just if it is in normal form. -/
theorem prepared_eq_self_iff : new.prepared = .ok new ↔ new.Normal := by
  rw [prepared_eq_ok_iff]
  constructor
  · rintro ⟨hacceptable, hsame⟩
    rw [hsame]
    exact hacceptable.normal
  · intro h
    have hcategory : settledCategory new.category = new.category :=
      (settledCategory_eq_self_iff h.category.1).mpr h.categoryTrimmed
    refine ⟨⟨h.name, h.content, hcategory.symm ▸ h.category, h.tags⟩, ?_⟩
    rw [normalized, hcategory, normalizeTags_eq_self_iff.mpr h.tagsNormal]

/-- **Preparing is a projection.** -/
theorem prepared_prepared (h : new.prepared = .ok result) :
    result.prepared = .ok result := by
  obtain ⟨hacceptable, rfl⟩ := prepared_eq_ok_iff.mp h
  exact prepared_eq_self_iff.mpr hacceptable.normal

end NewComponent

end TemplateRegistry
