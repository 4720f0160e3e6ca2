import TemplateRegistry.Proofs.NormalFields
/-!
# What the length limits count

A limit on a text reads as a number of characters, and the messages say so.  The
limit on contents counts characters.  The others count bytes of UTF-8, of which
a character has one to four, so that they refuse some texts that are within the
limit in characters: the overlong ones.  No text of ASCII characters is
overlong, and nothing beyond a limit is let through.

* `Overlong`, `Overlong.exists_beyond_ascii` — texts with more bytes than a
  limit allows;
* `utf8ByteSize_le_iff` — a limit in bytes as one in characters;
* `ParameterDef.validate_eq_nameTooLong_iff` — the names that are refused for
  their length;
* `length_limits_exact` — what each check lets through;
* `accented_texts_refused` — texts within the limits that are refused.
-/

namespace TemplateRegistry

/-! ### Characters and bytes -/

/-- A text that has no more characters than a limit, but more bytes. -/
def Overlong (limit : Nat) (s : String) : Prop :=
  s.length ≤ limit ∧ limit < s.utf8ByteSize

section Sizes

variable {limit : Nat} {s : String}

/-- Every character has at least one byte. -/
theorem length_le_utf8Len (chars : List Char) :
    chars.length ≤ String.utf8Len chars := by
  induction chars with
  | nil => exact Nat.le_refl 0
  | cons c rest ih =>
      have hbyte := c.utf8Size_pos
      rw [List.length_cons, String.utf8Len_cons]
      omega

/-- Characters of ASCII have one byte each. -/
theorem utf8Len_of_ascii {chars : List Char} (h : ∀ c ∈ chars, c.toNat ≤ 127) :
    String.utf8Len chars = chars.length := by
  induction chars with
  | nil => rfl
  | cons c rest ih =>
      have hbyte : c.utf8Size = 1 :=
        Char.utf8Size_eq_one_iff.mpr (h c List.mem_cons_self)
      rw [List.length_cons, String.utf8Len_cons, hbyte,
        ih fun d hd => h d (List.mem_cons_of_mem _ hd)]

/-- A repeated character takes its bytes as often. -/
theorem utf8Len_replicate (n : Nat) (c : Char) :
    String.utf8Len (List.replicate n c) = n * c.utf8Size := by
  induction n with
  | zero => simp
  | succ n ih => rw [List.replicate_succ, String.utf8Len_cons, ih, Nat.succ_mul]

/-- A limit in bytes lets those texts through that are within it in characters,
except for the overlong ones. -/
theorem utf8ByteSize_le_iff :
    s.utf8ByteSize ≤ limit ↔ s.length ≤ limit ∧ ¬ Overlong limit s := by
  have hsize := length_le_utf8Len s.toList
  rw [String.length_toList, String.utf8Len_toList] at hsize
  unfold Overlong
  omega

/-- What a limit in bytes refuses has too many characters or is overlong. -/
theorem lt_utf8ByteSize_iff :
    limit < s.utf8ByteSize ↔ limit < s.length ∨ Overlong limit s := by
  rw [← Nat.not_le, utf8ByteSize_le_iff, Classical.not_and_iff_not_or_not,
    Classical.not_not, Nat.not_le]

/-- An overlong text has a character beyond ASCII. -/
theorem Overlong.exists_beyond_ascii (h : Overlong limit s) :
    ∃ c ∈ s.toList, 127 < c.toNat := by
  by_contra hnone
  have hascii : ∀ c ∈ s.toList, c.toNat ≤ 127 := by
    intro c hc
    exact Nat.le_of_not_lt fun hlarge => hnone ⟨c, hc, hlarge⟩
  have hsize := utf8Len_of_ascii hascii
  rw [String.length_toList, String.utf8Len_toList] at hsize
  obtain ⟨hcharacters, hbytes⟩ := h
  omega

end Sizes

/-! ### Names of parameters -/

namespace ParameterDef

/-- The error of a name that is too long. -/
def nameTooLong (index : Nat) (param : ParameterDef) : RegistryError :=
  .validation (fieldPath index "name")
    s!"Parameter name exceeds maximum length of {nameLimit} characters (got {param.name.utf8ByteSize})"

/-- Paths of different fields differ. -/
theorem fieldPath_inj {index : Nat} {field other : String} :
    fieldPath index field = fieldPath index other ↔ field = other :=
  String.append_right_inj _

/-- A blank name is not told to be too long. -/
theorem blankName_ne_nameTooLong (index : Nat) (param : ParameterDef) :
    .validation (fieldPath index "name") "Parameter name is required" ≠
      param.nameTooLong index := by
  intro h
  have hmessage := (RegistryError.validation.inj h).2
  simp only [String.append_assoc] at hmessage
  -- the messages part after the words that they have in common
  have hparted := congrArg (fun message => message.toList[15]?) hmessage
  rw [String.toList_append, List.getElem?_append_left (by decide)] at hparted
  revert hparted
  decide

/-- What is wrong with a default is no matter of the name. -/
theorem validateDefault_ne_name (index : Nat) (param : ParameterDef)
    (message : String) :
    param.validateDefault index ≠
      .error (.validation (fieldPath index "name") message) := by
  have hpath : fieldPath index "default_value" ≠ fieldPath index "name" := by
    rw [Ne, fieldPath_inj]
    decide
  unfold validateDefault
  intro h
  split at h
  · cases h
  · split at h
    · exact hpath (RegistryError.validation.inj (Except.error.inj h)).1
    · split at h
      · exact hpath (RegistryError.validation.inj (Except.error.inj h)).1
      · cases h

/-- **Names** are refused for their length just if they are not blank and have
too many bytes. -/
theorem validate_eq_nameTooLong_iff {index : Nat} {param : ParameterDef} :
    param.validate index = .error (param.nameTooLong index) ↔
      Text.isBlankText param.name = false ∧
      nameLimit < param.name.utf8ByteSize := by
  rw [validate]
  by_cases hblank : Text.isBlankText param.name = true
  · rw [if_pos hblank]
    exact iff_of_false
      (fun h => blankName_ne_nameTooLong index param (Except.error.inj h))
      (fun h => by simp [hblank] at h)
  rw [if_neg hblank]
  by_cases hlong : nameLimit < param.name.utf8ByteSize
  · rw [if_pos hlong]
    exact iff_of_true rfl ⟨by simpa using hblank, hlong⟩
  rw [if_neg hlong]
  refine iff_of_false (fun h => ?_) (fun h => hlong h.2)
  split at h
  · have hpath := (RegistryError.validation.inj (Except.error.inj h)).1
    rw [fieldPath_inj] at hpath
    exact absurd hpath (by decide)
  · exact validateDefault_ne_name index param _ h

end ParameterDef

/-! ### All limits -/

/-- **What the length limits count.**  A content may have as many characters as
the limit says, and so may a category, each tag, notes and the name of a
parameter, except for overlong texts: these are refused as too long, though they
have no more characters than the limit.  Only texts with a character beyond
ASCII are overlong. -/
theorem length_limits_exact (content category notes : String)
    (tags : List String) (index : Nat) (param : ParameterDef) :
    (validateContent content = .ok () ↔
      Text.isBlankText content = false ∧ content.length ≤ contentLimit) ∧
    (validateCategory category = .ok () ↔
      (Text.isBlankText category = false ∧ category.length ≤ categoryLimit) ∧
        ¬ Overlong categoryLimit category) ∧
    (validateTags tags = .ok () ↔
      (tags.length ≤ tagCountLimit ∧
        ∀ tag ∈ tags, Text.isBlankText tag = false ∧ tag.length ≤ tagLimit) ∧
      ∀ tag ∈ tags, ¬ Overlong tagLimit tag) ∧
    (validateNotes notes = .ok () ↔
      notes.length ≤ notesLimit ∧ ¬ Overlong notesLimit notes) ∧
    (param.validate index = .error (param.nameTooLong index) ↔
      Text.isBlankText param.name = false ∧
        (ParameterDef.nameLimit < param.name.length ∨
          Overlong ParameterDef.nameLimit param.name)) ∧
    ∀ limit s, Overlong limit s → ∃ c ∈ s.toList, 127 < c.toNat := by
  refine ⟨validateContent_eq_ok_iff, ?_, ?_, ?_, ?_, ?_⟩
  · rw [validateCategory_eq_ok_iff, IsCategory, utf8ByteSize_le_iff, and_assoc]
  · rw [validateTags_eq_ok_iff, AreTags, and_assoc]
    refine and_congr_right fun _ => ?_
    rw [← forall₂_and]
    refine forall₂_congr fun tag _ => ?_
    rw [IsTag, utf8ByteSize_le_iff, and_assoc]
  · rw [validateNotes_eq_ok_iff, utf8ByteSize_le_iff]
  · rw [ParameterDef.validate_eq_nameTooLong_iff, lt_utf8ByteSize_iff]
  · intro limit s h
    exact h.exists_beyond_ascii

/-- A text of accented letters. -/
def accented (n : Nat) : String :=
  String.ofList (List.replicate n 'é')

theorem length_accented (n : Nat) : (accented n).length = n := by
  rw [accented, String.length_ofList, List.length_replicate]

/-- It has two bytes for each. -/
theorem utf8ByteSize_accented (n : Nat) :
    (accented n).utf8ByteSize = n * 2 := by
  rw [accented, String.utf8ByteSize_ofList, utf8Len_replicate]
  rfl

/-- A category of 51 letters, a tag of 26, notes of 501 and the name of a
parameter of 51 are refused. -/
theorem accented_texts_refused :
    (Text.isBlankText (accented 51) = false ∧
      (accented 51).length ≤ categoryLimit ∧
      validateCategory (accented 51) ≠ .ok ()) ∧
    (Text.isBlankText (accented 26) = false ∧ (accented 26).length ≤ tagLimit ∧
      validateTags [accented 26] ≠ .ok ()) ∧
    ((accented 501).length ≤ notesLimit ∧
      validateNotes (accented 501) ≠ .ok ()) ∧
    ((accented 51).length ≤ ParameterDef.nameLimit ∧
      ParameterDef.validate 0 ⟨accented 51, "", false, .string, none⟩ =
        .error (ParameterDef.nameTooLong 0
          ⟨accented 51, "", false, .string, none⟩)) := by
  have hcategory : Text.isBlankText (accented 51) = false := by decide
  have htag : Text.isBlankText (accented 26) = false := by decide
  refine ⟨⟨hcategory, ?_, ?_⟩, ⟨htag, ?_, ?_⟩, ⟨?_, ?_⟩, ?_, ?_⟩
  · rw [length_accented]
    decide
  · rw [Ne, validateCategory_eq_ok_iff, IsCategory, utf8ByteSize_accented]
    exact fun h => absurd h.2 (by decide)
  · rw [length_accented]
    decide
  · rw [Ne, validateTags_eq_ok_iff, AreTags, List.forall_mem_singleton, IsTag,
      utf8ByteSize_accented]
    exact fun h => absurd h.2.2 (by decide)
  · rw [length_accented]
    decide
  · rw [Ne, validateNotes_eq_ok_iff, utf8ByteSize_accented]
    decide
  · rw [length_accented]
    decide
  · rw [ParameterDef.validate_eq_nameTooLong_iff, utf8ByteSize_accented]
    exact ⟨hcategory, by decide⟩

end TemplateRegistry
