import TemplateRegistry.Diff.Json
import TemplateRegistry.Proofs.ValueDocuments
/-!
# Comparisons as documents, and back

Every record of a comparison is written with each of its fields under a name of
its own, and each field in a form that its reader takes: counts and positions as
integers, what may be missing as `null`, a kind by its name, a default by the
shape of its value.  So the reader gives the record back, if its numbers fit
into the 64 bits that documents keep.

* `Json.slots?_object` — the fields of a record that was written with them;
* `Fits` — what fits, record by record;
* `exact_toJson` — its document holds integers of 64 bits only;
* `ofJson?_toJson` — reading what was written;
* `Diff.Comparison.ofString?_pretty` — a comparison by way of its text.
-/

namespace TemplateRegistry

namespace Json

section Slots

variable {members : List (String × Json)}

/-- A member with a name of its own is all that is given under it. -/
theorem slot?_of_mem (h : (members.map Prod.fst).Nodup) {member : String × Json}
    (hmember : member ∈ members) :
    slot? members member.1 = some (.given member.2) := by
  have honly : (members.filter fun other => other.1 = member.1) = [member] := by
    induction members with
    | nil => cases hmember
    | cons first rest ih =>
        rw [List.map_cons, List.nodup_cons] at h
        rcases List.mem_cons.mp hmember with rfl | hrest
        · have hnone : (rest.filter fun other => other.1 = member.1) = [] := by
            rw [List.filter_eq_nil_iff]
            intro other hother heq
            rw [decide_eq_true_eq] at heq
            exact h.1 (heq ▸ List.mem_map_of_mem hother)
          simp [hnone]
        · have hne : first.1 ≠ member.1 :=
            fun heq => h.1 (heq ▸ List.mem_map_of_mem hrest)
          simpa [hne] using ih h.2 hrest
  rw [slot?, honly]

/-- The slots of a record that is written with its members in declared order. -/
theorem slots?_object {names : List String}
    (hnames : members.map Prod.fst = names) (hnodup : names.Nodup) :
    slots? names (.object members) =
      some (members.map fun member => .given member.2) := by
  subst hnames
  have hpart : ∀ part : List (String × Json),
      (∀ member ∈ part, member ∈ members) →
      (part.map Prod.fst).mapM (slot? members) =
        some (part.map fun member => .given member.2) := by
    intro part
    induction part with
    | nil => exact fun _ => rfl
    | cons member rest ih =>
        intro hmembers
        have hslot := slot?_of_mem hnodup (hmembers member List.mem_cons_self)
        have hrest :=
          ih fun other hother => hmembers other (List.mem_cons_of_mem _ hother)
        simp [hslot, hrest]
  exact hpart members fun _ hmember => hmember

end Slots

section Parts

variable {α : Type} {write : α → Json} {read : Json → Option α} {f : α → α}

/-- An array is exact if all of its items are. -/
theorem exact_array {items : List Json} :
    (array items).Exact ↔ ∀ item ∈ items, item.Exact :=
  exactItems_iff

/-- A list, each item written alike. -/
theorem exact_list {list : List α} (h : ∀ a ∈ list, (write a).Exact) :
    (array (list.map write)).Exact := by
  rw [exact_array]
  intro item hitem
  obtain ⟨a, ha, rfl⟩ := List.mem_map.mp hitem
  exact h a ha

/-- A list of texts is exact, whatever the texts are. -/
theorem exact_strings (list : List String) : (strings list).Exact :=
  exact_list fun _ _ => trivial

/-- An optional part is exact if it is exact when it is there. -/
theorem exact_option {value : Option α}
    (h : ∀ a, value = some a → (write a).Exact) :
    (option write value).Exact := by
  cases value with
  | none => trivial
  | some a => exact h a rfl

/-- A list is read item by item. -/
theorem list?_map {list : List α}
    (h : ∀ a ∈ list, read (write a) = some (f a)) :
    list? read (array (list.map write)) = some (list.map f) := by
  rw [list?, List.mapM_map]
  induction list with
  | nil => rfl
  | cons a rest ih =>
      have hrest := ih fun b hb => h b (List.mem_cons_of_mem _ hb)
      simp [h a List.mem_cons_self, hrest]

/-- A list of texts is read as it was written. -/
theorem list?_strings (list : List String) :
    list? string? (strings list) = some list := by
  have hlist : list? string? (strings list) = some (list.map id) :=
    list?_map fun _ _ => rfl
  rwa [List.map_id] at hlist

/-- What may be missing is read as missing exactly if it is. -/
theorem readOption_option {value : Option α} (hnull : read .null = none)
    (h : ∀ a, value = some a → read (write a) = some (f a)) :
    Slot.readOption read (option write value) = some (value.map f) := by
  cases value with
  | none => rfl
  | some a =>
      have hread := h a rfl
      have hwritten : write a ≠ .null := by
        intro heq
        rw [heq, hnull] at hread
        cases hread
      rw [option, Slot.readOption, hread]
      · rfl
      · exact hwritten

end Parts

/-- A signed integer of a number of bits. -/
def IsSigned (bits : Nat) (i : Int) : Prop :=
  -(Nat.pow 2 (bits - 1) : Nat) ≤ i ∧ i < (Nat.pow 2 (bits - 1) : Nat)

/-- A natural number of 64 bits. -/
def IsNatural (n : Nat) : Prop :=
  n ≤ Numeral.wordMax

section Integers

variable {i : Int} {n : Nat}

/-- A number of at most 64 bits is exact. -/
theorem exact_signed {bits : Nat} (hbits : bits ≤ 64) (h : IsSigned bits i) :
    (integer i).Exact := by
  have hpow : Nat.pow 2 (bits - 1) ≤ Nat.pow 2 63 :=
    Nat.pow_le_pow_right (by decide) (by omega)
  have htop : Nat.pow 2 63 ≤ Numeral.wordMax := by decide
  obtain ⟨hlow, hhigh⟩ := h
  show -((Nat.pow 2 63 : Nat) : Int) ≤ i ∧ i ≤ Numeral.wordMax
  omega

/-- A signed number is read if it fits the bits of its field. -/
theorem signed?_integer {bits : Nat} (h : IsSigned bits i) :
    signed? bits (integer i) = some i := by
  obtain ⟨hlow, hhigh⟩ := h
  exact if_pos ⟨hlow, by omega⟩

/-- A count that fits a word is exact. -/
theorem exact_natural (h : IsNatural n) : (Diff.natural n).Exact := by
  have hcast : (n : Int) ≤ Numeral.wordMax := Int.ofNat_le.mpr h
  show -((Nat.pow 2 63 : Nat) : Int) ≤ (n : Int) ∧ (n : Int) ≤ Numeral.wordMax
  omega

/-- A count is read as it was written. -/
theorem natural?_natural (h : IsNatural n) :
    natural? (Diff.natural n) = some n := by
  have hcast : (n : Int) ≤ Numeral.wordMax := Int.ofNat_le.mpr h
  have hread :
      integerIn? 0 (Nat.pow 2 64 - 1 : Nat) (Diff.natural n) = some (n : Int) :=
    if_pos ⟨by omega, hcast⟩
  rw [natural?, hread]
  rfl

end Integers

end Json

/-! ### Declarations -/

namespace ParameterType

/-- The name of a type is read as that type. -/
theorem ofJson?_toJson (type : ParameterType) :
    ofJson? type.toJson = some type :=
  find?_name type

end ParameterType

namespace ParameterDef

/-- A declaration whose default, if it has one, is written with integers
only. -/
def Fits (param : ParameterDef) : Prop :=
  ∀ value, param.defaultValue = some value → value.isWhole ∧ value.isOrdered

/-- A declaration with every negative zero in its default made the positive
one. -/
def canonical (param : ParameterDef) : ParameterDef :=
  { param with defaultValue := param.defaultValue.map Value.canonical }

variable {param : ParameterDef}

/-- The document of a declaration is exact. -/
theorem exact_toJson (h : param.Fits) : param.toJson.Exact :=
  ⟨trivial, trivial, trivial, trivial,
    Json.exact_option fun value hvalue => Value.exact_toJson (h value hvalue).1,
    trivial⟩

/-- A declaration is read as itself with a canonical default. -/
theorem ofJson?_toJson (h : param.Fits) :
    ofJson? param.toJson = some param.canonical := by
  have hdefault :
      Slot.readOption Value.ofJson?
        (Json.option Value.toJson param.defaultValue) =
      some (param.defaultValue.map Value.canonical) :=
    Json.readOption_option rfl fun value hvalue =>
      Value.ofJson?_toJson (h value hvalue).1 (h value hvalue).2
  rw [ofJson?, toJson, Json.slots?_object]
  case hnames => rfl
  case hnodup => decide
  simp [Slot.required, Slot.orElse, Slot.nullableOrCut, hdefault, Json.string?,
    Json.bool?, ParameterType.ofJson?_toJson, canonical]

/-- A declaration is equal to the one it is read as. -/
theorem same_canonical (h : param.Fits) : param.canonical.same param := by
  have hdefault :
      (param.defaultValue.map Value.canonical == param.defaultValue) =
        true := by
    cases hvalue : param.defaultValue with
    | none => rfl
    | some value =>
        exact Value.same_canonical
          (Value.isFinite_of_isWhole (h value hvalue).1)
  simp [same, canonical, hdefault]

end ParameterDef

namespace Diff

/-! ### Entries and sides -/

/-- The name of a status is read as that status. -/
theorem Status.ofJson?_toJson (status : Status) :
    ofJson? status.toJson = some status := by
  cases status <;> decide

/-- An entry whose places fit. -/
structure Entry.Fits (entry : Entry) : Prop where
  old : ∀ place, entry.oldPosition = some place → Json.IsNatural place
  new : ∀ place, entry.newPosition = some place → Json.IsNatural place

/-- The position of an entry is exact. -/
theorem exact_place {position : Option Nat}
    (h : ∀ place, position = some place → Json.IsNatural place) :
    (Json.option natural position).Exact :=
  Json.exact_option fun place hplace => Json.exact_natural (h place hplace)

/-- A position is read as it was written, and none if there was none. -/
theorem readOption_place {position : Option Nat}
    (h : ∀ place, position = some place → Json.IsNatural place) :
    Slot.readOption Json.natural? (Json.option natural position) =
      some position := by
  have hread : Slot.readOption Json.natural? (Json.option natural position) =
      some (position.map id) :=
    Json.readOption_option rfl fun place hplace =>
      Json.natural?_natural (h place hplace)
  rwa [Option.map_id] at hread

/-- The document of an entry is exact. -/
theorem Entry.exact_toJson {entry : Entry} (h : entry.Fits) :
    entry.toJson.Exact :=
  ⟨trivial, trivial, exact_place h.old, exact_place h.new, trivial⟩

/-- An entry is read as it was written. -/
theorem Entry.ofJson?_toJson {entry : Entry} (h : entry.Fits) :
    ofJson? entry.toJson = some entry := by
  have hold := readOption_place h.old
  have hnew := readOption_place h.new
  rw [ofJson?, toJson, Json.slots?_object]
  case hnames => rfl
  case hnodup => decide
  simp [Slot.required, Slot.nullable, Status.ofJson?_toJson, Json.string?,
    hold, hnew]

/-- One side of a comparison that fits, and whose time is read as it was
printed. -/
structure Summary.Fits (summary : Summary) : Prop where
  id : Json.IsSigned 64 summary.id
  version : Json.IsSigned 32 summary.version
  createdAt : Timestamp.ofString? summary.createdAt.json =
    some summary.createdAt

/-- The document of a side is exact. -/
theorem Summary.exact_toJson {summary : Summary} (h : summary.Fits) :
    summary.toJson.Exact :=
  ⟨Json.exact_signed (by decide) h.id, Json.exact_signed (by decide) h.version,
    trivial, trivial, trivial, trivial⟩

/-- A side is read as it was written, its time included. -/
theorem Summary.ofJson?_toJson {summary : Summary} (h : summary.Fits) :
    ofJson? summary.toJson = some summary := by
  have hid : Json.int64? (.integer summary.id) = some summary.id :=
    Json.signed?_integer h.id
  have hversion :
      Json.int32? (.integer summary.version) = some summary.version :=
    Json.signed?_integer h.version
  have htime :
      Timestamp.ofJson? summary.createdAt.toJson = some summary.createdAt := by
    rw [Timestamp.ofJson?, Timestamp.toJson, Json.string?, Option.bind_some,
      h.createdAt]
  rw [ofJson?, toJson, Json.slots?_object]
  case hnames => rfl
  case hnodup => decide
  simp [Slot.required, Json.string?, Json.bool?, hid, hversion, htime]

/-! ### Content and category -/

/-- Lines and words whose places fit. -/
structure ContentDiff.Fits (diff : ContentDiff) : Prop where
  lines : ∀ entry ∈ diff.lines, entry.Fits
  words : ∀ entry ∈ diff.words, entry.Fits

/-- Entries are read one by one. -/
theorem list?_entries {entries : List Entry}
    (h : ∀ entry ∈ entries, entry.Fits) :
    Json.list? Entry.ofJson? (.array (entries.map Entry.toJson)) =
      some entries := by
  have hread : Json.list? Entry.ofJson? (.array (entries.map Entry.toJson)) =
      some (entries.map id) :=
    Json.list?_map fun entry hentry => Entry.ofJson?_toJson (h entry hentry)
  rwa [List.map_id] at hread

/-- The document of the changes of the content is exact. -/
theorem ContentDiff.exact_toJson {diff : ContentDiff} (h : diff.Fits) :
    diff.toJson.Exact :=
  ⟨trivial, Json.exact_list
    fun entry hentry => Entry.exact_toJson (h.lines entry hentry),
    Json.exact_list fun entry hentry => Entry.exact_toJson
      (h.words entry hentry), trivial⟩

/-- The changes of the content are read as they were written. -/
theorem ContentDiff.ofJson?_toJson {diff : ContentDiff} (h : diff.Fits) :
    ofJson? diff.toJson = some diff := by
  have hlines := list?_entries h.lines
  have hwords := list?_entries h.words
  rw [ofJson?, toJson, Json.slots?_object]
  case hnames => rfl
  case hnodup => decide
  simp [Slot.required, Json.bool?, hlines, hwords]

/-- The document of a change of category is exact. -/
theorem CategoryChange.exact_toJson (change : CategoryChange) :
    change.toJson.Exact :=
  ⟨trivial, trivial, trivial⟩

/-- A change of category is read as it was written. -/
theorem CategoryChange.ofJson?_toJson (change : CategoryChange) :
    ofJson? change.toJson = some change := by
  rw [ofJson?, toJson, Json.slots?_object]
  case hnames => rfl
  case hnodup => decide
  simp [Slot.required, Json.string?]

/-! ### Declarations and tags of two versions -/

/-- A changed declaration both sides of which fit. -/
structure ParameterChange.Fits (change : ParameterChange) : Prop where
  before : change.before.Fits
  after : change.after.Fits

/-- A changed declaration with every negative zero made the positive one. -/
def ParameterChange.canonical (change : ParameterChange) : ParameterChange :=
  { change with
    before := change.before.canonical
    after := change.after.canonical }

/-- The document of a changed declaration is exact. -/
theorem ParameterChange.exact_toJson {change : ParameterChange}
    (h : change.Fits) :
    change.toJson.Exact :=
  ⟨trivial, ParameterDef.exact_toJson h.before,
    ParameterDef.exact_toJson h.after, Json.exact_strings _, trivial⟩

/-- A changed declaration is read with both of its defaults canonical. -/
theorem ParameterChange.ofJson?_toJson {change : ParameterChange}
    (h : change.Fits) :
    ofJson? change.toJson = some change.canonical := by
  have hbefore := ParameterDef.ofJson?_toJson h.before
  have hafter := ParameterDef.ofJson?_toJson h.after
  have hfields := Json.list?_strings change.changedFields
  rw [ofJson?, toJson, Json.slots?_object]
  case hnames => rfl
  case hnodup => decide
  simp [Slot.required, Json.string?, hbefore, hafter, hfields, canonical]

/-- The declarations of two versions, all of which fit. -/
structure ParameterDiff.Fits (diff : ParameterDiff) : Prop where
  added : ∀ param ∈ diff.added, param.Fits
  removed : ∀ param ∈ diff.removed, param.Fits
  modified : ∀ change ∈ diff.modified, change.Fits

/-- The declarations of two versions with every negative zero made the positive
one. -/
def ParameterDiff.canonical (diff : ParameterDiff) : ParameterDiff :=
  { diff with
    added := diff.added.map ParameterDef.canonical
    removed := diff.removed.map ParameterDef.canonical
    modified := diff.modified.map ParameterChange.canonical }

/-- The document of the changes of declarations is exact. -/
theorem ParameterDiff.exact_toJson {diff : ParameterDiff} (h : diff.Fits) :
    diff.toJson.Exact :=
  ⟨Json.exact_list
    fun param hparam => ParameterDef.exact_toJson (h.added param hparam),
    Json.exact_list fun param hparam => ParameterDef.exact_toJson
      (h.removed param hparam),
    Json.exact_list fun change hchange => ParameterChange.exact_toJson
      (h.modified change hchange),
    Json.exact_strings _, trivial⟩

/-- Declarations are read one by one. -/
theorem list?_declarations {params : List ParameterDef}
    (h : ∀ param ∈ params, param.Fits) :
    Json.list? ParameterDef.ofJson? (.array (params.map ParameterDef.toJson)) =
      some (params.map ParameterDef.canonical) :=
  Json.list?_map fun param hparam =>
    ParameterDef.ofJson?_toJson (h param hparam)

/-- The changes of declarations are read with canonical defaults. -/
theorem ParameterDiff.ofJson?_toJson {diff : ParameterDiff} (h : diff.Fits) :
    ofJson? diff.toJson = some diff.canonical := by
  have hadded := list?_declarations h.added
  have hremoved := list?_declarations h.removed
  have hmodified : Json.list? ParameterChange.ofJson?
      (.array (diff.modified.map ParameterChange.toJson)) =
        some (diff.modified.map ParameterChange.canonical) :=
    Json.list?_map fun change hchange =>
      ParameterChange.ofJson?_toJson (h.modified change hchange)
  have hunchanged := Json.list?_strings diff.unchanged
  rw [ofJson?, toJson, Json.slots?_object]
  case hnames => rfl
  case hnodup => decide
  simp [Slot.required, hadded, hremoved, hmodified, hunchanged, canonical]

/-- The document of the changes of tags is exact. -/
theorem TagDiff.exact_toJson (diff : TagDiff) : diff.toJson.Exact :=
  ⟨Json.exact_strings _, Json.exact_strings _, Json.exact_strings _, trivial⟩

/-- The changes of tags are read as they were written. -/
theorem TagDiff.ofJson?_toJson (diff : TagDiff) :
    ofJson? diff.toJson = some diff := by
  rw [ofJson?, toJson, Json.slots?_object]
  case hnames => rfl
  case hnodup => decide
  simp [Slot.required, Json.list?_strings]

/-! ### Counts and the comparison -/

/-- Counts that fit. -/
structure Stats.Fits (stats : Stats) : Prop where
  linesAdded : Json.IsNatural stats.linesAdded
  linesRemoved : Json.IsNatural stats.linesRemoved
  linesUnchanged : Json.IsNatural stats.linesUnchanged
  wordsAdded : Json.IsNatural stats.wordsAdded
  wordsRemoved : Json.IsNatural stats.wordsRemoved
  charDelta : Json.IsSigned 64 stats.charDelta
  parametersAdded : Json.IsNatural stats.parametersAdded
  parametersRemoved : Json.IsNatural stats.parametersRemoved
  parametersModified : Json.IsNatural stats.parametersModified
  tagsAdded : Json.IsNatural stats.tagsAdded
  tagsRemoved : Json.IsNatural stats.tagsRemoved
  totalChanges : Json.IsNatural stats.totalChanges

/-- The document of the counts is exact if each fits its field. -/
theorem Stats.exact_toJson {stats : Stats} (h : stats.Fits) :
    stats.toJson.Exact :=
  ⟨Json.exact_natural h.linesAdded, Json.exact_natural h.linesRemoved,
    Json.exact_natural h.linesUnchanged, Json.exact_natural h.wordsAdded,
    Json.exact_natural h.wordsRemoved,
    Json.exact_signed (by decide) h.charDelta,
    Json.exact_natural h.parametersAdded,
    Json.exact_natural h.parametersRemoved,
    Json.exact_natural h.parametersModified, Json.exact_natural h.tagsAdded,
    Json.exact_natural h.tagsRemoved, trivial,
    Json.exact_natural h.totalChanges, trivial⟩

/-- The counts are read as they were written. -/
theorem Stats.ofJson?_toJson {stats : Stats} (h : stats.Fits) :
    ofJson? stats.toJson = some stats := by
  have hdelta : Json.int64? (.integer stats.charDelta) = some stats.charDelta :=
    Json.signed?_integer h.charDelta
  rw [ofJson?, toJson, Json.slots?_object]
  case hnames => rfl
  case hnodup => decide
  -- rewritten field by field: simplifying this many nested binds takes too long
  dsimp only [List.map, Slot.required, Option.bind_eq_bind, Option.bind_some,
    Json.bool?]
  rw [Json.natural?_natural h.linesAdded, Json.natural?_natural h.linesRemoved,
    Json.natural?_natural h.linesUnchanged, Json.natural?_natural h.wordsAdded,
    Json.natural?_natural h.wordsRemoved, hdelta,
    Json.natural?_natural h.parametersAdded,
    Json.natural?_natural h.parametersRemoved,
    Json.natural?_natural h.parametersModified,
    Json.natural?_natural h.tagsAdded, Json.natural?_natural h.tagsRemoved,
    Json.natural?_natural h.totalChanges]
  rfl

/-- A comparison all of which fits. -/
structure Comparison.Fits (c : Comparison) : Prop where
  older : c.older.Fits
  newer : c.newer.Fits
  content : c.content.Fits
  parameters : c.parameters.Fits
  stats : c.stats.Fits

/-- A comparison with every negative zero in a default made the positive one. -/
def Comparison.canonical (c : Comparison) : Comparison :=
  { c with parameters := c.parameters.canonical }

/-- The document of a comparison is exact. -/
theorem Comparison.exact_toJson {c : Comparison} (h : c.Fits) :
    c.toJson.Exact :=
  ⟨trivial, Summary.exact_toJson h.older, Summary.exact_toJson h.newer,
    ContentDiff.exact_toJson h.content,
    Json.exact_option fun change _ => CategoryChange.exact_toJson change,
    ParameterDiff.exact_toJson h.parameters, TagDiff.exact_toJson c.tags,
    Stats.exact_toJson h.stats, trivial⟩

/-- A comparison is read as itself with canonical defaults. -/
theorem Comparison.ofJson?_toJson {c : Comparison} (h : c.Fits) :
    ofJson? c.toJson = some c.canonical := by
  have hcategory : Slot.readOption CategoryChange.ofJson?
      (Json.option CategoryChange.toJson c.category) =
        some (c.category.map id) :=
    Json.readOption_option rfl fun change _ =>
      CategoryChange.ofJson?_toJson change
  rw [Option.map_id, id] at hcategory
  rw [ofJson?, toJson, Json.slots?_object]
  case hnames => rfl
  case hnodup => decide
  simp [Slot.required, Slot.nullable, Json.string?,
    Summary.ofJson?_toJson h.older, Summary.ofJson?_toJson h.newer,
    ContentDiff.ofJson?_toJson h.content, hcategory,
    ParameterDiff.ofJson?_toJson h.parameters, TagDiff.ofJson?_toJson,
    Stats.ofJson?_toJson h.stats, canonical]

/-- **A comparison by way of its text.** -/
theorem Comparison.ofString?_pretty {c : Comparison} (h : c.Fits)
    (hdepth : c.toJson.depth ≤ Json.depthLimit) :
    (Json.ofString? c.toJson.pretty).bind ofJson? = some c.canonical := by
  rw [Json.ofString?_pretty (exact_toJson h) hdepth]
  exact ofJson?_toJson h

end Diff

end TemplateRegistry
