import TemplateRegistry.Proofs.AlignedRows
import TemplateRegistry.Report.Html
/-!
# Markup and slots of the HTML report

The page is markup and slots, and every text of a user is in a slot.  What the
markup is depends on the outline of a comparison alone: on how many lines,
declarations, changes and tags there are, on numbers, statuses and types.  A
slot is written without angle brackets and quotes, and what is written in it can
be read back.  So a reader of the page finds the same tags in it, whatever the
texts are.

* `Comparison.outline`, `Comparison.shownTexts` — a comparison without its
  texts, and the texts that the page shows;
* `decode_escape`, `isPlain_escape` — the text of a slot;
* `parts_outline` — the markup is that of the outline;
* `slot_mem_parts_iff` — the slots hold the texts shown;
* `tags_write` — the tags of a page are those of its markup;
* `page_not_injectable` — all of this in one statement.
-/

namespace TemplateRegistry

/-! ### Comparisons without texts -/

/-- A declaration of which only the type is left. -/
def ParameterDef.outline (param : ParameterDef) : ParameterDef where
  name := ""
  description := ""
  required := false
  type := param.type
  defaultValue := none

namespace Diff

/-- An entry without its text. -/
def Entry.outline (entry : Entry) : Entry :=
  { entry with text := "" }

/-- A side of a comparison of which only the version number is left. -/
def Summary.outline (side : Summary) : Summary where
  id := 0
  version := side.version
  isActive := false
  createdBy := ""
  createdAt := ⟨0, 0⟩

/-- A changed declaration of which only the number of changed fields is left. -/
def ParameterChange.outline (change : ParameterChange) : ParameterChange where
  name := ""
  before := change.before.outline
  after := change.after.outline
  changedFields := change.changedFields.map fun _ => ""

/-- The changes of declarations without their texts. -/
def ParameterDiff.outline (diff : ParameterDiff) : ParameterDiff where
  added := diff.added.map ParameterDef.outline
  removed := diff.removed.map ParameterDef.outline
  modified := diff.modified.map ParameterChange.outline
  unchanged := []

/-- The changes of tags, of which only the numbers are left. -/
def TagDiff.outline (diff : TagDiff) : TagDiff where
  added := diff.added.map fun _ => ""
  removed := diff.removed.map fun _ => ""
  unchanged := []

/-- The shape of a comparison: how much there is of everything that a report
shows, with the numbers, statuses and types, and without any text of a user. -/
def Comparison.outline (c : Comparison) : Comparison where
  templateName := ""
  older := c.older.outline
  newer := c.newer.outline
  content := ⟨false, c.content.lines.map Entry.outline, []⟩
  category := c.category.map fun _ => ⟨"", ""⟩
  parameters := c.parameters.outline
  tags := c.tags.outline
  stats := c.stats

/-- The texts of a user that a report shows of a declaration. -/
def shownOfParameter (param : ParameterDef) : List String :=
  [param.name, param.description]

/-- The texts of a user that a report shows: the name of the template, the
lines, the categories, names and descriptions of declarations that came or went,
the names and the changed fields of the others, and the tags that came or
went. -/
def Comparison.shownTexts (c : Comparison) : List String :=
  c.templateName :: (c.content.lines.map Entry.text ++
    c.category.toList.flatMap (fun change => [change.before, change.after]) ++
    (c.parameters.added ++ c.parameters.removed).flatMap shownOfParameter ++
    c.parameters.modified.flatMap (fun change =>
      change.name :: change.changedFields) ++
    c.tags.added ++ c.tags.removed)

end Diff

namespace Report

open Diff

/-- A row without its texts. -/
def Row.outline (row : Row) : Row :=
  ⟨row.old.map Entry.outline, row.new.map Entry.outline⟩

/-- Entries are put into rows by their statuses. -/
theorem sideBySide_outline (entries : List Entry) :
    sideBySide (entries.map Entry.outline) =
      (sideBySide entries).map Row.outline := by
  fun_induction sideBySide entries with
  | case1 => rfl
  | _ => simp_all [sideBySide, Row.outline, Entry.outline]

namespace Html

/-! ### Slots -/

/-- A character that could end the text of a slot or an attribute. -/
def IsSpecial (c : Char) : Prop :=
  c = '<' ∨ c = '>' ∨ c = '"' ∨ c = '\''

instance (c : Char) : Decidable (IsSpecial c) :=
  inferInstanceAs (Decidable (_ ∨ _))

/-- A text without such characters. -/
def IsPlain (s : List Char) : Prop :=
  ∀ c ∈ s, ¬ IsSpecial c

instance (s : List Char) : Decidable (IsPlain s) :=
  List.decidableBAll _ s

/-- A text with the entities of the five escaped characters read. -/
def decode : List Char → List Char
  | '&' :: 'a' :: 'm' :: 'p' :: ';' :: rest => '&' :: decode rest
  | '&' :: 'l' :: 't' :: ';' :: rest => '<' :: decode rest
  | '&' :: 'g' :: 't' :: ';' :: rest => '>' :: decode rest
  | '&' :: 'q' :: 'u' :: 'o' :: 't' :: ';' :: rest => '"' :: decode rest
  | '&' :: '#' :: '3' :: '9' :: ';' :: rest => '\'' :: decode rest
  | c :: rest => c :: decode rest
  | [] => []

/-- Only an ampersand starts an entity. -/
theorem decode_cons {c : Char} (h : c ≠ '&') (rest : List Char) :
    decode (c :: rest) = c :: decode rest := by
  rw [decode.eq_def (c :: rest)]
  split <;> simp_all

/-- A character is one of the five that are written as entities, or written as
it is. -/
theorem escapeChar_cases (c : Char) :
    c = '&' ∨ c = '<' ∨ c = '>' ∨ c = '"' ∨ c = '\'' ∨
      (escapeChar c = [c] ∧ c ≠ '&' ∧ ¬ IsSpecial c) := by
  by_cases hamp : c = '&'
  · exact Or.inl hamp
  by_cases hspecial : IsSpecial c
  · exact Or.inr (hspecial.imp_right (Or.imp_right (Or.imp_right Or.inl)))
  · have hself : escapeChar c = [c] := by
      obtain ⟨hlt, hgt, hquot, hapos⟩ :
          c ≠ '<' ∧ c ≠ '>' ∧ c ≠ '"' ∧ c ≠ '\'' := by
        simpa only [IsSpecial, not_or] using hspecial
      rw [escapeChar, if_neg hamp, if_neg hlt, if_neg hgt, if_neg hquot,
        if_neg hapos]
    exact Or.inr (Or.inr (Or.inr (Or.inr (Or.inr ⟨hself, hamp, hspecial⟩))))

/-- A text is escaped character by character. -/
theorem toList_escape (s : String) :
    (escape s).toList = s.toList.flatMap escapeChar :=
  String.toList_ofList

/-- **What is written in a slot can be read back**, entities that were in the
text included. -/
theorem decode_escape (s : String) : decode (escape s).toList = s.toList := by
  rw [toList_escape]
  induction s.toList with
  | nil => rfl
  | cons c rest ih =>
      rw [List.flatMap_cons]
      rcases escapeChar_cases c with rfl | rfl | rfl | rfl | rfl | ⟨hc, hamp, -⟩
      · exact congrArg ('&' :: ·) ih
      · exact congrArg ('<' :: ·) ih
      · exact congrArg ('>' :: ·) ih
      · exact congrArg ('"' :: ·) ih
      · exact congrArg ('\'' :: ·) ih
      · rw [hc, List.singleton_append, decode_cons hamp, ih]

/-- What a character is written as has nothing special in it. -/
theorem isPlain_escapeChar (c : Char) : IsPlain (escapeChar c) := by
  rcases escapeChar_cases c with rfl | rfl | rfl | rfl | rfl |
    ⟨hself, -, hplain⟩
  · decide
  · decide
  · decide
  · decide
  · decide
  · rw [hself]
    exact List.forall_mem_singleton.mpr hplain

/-- **Nothing in a slot is special.** -/
theorem isPlain_escape (s : String) : IsPlain (escape s).toList := by
  rw [toList_escape]
  intro c hc
  obtain ⟨d, -, hd⟩ := List.mem_flatMap.mp hc
  exact isPlain_escapeChar d c hd

/-! ### Markup -/

/-- A part with its slot emptied. -/
def Part.emptied : Part → Part
  | .markup text => .markup text
  | .slot _ => .slot ""

/-- One side of a row: its position and its status are in the outline, its text
is in a slot. -/
theorem cell_outline (position : Entry → Option Nat)
    (hposition : ∀ entry : Entry, position entry.outline = position entry)
    (side : Option Entry) :
    cell position (side.map Entry.outline) =
      (cell position side).map Part.emptied := by
  cases side with
  | none => rfl
  | some entry =>
      simp only [Option.map_some, cell, hposition]
      rfl

/-- A row of an outline is the row with its slots emptied. -/
theorem row_outline (r : Row) : row r.outline = (row r).map Part.emptied := by
  simp only [row, Row.outline, cell_outline Entry.oldPosition fun _ => rfl,
    cell_outline Entry.newPosition fun _ => rfl, List.map_cons, List.map_append,
    List.map_nil]
  rfl

/-- Commas stand between texts however long they are. -/
theorem commaSeparated_outline (texts : List String) :
    commaSeparated (texts.map fun _ => "") =
      (commaSeparated texts).map Part.emptied := by
  fun_induction commaSeparated texts with
  | case1 => rfl
  | case2 text => rfl
  | case3 text next rest ih =>
      simpa [commaSeparated, Part.emptied] using ih

/-- The item of a changed declaration depends on how many fields changed. -/
theorem changeItem_outline (change : ParameterChange) :
    changeItem change.outline = (changeItem change).map Part.emptied := by
  simp only [changeItem, ParameterChange.outline, commaSeparated_outline,
    List.map_cons, List.map_append, List.map_nil, Part.emptied]

/-- Items one by one. -/
theorem flatMap_outline {α : Type} {item : α → List Part} {outline : α → α}
    (h : ∀ a, item (outline a) = (item a).map Part.emptied) (items : List α) :
    (items.map outline).flatMap item =
      (items.flatMap item).map Part.emptied := by
  rw [List.flatMap_map, List.map_flatMap]
  exact congrArg (items.flatMap ·) (funext h)

/-- The item of a declaration shows no more than its type outside of slots. -/
theorem parameterItem_outline (param : ParameterDef) :
    parameterItem param.outline = (parameterItem param).map Part.emptied := rfl

/-- A list of declarations has a heading unless there are none. -/
theorem parameterList_outline (title : String) (params : List ParameterDef) :
    parameterList title (params.map ParameterDef.outline) =
      (parameterList title params).map Part.emptied := by
  unfold parameterList
  rw [List.isEmpty_map, flatMap_outline parameterItem_outline]
  split <;> simp [Part.emptied]

/-- The table of the content has the rows of the entries. -/
theorem content_outline (c : Comparison) :
    content c.outline = (content c).map Part.emptied := by
  have hrows := flatMap_outline row_outline (sideBySide c.content.lines)
  rw [← sideBySide_outline] at hrows
  simp only [content, List.map_cons, List.map_append, ← hrows]
  rfl

/-- The section on the category is there if the category changed. -/
theorem category_outline (change : Option CategoryChange) :
    category (change.map fun _ => ⟨"", ""⟩) =
      (category change).map Part.emptied := by
  cases change <;> rfl

/-- The section on the declarations, by which kinds of changes there are. -/
theorem parameters_outline (diff : ParameterDiff) :
    parameters diff.outline = (parameters diff).map Part.emptied := by
  have hempty : diff.outline.isEmpty = diff.isEmpty := by
    simp [ParameterDiff.isEmpty, ParameterDiff.outline]
  unfold parameters
  rw [hempty]
  split
  · rfl
  · simp only [ParameterDiff.outline, parameterList_outline, List.isEmpty_map,
      flatMap_outline changeItem_outline, List.map_cons, List.map_append,
      Part.emptied]
    split <;> simp [Part.emptied]

/-- The section on the tags has one item for each. -/
theorem tags_outline (diff : TagDiff) :
    tags diff.outline = (tags diff).map Part.emptied := by
  have hempty : diff.outline.isEmpty = diff.isEmpty := by
    simp only [TagDiff.isEmpty, TagDiff.outline, List.isEmpty_map]
  unfold tags
  rw [hempty]
  split
  · rfl
  · simp only [TagDiff.outline, List.flatMap_map, List.map_flatMap,
      List.map_cons, List.map_append, List.map_nil, Part.emptied]

/-- **The markup is that of the outline.** -/
theorem parts_outline (c : Comparison) :
    parts c.outline = (parts c).map Part.emptied := by
  have hhead : head c.outline = (head c).map Part.emptied := rfl
  have hsummary : summary c.outline = (summary c).map Part.emptied := rfl
  have hcategory := category_outline c.category
  have hparameters := parameters_outline c.parameters
  have htags := tags_outline c.tags
  simp only [parts, List.map_append, hhead, hsummary, content_outline,
    ← hcategory, ← hparameters, ← htags]
  rfl

/-! ### The texts in the slots -/

variable {text : String}

/-- The slot of a cell holds the text of its entry. -/
theorem slot_mem_cell {position : Entry → Option Nat} {side : Option Entry} :
    .slot text ∈ cell position side ↔
      ∃ entry, side = some entry ∧ entry.text = text := by
  cases side <;> simp [cell, eq_comm]

/-- The slots of a row hold the texts of the entries it is read as. -/
theorem slot_mem_row {r : Row} :
    .slot text ∈ row r ↔ text ∈ r.read.map Entry.text := by
  have hsides : .slot text ∈ row r ↔
      ∃ entry, (r.old = some entry ∨ r.new = some entry) ∧
        entry.text = text := by
    simp [row, slot_mem_cell, or_and_right, exists_or]
  obtain ⟨left, right⟩ := r
  rw [hsides]
  cases left <;> cases right <;> simp only [Row.read]
  case some.some => split <;> simp_all [eq_comm]
  all_goals simp [eq_comm]

/-- Every line is on one side of a row or on both. -/
theorem slot_mem_rows {entries : List Entry} :
    .slot text ∈ (sideBySide entries).flatMap row ↔
      text ∈ entries.map Entry.text :=
  calc .slot text ∈ (sideBySide entries).flatMap row
      ↔ text ∈ (sideBySide entries).flatMap fun r => r.read.map Entry.text := by
        simp only [List.mem_flatMap, slot_mem_row]
    _ ↔ text ∈ entries.map Entry.text := by
        rw [← List.map_flatMap, flatMap_read_sideBySide]

/-- A slot for each of the texts between the commas. -/
theorem slot_mem_commaSeparated {texts : List String} :
    .slot text ∈ commaSeparated texts ↔ text ∈ texts := by
  fun_induction commaSeparated texts with
  | case1 => simp
  | case2 only => simp
  | case3 first next rest ih => simp [ih]

/-- A list of declarations shows their names and descriptions. -/
theorem slot_mem_parameterList {title : String} {params : List ParameterDef} :
    .slot text ∈ parameterList title params ↔
      text ∈ params.flatMap shownOfParameter := by
  unfold parameterList
  split
  · simp_all
  · simp [parameterItem, shownOfParameter]

/-- A changed declaration is shown by its name and its changed fields. -/
theorem slot_mem_changeItem {change : ParameterChange} :
    .slot text ∈ changeItem change ↔
      text ∈ change.name :: change.changedFields := by
  simp [changeItem, slot_mem_commaSeparated]

/-- What the section on the declarations shows of each kind of change. -/
theorem slot_mem_parameters {diff : ParameterDiff} :
    .slot text ∈ parameters diff ↔
    text ∈ (diff.added ++ diff.removed).flatMap shownOfParameter ∨
      text ∈ diff.modified.flatMap fun change =>
        change.name :: change.changedFields := by
  unfold parameters
  split
  next hempty => simp_all [ParameterDiff.isEmpty]
  next =>
    simp only [List.mem_cons, reduceCtorEq, false_or, List.mem_append,
      slot_mem_parameterList, List.flatMap_append]
    split
    next hnone => simp_all
    next => simp [slot_mem_changeItem]

/-- The section on the tags shows those that came or went. -/
theorem slot_mem_tags {diff : TagDiff} :
    .slot text ∈ tags diff ↔ text ∈ diff.added ∨ text ∈ diff.removed := by
  unfold tags
  split
  next hempty => simp_all [TagDiff.isEmpty]
  next => simp

/-- **The slots hold the texts that the page shows**, all of them and nothing
else. -/
theorem slot_mem_parts_iff (c : Comparison) :
    .slot text ∈ parts c ↔ text ∈ c.shownTexts := by
  have hcategory : .slot text ∈ category c.category ↔
      text ∈ c.category.toList.flatMap fun change =>
        [change.before, change.after] := by
    cases c.category <;> simp [category]
  have hcontent :
      .slot text ∈ content c ↔ text ∈ c.content.lines.map Entry.text := by
    rw [← slot_mem_rows]
    simp [content]
  have hheadings : (.slot text ∈ head c ∨ .slot text ∈ summary c) ↔
      text = c.templateName := by
    simp [head, summary]
  have hend : Part.slot text ∉ [Part.markup "</body>\n</html>\n"] := by simp
  unfold parts Comparison.shownTexts
  simp only [List.mem_append, hheadings, hcontent, hcategory,
    slot_mem_parameters, slot_mem_tags, hend, or_false, List.mem_cons, or_assoc]

/-! ### The tags of the page -/

/-- What a reader of a page has come to: the tags so far, and what was read of
the tag that is open. -/
structure Reading where
  tags : List (List Char)
  inside : Option (List Char)

/-- A tag goes from an opening angle bracket to the next closing one. -/
def Reading.next (r : Reading) (c : Char) : Reading :=
  match r.inside with
  | none => if c = '<' then ⟨r.tags, some []⟩ else r
  | some tag =>
    if c = '>' then ⟨r.tags ++ [tag], none⟩ else ⟨r.tags, some (tag ++ [c])⟩

/-- What a reader has come to after a text. -/
def reading (s : List Char) : Reading :=
  s.foldl Reading.next ⟨[], none⟩

/-- The tags of a page. -/
def tagsIn (s : String) : List (List Char) :=
  (reading s.toList).tags

/-- A text that opens no tag without closing it. -/
def IsClosed (s : String) : Prop :=
  (reading s.toList).inside = none

instance (s : String) : Decidable (IsClosed s) :=
  inferInstanceAs (Decidable (_ = _))

/-- A literal is closed if reading its characters leaves no tag open. -/
theorem IsClosed.ofList {l : List Char} (h : (reading l).inside = none) :
    IsClosed (String.ofList l) := by
  rwa [IsClosed, String.toList_ofList]

/-- The tags before are left alone. -/
theorem foldl_next (s : List Char) (seen : List (List Char))
    (inside : Option (List Char)) :
    s.foldl Reading.next ⟨seen, inside⟩ =
      ⟨seen ++ (s.foldl Reading.next ⟨[], inside⟩).tags,
        (s.foldl Reading.next ⟨[], inside⟩).inside⟩ := by
  induction s generalizing seen inside with
  | nil => simp
  | cons c rest ih =>
      have hnext : Reading.next ⟨seen, inside⟩ c =
          ⟨seen ++ (Reading.next ⟨[], inside⟩ c).tags,
            (Reading.next ⟨[], inside⟩ c).inside⟩ := by
        cases inside <;> by_cases hc : c = '<' <;> by_cases hc' : c = '>' <;>
          simp [Reading.next, hc, hc']
      rw [List.foldl_cons, List.foldl_cons, hnext, ih,
        ih (Reading.next ⟨[], inside⟩ c).tags]
      simp

/-- After a text that leaves no tag open, the next one is read as from the
start. -/
theorem reading_append {s : String} (h : IsClosed s) (t : String) :
    reading (s ++ t).toList =
      ⟨tagsIn s ++ tagsIn t, (reading t.toList).inside⟩ := by
  have hs : reading s.toList = ⟨tagsIn s, none⟩ := by rw [← h]; rfl
  rw [String.toList_append, reading, List.foldl_append, ← reading, hs,
    foldl_next]
  rfl

/-- The tags of a text behind a closed one are found after its tags. -/
theorem tagsIn_append {s : String} (h : IsClosed s) (t : String) :
    tagsIn (s ++ t) = tagsIn s ++ tagsIn t :=
  congrArg Reading.tags (reading_append h t)

/-- Closed texts can be put together. -/
theorem IsClosed.append {s t : String} (hs : IsClosed s) (ht : IsClosed t) :
    IsClosed (s ++ t) :=
  (congrArg Reading.inside (reading_append hs t)).trans ht

/-- A text without an opening angle bracket has no tags. -/
theorem reading_of_not_mem {s : List Char} (h : '<' ∉ s) :
    reading s = ⟨[], none⟩ := by
  induction s with
  | nil => rfl
  | cons c rest ih =>
      obtain ⟨hc, hrest⟩ := List.ne_and_not_mem_of_not_mem_cons h
      have hnext : Reading.next ⟨[], none⟩ c = ⟨[], none⟩ := by
        simp only [Reading.next, if_neg (Ne.symm hc)]
      rw [reading, List.foldl_cons, hnext]
      exact ih hrest

/-- A text without an opening angle bracket is closed. -/
theorem isClosed_of_not_mem {s : String} (h : '<' ∉ s.toList) : IsClosed s :=
  congrArg Reading.inside (reading_of_not_mem h)

/-- A number is written in digits. -/
theorem isClosed_nat (n : Nat) : IsClosed (toString n) := by
  apply isClosed_of_not_mem
  intro hmem
  have hdigit : '<'.isDigit :=
    Nat.isDigit_of_mem_toDigits (by decide) (by decide) (Nat.toList_repr ▸ hmem)
  exact absurd hdigit (by decide)

/-- A signed number is written with digits and perhaps a hyphen. -/
theorem isClosed_int (i : Int) : IsClosed (toString i) := by
  cases i with
  | ofNat n => exact isClosed_nat n
  | negSucc n =>
      exact (IsClosed.ofList rfl : IsClosed "-").append (isClosed_nat (n + 1))

/-- Parts whose markup closes what it opens. -/
def AreClosed (parts : List Part) : Prop :=
  ∀ text, .markup text ∈ parts → IsClosed text

/-- A slot has no tags, whatever its text. -/
theorem reading_slot (text : String) :
    reading (Part.slot text).write.toList = ⟨[], none⟩ :=
  reading_of_not_mem fun hmem => isPlain_escape text _ hmem (Or.inl rfl)

/-- **The tags of a page** are those of its markup; no slot adds any. -/
theorem tags_write {parts : List Part} (h : AreClosed parts) :
    tagsIn (write parts) = tagsIn (write (parts.map Part.emptied)) := by
  induction parts with
  | nil => rfl
  | cons part rest ih =>
      have hrest := ih fun text hmem => h text (List.mem_cons_of_mem _ hmem)
      have hwrite : ∀ (p : Part) ps, write (p :: ps) = p.write ++ write ps :=
        fun _ _ => String.join_cons
      rw [List.map_cons, hwrite, hwrite]
      cases part with
      | markup text =>
          have hclosed : IsClosed text := h text List.mem_cons_self
          rw [Part.emptied, Part.write, tagsIn_append hclosed,
            tagsIn_append hclosed, hrest]
      | slot text =>
          have hclosed : ∀ text, IsClosed (Part.slot text).write := fun text =>
            congrArg Reading.inside (reading_slot text)
          have hnone : ∀ text, tagsIn (Part.slot text).write = [] := fun text =>
            congrArg Reading.tags (reading_slot text)
          rw [Part.emptied, tagsIn_append (hclosed _),
            tagsIn_append (hclosed _), hnone, hnone, hrest]

namespace AreClosed

theorem nil : AreClosed [] := by
  simp [AreClosed]

theorem append {ps qs : List Part} (hp : AreClosed ps) (hq : AreClosed qs) :
    AreClosed (ps ++ qs) := by
  intro text hmem
  exact (List.mem_append.mp hmem).elim (hp text) (hq text)

/-- A closed piece of markup in front. -/
theorem markup {text : String} {ps : List Part} (h : IsClosed text)
    (hp : AreClosed ps) :
    AreClosed (.markup text :: ps) := by
  intro other hmem
  rcases List.mem_cons.mp hmem with heq | hlater
  · rwa [Part.markup.inj heq]
  · exact hp other hlater

theorem slot {text : String} {ps : List Part} (hp : AreClosed ps) :
    AreClosed (.slot text :: ps) := by
  intro other hmem
  rcases List.mem_cons.mp hmem with heq | hlater
  · cases heq
  · exact hp other hlater

/-- Items one by one. -/
theorem flatMap {α : Type} {item : α → List Part} (h : ∀ a, AreClosed (item a))
    (items : List α) :
    AreClosed (items.flatMap item) := by
  intro text hmem
  obtain ⟨a, -, ha⟩ := List.mem_flatMap.mp hmem
  exact h a text ha

end AreClosed

/-- A change in length is written with its sign. -/
theorem isClosed_signed (i : Int) : IsClosed (signed i) := by
  unfold signed
  split
  · exact isClosed_int i
  · exact (IsClosed.ofList rfl : IsClosed "+").append (isClosed_int i)

/-- The two version numbers within a text. -/
theorem isClosed_versions {before between after : String}
    (hbefore : IsClosed before) (hbetween : IsClosed between)
    (hafter : IsClosed after) (i j : Int) :
    IsClosed (before ++ toString i ++ between ++ toString j ++ after) :=
  (((hbefore.append (isClosed_int i)).append hbetween).append
    (isClosed_int j)).append hafter

/-- The style sheet is closed, each of its rules for itself. -/
theorem isClosed_styleSheet : IsClosed styleSheet := by
  unfold styleSheet
  exact .append
    (.append (.append (.append (.ofList rfl) (.ofList rfl)) (.ofList rfl))
      (.ofList rfl)) (.ofList rfl)

/-- The head of the page, with the name of the template and both versions in its
title. -/
theorem areClosed_head (c : Comparison) : AreClosed (head c) :=
  .markup (.ofList rfl) <| .slot <|
    .markup (isClosed_versions (.ofList rfl) (.ofList rfl) (.ofList rfl) _ _) <|
    .markup isClosed_styleSheet <| .markup (.ofList rfl) .nil

/-- The heading and the counts below it. -/
theorem areClosed_summary (c : Comparison) : AreClosed (summary c) := by
  refine .markup (.ofList rfl) <| .slot <|
    .markup (isClosed_versions (.ofList rfl) (.ofList rfl) (.ofList rfl) _ _) <|
    .markup ?_ .nil
  have hcounts : ∀ {before between : String} (m n : Nat), IsClosed before →
      IsClosed between →
      IsClosed (before ++ toString m ++ between ++ toString n) :=
    fun m n hbefore hbetween =>
      ((hbefore.append (isClosed_nat m)).append hbetween).append
        (isClosed_nat n)
  -- the counts of lines, then those of words, then the change in characters
  refine .append (.append (.append ?_ ?_) (isClosed_signed _)) (.ofList rfl)
  · exact .append
      (.append (.append (hcounts _ _ (.ofList rfl) (.ofList rfl)) (.ofList rfl))
        (isClosed_nat _)) (.ofList rfl)
  · exact .append (hcounts _ _ (.ofList rfl) (.ofList rfl)) (.ofList rfl)

/-- A cell names the status of its entry inside of a tag, and closes that
tag. -/
theorem areClosed_cell (position : Entry → Option Nat) (side : Option Entry) :
    AreClosed (cell position side) := by
  cases side with
  | none => exact .markup (.ofList rfl) .nil
  | some entry =>
      refine .markup ?_ (.slot (.markup (.ofList rfl) .nil))
      -- the name of the status stands within a tag
      have hstatus : ∀ status : Status,
          IsClosed ("</td><td class=\"" ++ (status.name ++ "\">")) := by
        intro status
        cases status <;> decide
      rw [String.append_assoc, String.append_assoc]
      refine IsClosed.append (IsClosed.append (.ofList rfl) ?_)
        (hstatus entry.status)
      cases position entry with
      | none => exact .ofList rfl
      | some n => exact isClosed_nat n

/-- A row is two cells. -/
theorem areClosed_row (r : Row) : AreClosed (row r) :=
  .markup (.ofList rfl) <|
    ((areClosed_cell _ _).append (areClosed_cell _ _)).append <|
    .markup (.ofList rfl) .nil

/-- The table of the content, with the two versions in its heading. -/
theorem areClosed_content (c : Comparison) : AreClosed (content c) :=
  .markup (.ofList rfl) <|
    .markup (isClosed_versions (.ofList rfl) (.ofList rfl) (.ofList rfl) _ _) <|
    (AreClosed.flatMap areClosed_row _).append (.markup (.ofList rfl) .nil)

theorem areClosed_category (change : Option CategoryChange) :
    AreClosed (category change) := by
  cases change with
  | none => exact .nil
  | some change =>
      exact .markup (.ofList rfl) <| .slot <| .markup (.ofList rfl) <| .slot <|
        .markup (.ofList rfl) .nil

/-- A list of declarations names the type of each outside of any tag. -/
theorem areClosed_parameterList {title : String} (htitle : IsClosed title)
    (params : List ParameterDef) : AreClosed (parameterList title params) := by
  unfold parameterList
  split
  · exact .nil
  · refine .markup
      (IsClosed.append (IsClosed.append (.ofList rfl) htitle) (.ofList rfl)) <|
      (AreClosed.flatMap (fun param => ?_) _).append
        (.markup (.ofList rfl) .nil)
    have htype : IsClosed s!"</code> ({param.type.name}) " := by
      cases param.type <;> decide
    exact .markup (.ofList rfl) <| .slot <| .markup htype <| .slot <|
      .markup (.ofList rfl) .nil

theorem areClosed_commaSeparated (texts : List String) :
    AreClosed (commaSeparated texts) := by
  fun_induction commaSeparated texts with
  | case1 => exact .nil
  | case2 text => exact .slot .nil
  | case3 text next rest ih => exact .slot (.markup (.ofList rfl) ih)

theorem areClosed_changeItem (change : ParameterChange) :
    AreClosed (changeItem change) :=
  .markup (.ofList rfl) <| .slot <| .markup (.ofList rfl) <|
    (areClosed_commaSeparated _).append (.markup (.ofList rfl) .nil)

theorem areClosed_parameters (diff : ParameterDiff) :
    AreClosed (parameters diff) := by
  refine .markup (.ofList rfl) ?_
  split
  · exact .markup (.ofList rfl) .nil
  · refine ((areClosed_parameterList (.ofList rfl) _).append
      (areClosed_parameterList (.ofList rfl) _)).append ?_
    split
    · exact .nil
    · exact .markup (.ofList rfl) <|
        (AreClosed.flatMap areClosed_changeItem _).append
          (.markup (.ofList rfl) .nil)

/-- Tags of the template, each in an element of its own. -/
theorem areClosed_spans {opening : String} (h : IsClosed opening)
    (texts : List String) :
    AreClosed (texts.flatMap fun text =>
      [.markup opening, .slot text, .markup "</span>\n"]) :=
  .flatMap (fun _ => .markup h <| .slot <| .markup (.ofList rfl) .nil) texts

/-- The section on the tags of the template. -/
theorem areClosed_tags (diff : TagDiff) : AreClosed (tags diff) := by
  refine .markup (.ofList rfl) ?_
  split
  · exact .markup (.ofList rfl) .nil
  · exact (areClosed_spans (.ofList rfl) _).append
      (areClosed_spans (.ofList rfl) _)

/-- The markup of a page closes what it opens, part by part, so that every slot
is outside of any tag. -/
theorem areClosed_parts (c : Comparison) : AreClosed (parts c) :=
  ((((((areClosed_head c).append (areClosed_summary c)).append
    (areClosed_content c)).append (areClosed_category _)).append
    (areClosed_parameters _)).append (areClosed_tags _)).append
    (.markup (.ofList rfl) .nil)

/-- **Nothing can be put into the page but text.**  The page of a comparison is
written from markup and slots.  The markup is that of the outline of the
comparison, so two comparisons of one outline have the same markup, and a reader
finds the same tags in their pages.  The slots hold the texts that the page
shows and nothing else; each is written without angle brackets and quotes, and
is the text again once its entities are read. -/
theorem page_not_injectable (c : Comparison) :
    page c = write (parts c) ∧
    (parts c).map Part.emptied = parts c.outline ∧
    (∀ d : Comparison, d.outline = c.outline →
      (parts d).map Part.emptied = (parts c).map Part.emptied ∧
      tagsIn (page d) = tagsIn (page c)) ∧
    (∀ text, .slot text ∈ parts c ↔ text ∈ c.shownTexts) ∧
    ∀ text, .slot text ∈ parts c →
      (∀ special ∈ ['<', '>', '"', '\''],
        special ∉ (Part.slot text).write.toList) ∧
      decode (Part.slot text).write.toList = text.toList := by
  refine ⟨rfl, (parts_outline c).symm, fun d hd => ?_,
    fun text => slot_mem_parts_iff c, fun text _ =>
      ⟨fun special hspecial hmem => ?_, decode_escape text⟩⟩
  · have hmarkup : (parts d).map Part.emptied = (parts c).map Part.emptied := by
      rw [← parts_outline, ← parts_outline, hd]
    refine ⟨hmarkup, ?_⟩
    calc tagsIn (page d)
        = tagsIn (write ((parts d).map Part.emptied)) :=
          tags_write (areClosed_parts d)
      _ = tagsIn (write ((parts c).map Part.emptied)) := by rw [hmarkup]
      _ = tagsIn (page c) := (tags_write (areClosed_parts c)).symm
  · have hall : ∀ special ∈ ['<', '>', '"', '\''], IsSpecial special := by
      simp [IsSpecial]
    exact isPlain_escape text special hmem (hall special hspecial)

/-- A template whose only line changed and which got a tag. -/
def greetingChange (name before after tag : String) : Comparison where
  templateName := name
  older := ⟨1, 1, false, name, ⟨0, 0⟩⟩
  newer := ⟨2, 2, true, name, ⟨0, 0⟩⟩
  content :=
    ⟨true, [⟨.removed, before, some 0, none⟩,
      ⟨.added, after, none, some 0⟩], []⟩
  category := none
  parameters := ⟨[], [], [], []⟩
  tags := ⟨[tag], [], []⟩
  stats := ⟨1, 1, 0, 1, 1, 2, 0, 0, 0, 1, 0, false, 3⟩

/-- A page with texts that look like tags, attributes and entities has the tags
of a page with plain texts, and the entity that was in a text is a text
again. -/
theorem hostile_texts_add_no_tags :
    let hostile :=
      greetingChange "</title><script>" "&lt;b&gt;" "\" onload='x'" "<!--"
    let plain := greetingChange "greeting" "Hello" "Good day" "short"
    hostile.outline = plain.outline ∧
      tagsIn (page hostile) = tagsIn (page plain) ∧
      .slot "&lt;b&gt;" ∈ parts hostile ∧
      decode (Part.slot "&lt;b&gt;").write.toList = "&lt;b&gt;".toList := by
  intro hostile plain
  have houtline : hostile.outline = plain.outline := rfl
  have hshown : "&lt;b&gt;" ∈ hostile.shownTexts := by decide
  obtain ⟨-, -, -, hslots, hread⟩ := page_not_injectable hostile
  have hslot := (hslots _).mpr hshown
  exact ⟨houtline, ((page_not_injectable plain).2.2.1 hostile houtline).2,
    hslot, (hread _ hslot).2⟩

end Html

end Report

end TemplateRegistry
