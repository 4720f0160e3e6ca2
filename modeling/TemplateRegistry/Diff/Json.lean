import TemplateRegistry.Diff.Comparison
import TemplateRegistry.Template.Json
/-!
# Comparisons as JSON documents

A comparison is written with its members in declared order and can be read
back; reading needs every member but the positions of entries and the change of
category, which may be missing or `null`.
-/

namespace TemplateRegistry

namespace Timestamp

/-- An instant as a document. -/
def toJson (t : Timestamp) : Json :=
  .string t.json

/-- The instant of a document. -/
def ofJson? (document : Json) : Option Timestamp :=
  document.string?.bind ofString?

end Timestamp

namespace Diff

/-- A natural number as a document. -/
def natural (n : Nat) : Json :=
  .integer n

/-- A status as its name. -/
def Status.toJson (status : Status) : Json :=
  .string status.name

/-- The status of a document. -/
def Status.ofJson? (document : Json) : Option Status :=
  document.name?.bind Status.find?

/-- An entry as a document. -/
def Entry.toJson (entry : Entry) : Json :=
  .object [("status", entry.status.toJson), ("text", .string entry.text),
    ("old_position", Json.option natural entry.oldPosition),
    ("new_position", Json.option natural entry.newPosition)]

/-- The entry of a document. -/
def Entry.ofJson? (document : Json) : Option Entry := do
  match ← document.slots? ["status", "text", "old_position",
    "new_position"] with
  | [status, text, oldPosition, newPosition] =>
    return {
      status := ← status.required Status.ofJson?
      text := ← text.required Json.string?
      oldPosition := ← oldPosition.nullable Json.natural?
      newPosition := ← newPosition.nullable Json.natural? }
  | _ => none

/-- One side of a comparison as a document. -/
def Summary.toJson (summary : Summary) : Json :=
  .object [("id", .integer summary.id), ("version", .integer summary.version),
    ("is_active", .bool summary.isActive),
    ("created_by", .string summary.createdBy),
    ("created_at", summary.createdAt.toJson)]

/-- One side of a comparison, of a document. -/
def Summary.ofJson? (document : Json) : Option Summary := do
  match ← document.slots? ["id", "version", "is_active", "created_by",
    "created_at"] with
  | [id, version, isActive, createdBy, createdAt] =>
    return {
      id := ← id.required Json.int64?
      version := ← version.required Json.int32?
      isActive := ← isActive.required Json.bool?
      createdBy := ← createdBy.required Json.string?
      createdAt := ← createdAt.required Timestamp.ofJson? }
  | _ => none

/-- Lines and words as a document. -/
def ContentDiff.toJson (diff : ContentDiff) : Json :=
  .object [("changed", .bool diff.changed),
    ("lines", .array (diff.lines.map Entry.toJson)),
    ("words", .array (diff.words.map Entry.toJson))]

/-- Lines and words of a document. -/
def ContentDiff.ofJson? (document : Json) : Option ContentDiff := do
  match ← document.slots? ["changed", "lines", "words"] with
  | [changed, lines, words] =>
    return {
      changed := ← changed.required Json.bool?
      lines := ← lines.required (Json.list? Entry.ofJson?)
      words := ← words.required (Json.list? Entry.ofJson?) }
  | _ => none

/-- A change of category as a document. -/
def CategoryChange.toJson (change : CategoryChange) : Json :=
  .object [("from", .string change.before), ("to", .string change.after)]

/-- The change of category of a document. -/
def CategoryChange.ofJson? (document : Json) : Option CategoryChange := do
  match ← document.slots? ["from", "to"] with
  | [before, after] =>
    return {
      before := ← before.required Json.string?
      after := ← after.required Json.string? }
  | _ => none

/-- A changed declaration as a document. -/
def ParameterChange.toJson (change : ParameterChange) : Json :=
  .object [("name", .string change.name), ("before", change.before.toJson),
    ("after", change.after.toJson),
    ("changed_fields", Json.strings change.changedFields)]

/-- The changed declaration of a document. -/
def ParameterChange.ofJson? (document : Json) : Option ParameterChange := do
  match ← document.slots? ["name", "before", "after", "changed_fields"] with
  | [name, before, after, changedFields] =>
    return {
      name := ← name.required Json.string?
      before := ← before.required ParameterDef.ofJson?
      after := ← after.required ParameterDef.ofJson?
      changedFields := ← changedFields.required (Json.list? Json.string?) }
  | _ => none

/-- The declarations of two versions as a document. -/
def ParameterDiff.toJson (diff : ParameterDiff) : Json :=
  .object [("added", .array (diff.added.map ParameterDef.toJson)),
    ("removed", .array (diff.removed.map ParameterDef.toJson)),
    ("modified", .array (diff.modified.map ParameterChange.toJson)),
    ("unchanged", Json.strings diff.unchanged)]

/-- The declarations of two versions, of a document. -/
def ParameterDiff.ofJson? (document : Json) : Option ParameterDiff := do
  match ← document.slots? ["added", "removed", "modified", "unchanged"] with
  | [added, removed, modified, unchanged] =>
    return {
      added := ← added.required (Json.list? ParameterDef.ofJson?)
      removed := ← removed.required (Json.list? ParameterDef.ofJson?)
      modified := ← modified.required (Json.list? ParameterChange.ofJson?)
      unchanged := ← unchanged.required (Json.list? Json.string?) }
  | _ => none

/-- The tags of two versions as a document. -/
def TagDiff.toJson (diff : TagDiff) : Json :=
  .object [("added", Json.strings diff.added),
    ("removed", Json.strings diff.removed),
    ("unchanged", Json.strings diff.unchanged)]

/-- The tags of two versions, of a document. -/
def TagDiff.ofJson? (document : Json) : Option TagDiff := do
  match ← document.slots? ["added", "removed", "unchanged"] with
  | [added, removed, unchanged] =>
    return {
      added := ← added.required (Json.list? Json.string?)
      removed := ← removed.required (Json.list? Json.string?)
      unchanged := ← unchanged.required (Json.list? Json.string?) }
  | _ => none

/-- Counts as a document. -/
def Stats.toJson (stats : Stats) : Json :=
  .object [("lines_added", natural stats.linesAdded),
    ("lines_removed", natural stats.linesRemoved),
    ("lines_unchanged", natural stats.linesUnchanged),
    ("words_added", natural stats.wordsAdded),
    ("words_removed", natural stats.wordsRemoved),
    ("char_delta", .integer stats.charDelta),
    ("parameters_added", natural stats.parametersAdded),
    ("parameters_removed", natural stats.parametersRemoved),
    ("parameters_modified", natural stats.parametersModified),
    ("tags_added", natural stats.tagsAdded),
    ("tags_removed", natural stats.tagsRemoved),
    ("category_changed", .bool stats.categoryChanged),
    ("total_changes", natural stats.totalChanges)]

/-- The counts of a document. -/
def Stats.ofJson? (document : Json) : Option Stats := do
  match ← document.slots? ["lines_added", "lines_removed", "lines_unchanged",
      "words_added", "words_removed", "char_delta", "parameters_added",
      "parameters_removed", "parameters_modified", "tags_added", "tags_removed",
      "category_changed", "total_changes"] with
  | [linesAdded, linesRemoved, linesUnchanged, wordsAdded, wordsRemoved,
      charDelta, parametersAdded, parametersRemoved, parametersModified,
      tagsAdded, tagsRemoved, categoryChanged, totalChanges] =>
    return {
      linesAdded := ← linesAdded.required Json.natural?
      linesRemoved := ← linesRemoved.required Json.natural?
      linesUnchanged := ← linesUnchanged.required Json.natural?
      wordsAdded := ← wordsAdded.required Json.natural?
      wordsRemoved := ← wordsRemoved.required Json.natural?
      charDelta := ← charDelta.required Json.int64?
      parametersAdded := ← parametersAdded.required Json.natural?
      parametersRemoved := ← parametersRemoved.required Json.natural?
      parametersModified := ← parametersModified.required Json.natural?
      tagsAdded := ← tagsAdded.required Json.natural?
      tagsRemoved := ← tagsRemoved.required Json.natural?
      categoryChanged := ← categoryChanged.required Json.bool?
      totalChanges := ← totalChanges.required Json.natural? }
  | _ => none

/-- A comparison as a document. -/
def Comparison.toJson (c : Comparison) : Json :=
  .object [("template_name", .string c.templateName), ("from", c.older.toJson),
    ("to", c.newer.toJson), ("content", c.content.toJson),
    ("category", Json.option CategoryChange.toJson c.category),
    ("parameters", c.parameters.toJson), ("tags", c.tags.toJson),
    ("stats", c.stats.toJson)]

/-- The comparison of a document. -/
def Comparison.ofJson? (document : Json) : Option Comparison := do
  match ← document.slots? ["template_name", "from", "to", "content", "category",
      "parameters", "tags", "stats"] with
  | [templateName, older, newer, content, category, parameters, tags, stats] =>
    return {
      templateName := ← templateName.required Json.string?
      older := ← older.required Summary.ofJson?
      newer := ← newer.required Summary.ofJson?
      content := ← content.required ContentDiff.ofJson?
      category := ← category.nullable CategoryChange.ofJson?
      parameters := ← parameters.required ParameterDiff.ofJson?
      tags := ← tags.required TagDiff.ofJson?
      stats := ← stats.required Stats.ofJson? }
  | _ => none

end Diff

end TemplateRegistry
