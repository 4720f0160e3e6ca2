import TemplateRegistry.Diff.Json
import TemplateRegistry.Record.Component
import TemplateRegistry.Record.Template
/-!
# Records as JSON documents

Versions and components are written with their members in declared order.  In
reading every field must be given, but for the parameters of a version, of
which there are none by default, and for links and notes, which may be `null`.
-/

namespace TemplateRegistry

namespace TemplateVersion

/-- A version as a document. -/
def toJson (t : TemplateVersion) : Json :=
  .object [("id", Json.integer t.id), ("name", .string t.name),
    ("version", Json.integer t.version), ("content", .string t.content),
    ("category", .string t.category), ("tags", Json.strings t.tags),
    ("is_active", .bool t.isActive), ("created_by", .string t.createdBy),
    ("previous_version_id", Json.option Json.integer t.previousId),
    ("created_at", t.createdAt.toJson), ("updated_at", t.updatedAt.toJson),
    ("parameters", .array (t.parameters.map ParameterDef.toJson))]

/-- The version of a document. -/
def ofJson? (document : Json) : Option TemplateVersion := do
  match ← document.slots? ["id", "name", "version", "content", "category",
      "tags", "is_active", "created_by", "previous_version_id", "created_at",
      "updated_at", "parameters"] with
  | [id, name, version, content, category, tags, isActive, createdBy,
      previousId, createdAt, updatedAt, parameters] =>
    return {
      id := ← id.required Json.int64?
      name := ← name.required Json.string?
      version := ← version.required Json.int32?
      content := ← content.required Json.string?
      category := ← category.required Json.string?
      tags := ← tags.required (Json.list? Json.string?)
      isActive := ← isActive.required Json.bool?
      createdBy := ← createdBy.required Json.string?
      previousId := ← previousId.nullable Json.int64?
      createdAt := ← createdAt.required Timestamp.ofJson?
      updatedAt := ← updatedAt.required Timestamp.ofJson?
      parameters := ← parameters.orElse [] (Json.list? ParameterDef.ofJson?) }
  | _ => none

end TemplateVersion

namespace Component

/-- A component as a document. -/
def toJson (c : Component) : Json :=
  .object [("id", Json.integer c.id), ("name", .string c.name),
    ("version", Json.integer c.version), ("content", .string c.content),
    ("category", .string c.category), ("tags", Json.strings c.tags),
    ("is_active", .bool c.isActive), ("usage_count", Json.integer c.usageCount),
    ("created_at", c.createdAt.toJson), ("updated_at", c.updatedAt.toJson)]

/-- The component of a document. -/
def ofJson? (document : Json) : Option Component := do
  match ← document.slots? ["id", "name", "version", "content", "category",
      "tags", "is_active", "usage_count", "created_at", "updated_at"] with
  | [id, name, version, content, category, tags, isActive, usageCount,
      createdAt, updatedAt] =>
    return {
      id := ← id.required Json.int64?
      name := ← name.required Json.string?
      version := ← version.required Json.int32?
      content := ← content.required Json.string?
      category := ← category.required Json.string?
      tags := ← tags.required (Json.list? Json.string?)
      isActive := ← isActive.required Json.bool?
      usageCount := ← usageCount.required Json.int64?
      createdAt := ← createdAt.required Timestamp.ofJson?
      updatedAt := ← updatedAt.required Timestamp.ofJson? }
  | _ => none

end Component

/-- The new version of a document. -/
def NewVersion.ofJson? (document : Json) : Option NewVersion := do
  match ← document.slots? ["name", "version", "fields", "is_active",
      "created_by", "previous_version_id"] with
  | [name, version, fields, isActive, createdBy, previousId] =>
    return {
      name := ← name.required Json.string?
      version := ← version.required Json.int32?
      fields := ← fields.required Fields.ofJson?
      isActive := ← isActive.required Json.bool?
      createdBy := ← createdBy.required Json.string?
      previousId := ← previousId.nullable Json.int64? }
  | _ => none

/-- An action as its name. -/
def VersionAction.toJson (action : VersionAction) : Json :=
  .string action.name

/-- The action of a document. -/
def VersionAction.ofJson? (document : Json) : Option VersionAction :=
  document.name?.bind find?

/-- The new entry of a document. -/
def NewLogEntry.ofJson? (document : Json) : Option NewLogEntry := do
  match ← document.slots? ["template_name", "version", "action", "author",
      "notes", "metadata"] with
  | [templateName, version, action, author, notes, metadata] =>
    return {
      templateName := ← templateName.required Json.string?
      version := ← version.required Json.int32?
      action := ← action.required VersionAction.ofJson?
      author := ← author.required Json.string?
      notes := ← notes.nullable Json.string?
      metadata := ← metadata.required Value.tableOfJson? }
  | _ => none

end TemplateRegistry
