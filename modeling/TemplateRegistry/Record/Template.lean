import TemplateRegistry.Diff.Comparison
import TemplateRegistry.Template.VersionLog
/-!
# Records of templates

What a store keeps about templates, and what it is given to write.

* `TemplateVersion` — one version of a named template; after it is written only
  `isActive` and `updatedAt` ever change;
* `LogEntry` — one step in the life of a template, under the name the template
  has, so that it outlives the version it is about;
* `UsageRecord` — one render of a version;
* `NewVersion`, `NewLogEntry` — the same before the store gave them an id.

The versions of one name are its family.
-/

namespace TemplateRegistry

/-- One version of a named template. -/
structure TemplateVersion where
  id : Int
  name : String
  version : Int
  content : String
  category : String
  tags : List String
  isActive : Bool
  createdBy : String
  /-- The version this one was made after, or rolled back from. -/
  previousId : Option Int
  createdAt : Timestamp
  updatedAt : Timestamp
  parameters : List ParameterDef

namespace TemplateVersion

/-- The part of a template that this version brought. -/
def fields (t : TemplateVersion) : Fields where
  content := t.content
  category := t.category
  tags := t.tags
  parameters := t.parameters

/-- One side of a comparison. -/
def snapshot (t : TemplateVersion) : Diff.Snapshot where
  summary :=
    { id := t.id
      version := t.version
      isActive := t.isActive
      createdBy := t.createdBy
      createdAt := t.createdAt }
  fields := t.fields

/-- How the metadata of log entries name this version. -/
def ref (t : TemplateVersion) : VersionRef :=
  ⟨t.id, t.version⟩

end TemplateVersion

/-- A version to be written. -/
structure NewVersion where
  name : String
  version : Int
  fields : Fields
  isActive : Bool
  createdBy : String
  previousId : Option Int

/-- The version a store writes for a new one. -/
def NewVersion.withId (id : Int) (now : Timestamp) (new : NewVersion) :
    TemplateVersion where
  id := id
  name := new.name
  version := new.version
  content := new.fields.content
  category := new.fields.category
  tags := new.fields.tags
  isActive := new.isActive
  createdBy := new.createdBy
  previousId := new.previousId
  createdAt := now
  updatedAt := now
  parameters := new.fields.parameters

/-- One step in the life of a template.  The action is the name of a
`VersionAction`, unless something else wrote the entry. -/
structure LogEntry where
  id : Int
  templateName : String
  version : Int
  actionName : String
  author : String
  notes : Option String
  metadata : Metadata
  timestamp : Timestamp

/-- The action of an entry. -/
def LogEntry.action? (entry : LogEntry) : Option VersionAction :=
  VersionAction.find? entry.actionName

/-- An entry to be written. -/
structure NewLogEntry where
  templateName : String
  version : Int
  action : VersionAction
  author : String
  notes : Option String
  metadata : Metadata

namespace NewLogEntry

/-- The entry a store writes for a new one. -/
def withId (id : Int) (now : Timestamp) (new : NewLogEntry) : LogEntry where
  id := id
  templateName := new.templateName
  version := new.version
  actionName := new.action.name
  author := new.author
  notes := new.notes
  metadata := new.metadata
  timestamp := now

/-- The entry of a version that stops being active, because another takes
over. -/
def deactivated (name : String) (old target : VersionRef) (author : String)
    (notes : Option String) : NewLogEntry where
  templateName := name
  version := old.version
  action := .deactivated
  author := author
  notes := notes
  metadata := deactivatedMetadata target

/-- The entry of a version that becomes active, after another one or as the
first. -/
def activated (name : String) (target : VersionRef)
    (previous : Option VersionRef) (author : String) (notes : Option String) :
    NewLogEntry where
  templateName := name
  version := target.version
  action := .activated
  author := author
  notes := notes
  metadata := activatedMetadata previous

end NewLogEntry

/-- One render of a version. -/
structure UsageRecord where
  id : Int
  templateId : Int
  /-- How many placeholders were left without a value. -/
  unresolvedCount : Int
  renderedAt : Timestamp

end TemplateRegistry
