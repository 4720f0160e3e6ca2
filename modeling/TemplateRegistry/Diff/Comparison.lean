import TemplateRegistry.Diff.Entry
import TemplateRegistry.Template.Fields
import TemplateRegistry.Time.Timestamp
/-!
# Comparing two versions

Everything in which two versions of a template differ, in one value that all
reports are made from.

* `diffParameters` — declarations compared by name;
* `diffTags` — tags compared as sets;
* `compare` — lines, words, category, parameters, tags and the counts of all of
  them.

The category is counted on its own: a change of it is a change, but no part of
the total.
-/

namespace TemplateRegistry.Diff

/-- Identity and state of one side of a comparison. -/
structure Summary where
  id : Int
  version : Int
  isActive : Bool
  createdBy : String
  createdAt : Timestamp

/-- A version to be compared. -/
structure Snapshot where
  summary : Summary
  fields : Fields

/-- The lines and words of two texts. -/
structure ContentDiff where
  changed : Bool
  lines : List Entry
  words : List Entry

/-- A category and the one that took its place. -/
structure CategoryChange where
  before : String
  after : String

/-- A parameter that both versions declare, differently. -/
structure ParameterChange where
  name : String
  before : ParameterDef
  after : ParameterDef
  changedFields : List String

/-- The declarations of two versions. -/
structure ParameterDiff where
  added : List ParameterDef
  removed : List ParameterDef
  modified : List ParameterChange
  unchanged : List String

/-- Whether nothing was added, removed or modified. -/
def ParameterDiff.isEmpty (diff : ParameterDiff) : Bool :=
  diff.added.isEmpty && diff.removed.isEmpty && diff.modified.isEmpty

/-- The tags of two versions. -/
structure TagDiff where
  added : List String
  removed : List String
  unchanged : List String
  deriving DecidableEq

/-- Whether nothing was added or removed. -/
def TagDiff.isEmpty (diff : TagDiff) : Bool :=
  diff.added.isEmpty && diff.removed.isEmpty

/-- The counts of a comparison. -/
structure Stats where
  linesAdded : Nat
  linesRemoved : Nat
  linesUnchanged : Nat
  wordsAdded : Nat
  wordsRemoved : Nat
  /-- Characters of the newer text less those of the older. -/
  charDelta : Int
  parametersAdded : Nat
  parametersRemoved : Nat
  parametersModified : Nat
  tagsAdded : Nat
  tagsRemoved : Nat
  categoryChanged : Bool
  /-- Lines, parameters and tags added, removed or modified. -/
  totalChanges : Nat
  deriving DecidableEq

/-- The result of comparing two versions of a template. -/
structure Comparison where
  templateName : String
  older : Summary
  newer : Summary
  content : ContentDiff
  category : Option CategoryChange
  parameters : ParameterDiff
  tags : TagDiff
  stats : Stats

/-- Whether anything changed. -/
def Comparison.hasChanges (c : Comparison) : Bool :=
  0 < c.stats.totalChanges || c.stats.categoryChanged

/-- The names of the fields in which two declarations differ. -/
def changedFields (before after : ParameterDef) : List String :=
  (if before.description = after.description then [] else ["description"]) ++
  (if before.required = after.required then [] else ["required"]) ++
  (if before.type = after.type then [] else ["type"]) ++
  (if before.defaultValue == after.defaultValue then [] else ["default_value"])

/-- Declarations by name; of two with one name the later counts. -/
def declarationsByName (params : List ParameterDef) : Table ParameterDef :=
  Table.ofList (params.map fun param => (param.name, param))

/-- The declarations that a table has beyond another one. -/
def declarationsBeyond (table other : Table ParameterDef) : List ParameterDef :=
  (table.filter fun entry => !other.contains entry.1).map Prod.snd

/-- The declarations of two versions compared by name, each class ascending. -/
def diffParameters (old new : List ParameterDef) : ParameterDiff :=
  let before := declarationsByName old
  let after := declarationsByName new
  { added := declarationsBeyond after before
    removed := declarationsBeyond before after
    modified := after.filterMap fun entry =>
      match before.get? entry.1 with
      | some param =>
        if param.same entry.2 then none
        else some ⟨entry.1, param, entry.2, changedFields param entry.2⟩
      | none => none
    unchanged := after.filterMap fun entry =>
      match before.get? entry.1 with
      | some param => if param.same entry.2 then some entry.1 else none
      | none => none }

/-- The tags of two versions compared as sets, each class ascending. -/
def diffTags (old new : List String) : TagDiff :=
  let before := Ascending.ofList old
  let after := Ascending.ofList new
  { added := after.filter fun tag => tag ∉ before
    removed := before.filter fun tag => tag ∉ after
    unchanged := before.filter fun tag => tag ∈ after }

/-- Compare two versions of the template with a name. -/
def compare (templateName : String) (old new : Snapshot) : Comparison :=
  let lines := lineEntries old.fields.content new.fields.content
  let words := wordEntries old.fields.content new.fields.content
  let parameters := diffParameters old.fields.parameters new.fields.parameters
  let tags := diffTags old.fields.tags new.fields.tags
  let categoryChanged := old.fields.category ≠ new.fields.category
  { templateName
    older := old.summary
    newer := new.summary
    content :=
      { changed := old.fields.content ≠ new.fields.content
        lines
        words }
    category :=
      if categoryChanged then some ⟨old.fields.category, new.fields.category⟩
      else none
    parameters
    tags
    stats :=
      { linesAdded := count .added lines
        linesRemoved := count .removed lines
        linesUnchanged := count .unchanged lines
        wordsAdded := count .added words
        wordsRemoved := count .removed words
        charDelta :=
          (new.fields.content.length : Int) - old.fields.content.length
        parametersAdded := parameters.added.length
        parametersRemoved := parameters.removed.length
        parametersModified := parameters.modified.length
        tagsAdded := tags.added.length
        tagsRemoved := tags.removed.length
        categoryChanged := categoryChanged
        totalChanges := count .added lines + count .removed lines +
          parameters.added.length + parameters.removed.length +
          parameters.modified.length +
          tags.added.length + tags.removed.length } }

end TemplateRegistry.Diff
