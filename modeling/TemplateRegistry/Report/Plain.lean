import TemplateRegistry.Report.Markdown
/-!
# The plain report

The lines of the printable report.
-/

namespace TemplateRegistry.Report.Plain

open Diff

/-- The heading, the two versions and the counts. -/
def head (c : Comparison) : List String :=
  let s := c.stats
  [s!"Template {c.templateName}: version {c.older.version} -> version {c.newer.version}",
    s!"From: {c.older.createdBy} at {c.older.createdAt.minutes}",
    s!"To:   {c.newer.createdBy} at {c.newer.createdAt.minutes}",
    "",
    s!"Total changes: {s.totalChanges}  Lines +{s.linesAdded}/-{s.linesRemoved}  " ++
      s!"Words +{s.wordsAdded}/-{s.wordsRemoved}  Chars " ++
    Html.signed s.charDelta,
    "",
    "Content:"]

/-- The change of category, nothing if there is none. -/
def category : Option CategoryChange → List String
  | none => []
  | some change => ["", s!"Category: {change.before} -> {change.after}"]

/-- The changes of declarations. -/
def parameters (diff : ParameterDiff) : List String :=
  ["", "Parameters:"] ++
  (if diff.isEmpty then ["  (no changes)"] else []) ++
  (diff.added.map fun p => s!"  + {p.name} ({p.type.name})") ++
  (diff.removed.map fun p => s!"  - {p.name} ({p.type.name})") ++
  diff.modified.map fun change =>
    s!"  ~ {change.name}: " ++ ", ".intercalate change.changedFields

/-- The changes of tags. -/
def tags (diff : TagDiff) : List String :=
  ["", "Tags:"] ++
  (if diff.isEmpty then ["  (no changes)"] else []) ++
  (diff.added.map fun tag => s!"  + {tag}") ++
  diff.removed.map fun tag => s!"  - {tag}"

/-- The lines of the report. -/
def lines (c : Comparison) : List String :=
  head c ++
  (c.content.lines.map fun entry =>
    String.ofList (Markdown.mark entry.status :: ' ' :: entry.text.toList)) ++
  category c.category ++ parameters c.parameters ++ tags c.tags

end TemplateRegistry.Report.Plain
