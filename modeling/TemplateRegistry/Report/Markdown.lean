import TemplateRegistry.Diff.Comparison
import TemplateRegistry.Report.Html
/-!
# The Markdown report

A review in Markdown.  The lines stand in a fenced block, each after a mark
that says what became of it.  The fence is longer than any run of backticks in
the lines, so no line can close the block.

* `fence` — that fence;
* `block` — the lines of the block between the fences;
* `review` — the report.
-/

namespace TemplateRegistry.Report.Markdown

open Diff

/-- The mark before a line. -/
def mark : Status → Char
  | .added => '+'
  | .removed => '-'
  | .unchanged => ' '
  | .modified => ' '

/-- The lengths of the runs of backticks in a text. -/
def backtickRuns (text : List Char) : List Nat :=
  (Text.splitWhen (fun c => c != '`') text).map List.length

/-- The longest run of backticks in the texts of entries. -/
def longestRun (entries : List Entry) : Nat :=
  (entries.flatMap fun entry => backtickRuns entry.text.toList).foldr max 0

/-- The fence around the lines of entries: at least three backticks. -/
def fence (entries : List Entry) : String :=
  String.ofList (List.replicate (max (longestRun entries + 1) 3) '`')

/-- A line of the fenced block. -/
def blockLine (entry : Entry) : List Char :=
  mark entry.status :: entry.text.toList

/-- The lines of the fenced block, each with its line feed. -/
def block (entries : List Entry) : String :=
  String.ofList (entries.flatMap fun entry => blockLine entry ++ ['\n'])

/-- The heading and the table of the two versions. -/
def head (c : Comparison) : String :=
  s!"# {c.templateName}: v{c.older.version} → v{c.newer.version}\n\n" ++
  "| | From | To |\n|---|---|---|\n" ++
  s!"| Version | {c.older.version} | {c.newer.version} |\n" ++
  s!"| Active | {c.older.isActive} | {c.newer.isActive} |\n" ++
  s!"| Author | {c.older.createdBy} | {c.newer.createdBy} |\n" ++
  "| Created | " ++ c.older.createdAt.rfc3339 "+00:00" ++ " | " ++
    c.newer.createdAt.rfc3339 "+00:00" ++ " |\n\n"

/-- The counts. -/
def summary (s : Stats) : String :=
  "## Summary\n\n" ++
  s!"- Total changes: {s.totalChanges}\n" ++
  s!"- Lines: +{s.linesAdded} / -{s.linesRemoved}\n" ++
  s!"- Words: +{s.wordsAdded} / -{s.wordsRemoved}\n" ++
  "- Characters: " ++ Html.signed s.charDelta ++ "\n\n"

/-- The lines. -/
def content (diff : ContentDiff) : String :=
  "## Content\n\n" ++
  if diff.changed then
    fence diff.lines ++ "diff\n" ++ block diff.lines ++
      fence diff.lines ++ "\n\n"
  else "Content unchanged.\n\n"

/-- The change of category, nothing if there is none. -/
def category : Option CategoryChange → String
  | none => ""
  | some change => s!"## Category\n\n`{change.before}` → `{change.after}`\n\n"

/-- The changes of declarations. -/
def parameters (diff : ParameterDiff) : String :=
  "## Parameters\n\n" ++
  if diff.isEmpty then "No parameter changes.\n\n"
  else
    String.join (diff.added.map fun p =>
      s!"- **added** `{p.name}` ({p.type.name})\n") ++
    String.join (diff.removed.map fun p =>
      s!"- **removed** `{p.name}` ({p.type.name})\n") ++
    String.join (diff.modified.map fun change =>
      s!"- **modified** `{change.name}`: " ++
        ", ".intercalate change.changedFields ++ "\n") ++
    "\n"

/-- The changes of tags. -/
def tags (diff : TagDiff) : String :=
  "## Tags\n\n" ++
  if diff.isEmpty then "No tag changes.\n"
  else
    String.join (diff.added.map fun tag => s!"- **added** `{tag}`\n") ++
    String.join (diff.removed.map fun tag => s!"- **removed** `{tag}`\n")

/-- The report. -/
def review (c : Comparison) : String :=
  head c ++ summary c.stats ++ content c.content ++ category c.category ++
    parameters c.parameters ++ tags c.tags

end TemplateRegistry.Report.Markdown
