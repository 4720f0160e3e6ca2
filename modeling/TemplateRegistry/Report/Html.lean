import TemplateRegistry.Diff.Comparison
import TemplateRegistry.Report.SideBySide
/-!
# The HTML report

A page with a side-by-side view of the lines and lists of the other changes.
It is built as a sequence of parts: markup, which is fixed or made from
numbers, statuses and types, and slots, each of which holds one text of the
user and is written escaped.

* `parts` — the page as such a sequence;
* `write` — its text.
-/

namespace TemplateRegistry.Report.Html

open Diff

/-- Markup, or a slot for a text of the user. -/
inductive Part
  | markup (text : String)
  | slot (text : String)
  deriving DecidableEq

/-- A character as it is written in a slot. -/
def escapeChar (c : Char) : List Char :=
  if c = '&' then "&amp;".toList
  else if c = '<' then "&lt;".toList
  else if c = '>' then "&gt;".toList
  else if c = '"' then "&quot;".toList
  else if c = '\'' then "&#39;".toList
  else [c]

/-- A text as it is written in a slot. -/
def escape (s : String) : String :=
  String.ofList (s.toList.flatMap escapeChar)

/-- The text of a part. -/
def Part.write : Part → String
  | .markup text => text
  | .slot text => escape text

/-- The text of a sequence of parts. -/
def write (parts : List Part) : String :=
  String.join (parts.map Part.write)

/-- An integer with its sign, plus included. -/
def signed (i : Int) : String :=
  if i < 0 then s!"{i}" else s!"+{i}"

/-- A cell of the side-by-side view: the line number and the line. -/
def cell (position : Entry → Option Nat) : Option Entry → List Part
  | none => [.markup "<td class=\"ln\"></td><td class=\"empty\"></td>"]
  | some entry =>
    let place := match position entry with
      | some n => s!"{n}"
      | none => ""
    [.markup
      s!"<td class=\"ln\">{place}</td><td class=\"{entry.status.name}\">",
      .slot entry.text, .markup "</td>"]

/-- A row of the side-by-side view. -/
def row (r : Row) : List Part :=
  .markup "<tr>" :: (cell Entry.oldPosition r.old ++
    cell Entry.newPosition r.new ++ [.markup "</tr>\n"])

/-- An item of a list of declarations. -/
def parameterItem (param : ParameterDef) : List Part :=
  [.markup "<li><code>", .slot param.name,
    .markup s!"</code> ({param.type.name}) ", .slot param.description,
    .markup "</li>\n"]

/-- A titled list of declarations, nothing if there are none. -/
def parameterList (title : String) (params : List ParameterDef) : List Part :=
  if params.isEmpty then []
  else
    .markup s!"<h3>{title}</h3>\n<ul>\n" ::
      (params.flatMap parameterItem ++ [.markup "</ul>\n"])

/-- Texts with a comma between them. -/
def commaSeparated : List String → List Part
  | [] => []
  | [text] => [.slot text]
  | text :: next :: rest =>
    .slot text :: .markup ", " :: commaSeparated (next :: rest)

/-- An item of the list of changed declarations. -/
def changeItem (change : ParameterChange) : List Part :=
  .markup "<li><code>" :: .slot change.name :: .markup "</code>: " ::
    (commaSeparated change.changedFields ++ [.markup "</li>\n"])

/-- The style sheet of the page. -/
def styleSheet : String :=
  "table\x7bborder-collapse:collapse;width:100%;font-family:monospace\x7d" ++
  "td\x7bpadding:2px 6px;vertical-align:top;white-space:pre-wrap\x7d" ++
  "td.ln\x7bcolor:#888;text-align:right;width:3em\x7d" ++
  "td.added\x7bbackground:#e6ffed\x7dtd.removed\x7bbackground:#ffeef0\x7d" ++
  "td.empty\x7bbackground:#fafbfc\x7d"

/-- The head of the page. -/
def head (c : Comparison) : List Part :=
  [.markup "<!DOCTYPE html>\n<html>\n<head>\n<meta charset=\"utf-8\">\n<title>",
    .slot c.templateName,
    .markup s!": v{c.older.version} vs v{c.newer.version}</title>\n<style>",
    .markup styleSheet, .markup "</style>\n</head>\n<body>\n"]

/-- The heading and the summary. -/
def summary (c : Comparison) : List Part :=
  let s := c.stats
  [.markup "<h1>", .slot c.templateName,
    .markup
      s!": version {c.older.version} &rarr; version {c.newer.version}</h1>\n",
    .markup
      (s!"<p class=\"summary\">{s.totalChanges} total changes: +{s.linesAdded} / -{s.linesRemoved} lines, " ++
        s!"+{s.wordsAdded} / -{s.wordsRemoved} words, " ++ signed s.charDelta ++
        " characters</p>\n")]

/-- The side-by-side view of the lines. -/
def content (c : Comparison) : List Part :=
  .markup "<h2>Content</h2>\n<table class=\"diff\">\n" ::
    .markup
      s!"<tr><th colspan=\"2\">v{c.older.version}</th><th colspan=\"2\">v{c.newer.version}</th></tr>\n" ::
    ((sideBySide c.content.lines).flatMap row ++ [.markup "</table>\n"])

/-- The change of category, nothing if there is none. -/
def category : Option CategoryChange → List Part
  | none => []
  | some change =>
    [.markup "<h2>Category</h2>\n<p>", .slot change.before, .markup " &rarr; ",
      .slot change.after, .markup "</p>\n"]

/-- The changes of declarations. -/
def parameters (diff : ParameterDiff) : List Part :=
  .markup "<h2>Parameters</h2>\n" ::
    if diff.isEmpty then [.markup "<p>No parameter changes.</p>\n"]
    else
      parameterList "Added" diff.added ++
        parameterList "Removed" diff.removed ++ if diff.modified.isEmpty then []
        else
          .markup "<h3>Modified</h3>\n<ul>\n" ::
            (diff.modified.flatMap changeItem ++ [.markup "</ul>\n"])

/-- The changes of tags. -/
def tags (diff : TagDiff) : List Part :=
  .markup "<h2>Tags</h2>\n" ::
    if diff.isEmpty then [.markup "<p>No tag changes.</p>\n"]
    else
      (diff.added.flatMap fun tag =>
        [.markup "<span class=\"added\">+", .slot tag, .markup "</span>\n"]) ++
      diff.removed.flatMap fun tag =>
        [.markup "<span class=\"removed\">-", .slot tag, .markup "</span>\n"]

/-- The page as markup and slots. -/
def parts (c : Comparison) : List Part :=
  head c ++ summary c ++ content c ++ category c.category ++
    parameters c.parameters ++ tags c.tags ++ [.markup "</body>\n</html>\n"]

/-- The page. -/
def page (c : Comparison) : String :=
  write (parts c)

end TemplateRegistry.Report.Html
