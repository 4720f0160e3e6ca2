import TemplateRegistry.Error
import TemplateRegistry.Json.Record
/-!
# Report formats

A comparison is reported as a JSON document, an HTML page, a Markdown review or
a printable page.  A caller names a format in any letter case; two of the
formats have a second name.
-/

namespace TemplateRegistry.Report

/-- A kind of report. -/
inductive Format
  | structured
  | html
  | markdown
  | pdf
  deriving DecidableEq

namespace Format

/-- Every name a caller may use, in the order in which messages list them. -/
def names : List (String × Format) :=
  [("structured", structured), ("json", structured), ("html", html),
    ("markdown", markdown), ("md", markdown), ("pdf", pdf)]

/-- The name of a format. -/
def name : Format → String
  | structured => "structured"
  | html => "html"
  | markdown => "markdown"
  | pdf => "pdf"

/-- The media type of a report. -/
def contentType : Format → String
  | structured => "application/json"
  | html => "text/html; charset=utf-8"
  | markdown => "text/markdown; charset=utf-8"
  | pdf => "application/pdf"

/-- How the names of files with such a report end. -/
def fileExtension : Format → String
  | structured => "json"
  | html => "html"
  | markdown => "md"
  | pdf => "pdf"

/-- The format of its own name, letter for letter. -/
def find? (s : String) : Option Format :=
  [structured, html, markdown, pdf].find? fun format => format.name = s

/-- The format a caller names; only ASCII letters have a case. -/
def ofName (s : String) : Except RegistryError Format :=
  match names.lookup (String.ofList (s.toList.map Char.toLower)) with
  | some format => .ok format
  | none =>
    .error (.validation "format"
      (s!"Invalid diff format '{s}'. Must be one of: " ++
        ", ".intercalate (names.map Prod.fst)))

/-- A format as its name. -/
def toJson (format : Format) : Json :=
  .string format.name

/-- The format of a document. -/
def ofJson? (document : Json) : Option Format :=
  document.name?.bind find?

end Format

end TemplateRegistry.Report
