import TemplateRegistry.Diff.Json
import TemplateRegistry.Report.Format
import TemplateRegistry.Report.Pdf
import TemplateRegistry.Report.Plain
/-!
# Documents of a comparison

Each format is a function of a comparison already made; none compares again.
-/

namespace TemplateRegistry.Report

open Diff

/-- A comparison in a format. -/
structure Document where
  format : Format
  body : String

/-- The comparison as a JSON document with one item a line. -/
def structured (c : Comparison) : String :=
  c.toJson.pretty

/-- The printable report. -/
def printable (c : Comparison) : String :=
  Pdf.document s!"{c.templateName} v{c.older.version} vs v{c.newer.version}"
    (Plain.lines c)

/-- Report a comparison in a format. -/
def project (c : Comparison) (format : Format) : Document where
  format := format
  body :=
    match format with
    | .structured => structured c
    | .html => Html.page c
    | .markdown => Markdown.review c
    | .pdf => printable c

/-- The media type of a document. -/
def Document.contentType (document : Document) : String :=
  document.format.contentType

/-- A name for a file with a document. -/
def Document.fileName (document : Document) (c : Comparison) : String :=
  s!"{c.templateName}_v{c.older.version}_v{c.newer.version}.{document.format.fileExtension}"

end TemplateRegistry.Report
