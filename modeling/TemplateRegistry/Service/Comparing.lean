import TemplateRegistry.Report.Document
import TemplateRegistry.Service.Basic
/-!
# Comparing versions in a store

Two versions of the template that a third one belongs to, compared and
reported in a format.
-/

namespace TemplateRegistry.Comparing

/-- A comparison and a document of it. -/
structure Compared where
  comparison : Diff.Comparison
  document : Report.Document

/-- A name for a file with the document. -/
def Compared.fileName (compared : Compared) : String :=
  compared.document.fileName compared.comparison

/-- Compare two versions of the template that a version belongs to. -/
def compareVersions (config : Config) (id older newer : Int)
    (format : Report.Format) :
    Service Compared := do
  let anchor ← Service.call config (.getTemplate id)
  let old ← Service.call config (.getVersion anchor.name older)
  let new ← Service.call config (.getVersion anchor.name newer)
  let comparison := Diff.compare anchor.name old.snapshot new.snapshot
  return { comparison, document := Report.project comparison format }

end TemplateRegistry.Comparing
