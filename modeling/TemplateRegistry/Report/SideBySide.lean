import TemplateRegistry.Diff.Entry
/-!
# Rows of a side-by-side view

Entries are grouped into rows with an older and a newer side: a removal shares
its row with an addition directly after it, and an entry of both versions is
shown on both sides.
-/

namespace TemplateRegistry.Report

open Diff (Entry Status)

/-- A row of a side-by-side view. -/
structure Row where
  old : Option Entry
  new : Option Entry
  deriving DecidableEq

/-- The rows of a list of entries. -/
def sideBySide : List Entry → List Row
  | [] => []
  | [entry] =>
    match entry.status with
    | .removed => [⟨some entry, none⟩]
    | .added => [⟨none, some entry⟩]
    | _ => [⟨some entry, some entry⟩]
  | entry :: next :: rest =>
    match entry.status with
    | .removed =>
      if next.status = .added then ⟨some entry, some next⟩ :: sideBySide rest
      else ⟨some entry, none⟩ :: sideBySide (next :: rest)
    | .added => ⟨none, some entry⟩ :: sideBySide (next :: rest)
    | _ => ⟨some entry, some entry⟩ :: sideBySide (next :: rest)

end TemplateRegistry.Report
