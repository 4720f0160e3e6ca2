import TemplateRegistry.Proofs.DatabaseComponents
import TemplateRegistry.Proofs.DatabaseServer
import TemplateRegistry.Proofs.DatabaseTemplates
/-!
# The store in the database is the store in memory

Two stores were written apart from each other: one keeps lists, the other sends
statements.  On every state that calls lead to, and for every call, they do the
same, whatever the database does within what it is asked.

`store_agrees_with_memory` puts the calls together.
-/

namespace TemplateRegistry.Database

open Dialogue

variable {s : Memory}

/-- **The store in the database is the store in memory.**  For every state that
calls lead to and every call, whatever rows the database gives within what is
asked of it: the call ends as it would in memory, with the same value or the
same error; it leaves no transaction open; what it wrote makes of the state what
the call makes of it in memory; and if it succeeds, no write misses its row. -/
theorem store_agrees_with_memory (h : Memory.Reachable s) (call : StoreCall) :
    Ensures (store call)
      (fun result x =>
        ∃ lastId now, AsInMemory s lastId now call result x.journal)
      ⟨s, .empty⟩ := by
  have hs := Memory.consistent_of_reachable h
  cases call with
  | getTemplate id => exact getTemplate_agrees hs id
  | getVersion name version => exact getVersion_agrees hs name version
  | getActive name => exact getActive_agrees hs name
  | listVersions name => exact listVersions_agrees hs name
  | maxVersion name => exact maxVersion_agrees name
  | listParameters id => exact listParameters_agrees hs id
  | listLog name => exact listLog_agrees hs name
  | insertVersion new entry => exact insertVersion_agrees hs new entry
  | swapActive id author notes => exact swapActive_agrees hs id author notes
  | deleteFamily name => exact deleteFamily_agrees hs name
  | recordTemplateUsage id unresolvedCount =>
      exact recordTemplateUsage_agrees hs id unresolvedCount
  | getActiveComponent name => exact getActiveComponent_agrees hs name
  | getComponentVersion name version =>
      exact getComponentVersion_agrees hs name version
  | listActiveComponents => exact listActiveComponents_agrees hs
  | putComponent new => exact putComponent_agrees hs new
  | deactivateComponent name => exact deactivateComponent_agrees hs name
  | incrementComponentUsage id => exact incrementComponentUsage_agrees id

/-- A second greeting takes over from the first one, in a database: two rows
change and two log entries are written. -/
theorem store_agrees_on_swap :
    let s := Memory.empty.after ⟨0, 0⟩
      [.insertVersion (Memory.greeting 1 true) (Memory.greetingEntry 1),
        .insertVersion (Memory.greeting 2 false) (Memory.greetingEntry 2)]
    let last := (store (.swapActive 3 "ann" none)).perform ⟨s, .empty⟩
    Memory.Reachable s ∧ last.1.isOk = true ∧ last.2.journal.kept.length = 4 ∧
      ∃ lastId now,
        AsInMemory s lastId now
          (.swapActive 3 "ann" none) last.1 last.2.journal := by
  intro s last
  have hs : Memory.Reachable s := Memory.Reachable.empty.after _ _
  refine ⟨hs, by decide, by decide, ?_⟩
  exact (store_agrees_with_memory hs (.swapActive 3 "ann" none)).perform

end TemplateRegistry.Database
