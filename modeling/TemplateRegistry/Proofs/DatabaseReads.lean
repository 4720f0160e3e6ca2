import TemplateRegistry.Proofs.StoredRows
/-!
# Agreeing with the store in memory

A call of the store in the database agrees with the same call of the store in
memory if it ends with the same result, and what it has written by then makes of
the records what the call makes of them in memory.  The ids and instants that
the database gives are its own, so the comparison is with a store in memory that
has given a certain id last and has a certain instant, and leaves the instants
of records aside.

The calls that only read agree: the rows they get are what is looked up in
memory.

* `Memory.written` — a state after some writes;
* `AsInMemory`, `Agrees` — what is to be shown of every call;
* `getTemplate_agrees`, …, `listActiveComponents_agrees` — the reads.
-/

namespace TemplateRegistry

namespace Memory

/-- The state without its instants. -/
def withoutTimes (s : Memory) : Memory :=
  let never : Timestamp := ⟨0, 0⟩
  { s with
    templates :=
      s.templates.map fun t => { t with createdAt := never, updatedAt := never }
    log := s.log.map fun e => { e with timestamp := never }
    components :=
      s.components.map fun c =>
        { c with createdAt := never, updatedAt := never }
    usage := s.usage.map fun u => { u with renderedAt := never } }

end Memory

/-- A row that a statement changes or removes is there, and not yet as the
statement makes it. -/
def Statement.Changes (s : Memory) : Statement → Prop
  | .setTemplateActive id isActive =>
    ∃ t ∈ s.templates, t.id = id ∧ t.isActive ≠ isActive
  | .deleteTemplates name => ∃ t ∈ s.templates, t.name = name
  | .deactivateComponent id => ∃ c ∈ s.components, c.id = id ∧ c.isActive = true
  | .incrementUsage id => ∃ c ∈ s.components, c.id = id
  | _ => True

/-- The state after some writes, each new row under the next id. -/
def Memory.written (now : Timestamp) : List Statement → Memory → Memory
  | [], s => s
  | write :: rest, s => written now rest (write.carryOut (s.lastId + 1) now s)

/-- Writes are carried out one sequence after another. -/
theorem Memory.written_append (now : Timestamp) (first second : List Statement)
    (s : Memory) :
    s.written now (first ++ second) =
      (s.written now first).written now second := by
  induction first generalizing s with
  | nil => rfl
  | cons write rest ih => exact ih _

/-- Every one of some writes changes a row, one after another. -/
def Memory.AllChange (now : Timestamp) : List Statement → Memory → Prop
  | [], _ => True
  | write :: rest, s =>
    write.Changes s ∧ AllChange now rest (write.carryOut (s.lastId + 1) now s)

namespace Database

open Dialogue

/-- A session in which a call ended does what the store in memory does, if that
has given a certain id last and has a certain instant. -/
structure AsInMemory (s : Memory) (lastId : Int) (now : Timestamp)
    (call : StoreCall) (result : Except EngineError call.Result)
    (journal : Journal) : Prop where
  /-- The result is the same, or the error. -/
  outcome : result =
    (Memory.answer now call { s with lastId }).1.mapError .registry
  /-- No transaction is left open. -/
  settled : journal.pending = none
  /-- The writes make of the state what the call makes of it. -/
  writes : (Memory.written now journal.kept { s with lastId }).withoutTimes =
    (Memory.answer now call { s with lastId }).2.withoutTimes
  /-- No write misses its row. -/
  changes : (Memory.answer now call { s with lastId }).1.isOk = true →
    Memory.AllChange now journal.kept { s with lastId }

/-- A session does what the store in memory does, up to ids and instants. -/
def Agrees (s : Memory) (call : StoreCall)
    (result : Except EngineError call.Result) (x : Session) : Prop :=
  ∃ lastId now, AsInMemory s lastId now call result x.journal

variable {s : Memory}

/-- A session agrees with an answer if it wrote what the answer made of the
state. -/
theorem agrees_of_answer {call : StoreCall} {lastId : Int} {now : Timestamp}
    {expected : Except RegistryError call.Result} {after : Memory}
    (writes : List Statement)
    (hanswer : Memory.answer now call { s with lastId } = (expected, after))
    (hwrites : (Memory.written now writes { s with lastId }).withoutTimes =
      after.withoutTimes)
    (hchanges : expected.isOk = true →
      Memory.AllChange now writes { s with lastId })
    (records : Memory) :
    Agrees s call (expected.mapError .registry) ⟨records, writes, none⟩ := by
  refine ⟨lastId, now, ?_, rfl, ?_, ?_⟩
  · rw [hanswer]
  · rw [hanswer]
    exact hwrites
  · rw [hanswer]
    exact hchanges

/-- Nothing is to be written where the store in memory stays as it is. -/
theorem agrees_of_unchanged (call : StoreCall) (now : Timestamp)
    (expected : Except RegistryError call.Result)
    (hanswer : Memory.answer now call s = (expected, s)) (records : Memory) :
    Agrees s call (expected.mapError .registry) ⟨records, .empty⟩ :=
  agrees_of_answer [] hanswer rfl (fun _ => trivial) records

/-! ## Reads -/

section Reads
variable {Q : Except EngineError TemplateVersion → Session → Prop} {x : Session}

/-- A version gets its declarations. -/
theorem ensures_withParameters
    (hids : (x.records.templates.map TemplateVersion.id).Nodup)
    {t : TemplateVersion} (ht : t ∈ x.records.templates) (h : Q (.ok t) x) :
    Ensures (withParameters t.row) Q x := by
  refine ensures_query_bind rfl fun id now rows hrows => ?_
  have hdefinitions := Memory.definitions_of_reply hids ht hrows
  refine ensures_ofExcept_bind (fun error herror => ?_)
    fun parameters hparameters => ?_
  · simp [hdefinitions] at herror
  · obtain rfl : t.parameters = parameters := by
      rw [hdefinitions] at hparameters
      exact Except.ok.inj hparameters
    exact h

/-- What is found is returned with its declarations. -/
theorem ensures_found_withParameters
    (hids : (x.records.templates.map TemplateVersion.id).Nodup)
    {error : RegistryError} {row : Option TemplateVersion}
    {stored : Option TemplateVersion}
    (hrow : row = stored.map TemplateVersion.row)
    (hstored : ∀ t, stored = some t → t ∈ x.records.templates)
    (h : Q ((Memory.found error stored).mapError .registry) x) :
    Ensures (found error row >>= withParameters) Q x := by
  subst hrow
  cases stored with
  | none => exact ensures_found_bind (fun _ => h) fun t ht => by simp at ht
  | some t =>
      refine ensures_found_bind (fun hnone => by simp at hnone)
        fun row hrow => ?_
      obtain rfl := Option.some.inj hrow
      exact ensures_withParameters hids (hstored t rfl) h

end Reads

section Calls
variable (h : s.Consistent)
include h

/-- Reading a version by its id does what the store in memory does. -/
theorem getTemplate_agrees (id : Int) :
    Ensures (getTemplate id) (Agrees s (.getTemplate id)) ⟨s, .empty⟩ := by
  refine ensures_query_bind rfl fun _ now row hrow => ?_
  exact ensures_found_withParameters h.templateIds
    (Memory.template_of_firstOf h.templateIds hrow) (fun t ht =>
      (Memory.template?_mem ht).1)
    (agrees_of_unchanged (.getTemplate id) now _ rfl s)

/-- A version by its name and number, if there is one. -/
theorem getVersion_agrees (name : String) (version : Int) :
    Ensures (getVersion name version) (Agrees s (.getVersion name version))
      ⟨s, .empty⟩ := by
  refine ensures_query_bind rfl fun _ now row hrow => ?_
  refine ensures_found_withParameters h.templateIds
    (Memory.version_of_reply h hrow) (fun t ht => ?_)
    (agrees_of_unchanged (.getVersion name version) now _ rfl s)
  exact (Memory.mem_family.mp (List.mem_of_find?_eq_some ht)).1

/-- The active version of a name, if it has one. -/
theorem getActive_agrees (name : String) :
    Ensures (getActive name) (Agrees s (.getActive name)) ⟨s, .empty⟩ := by
  refine ensures_query_bind rfl fun _ now row hrow => ?_
  exact ensures_found_withParameters h.templateIds
    (Memory.active_of_reply h hrow) (fun t ht => (Memory.active?_mem ht).1)
    (agrees_of_unchanged (.getActive name) now _ rfl s)

/-- Listing a family gives it by version numbers, each with its declarations. -/
theorem listVersions_agrees (name : String) :
    Ensures (listVersions name) (Agrees s (.listVersions name))
      ⟨s, .empty⟩ := by
  refine ensures_query_bind rfl fun _ now rows hrows => ?_
  obtain rfl := Memory.family_of_reply h hrows
  have hunchanged :
      Agrees s (.listVersions name) (.ok (s.family name)) ⟨s, .empty⟩ := by
    rw [← Memory.sortByVersion_family h name]
    exact agrees_of_unchanged (.listVersions name) now (.ok _) rfl s
  cases hempty : ((s.family name).map TemplateVersion.row).isEmpty with
  | true =>
      have hfamily : s.family name = [] :=
        List.map_eq_nil_iff.mp (List.isEmpty_iff.mp hempty)
      rw [if_pos rfl]
      rw [hfamily] at hunchanged
      exact hunchanged
  | false =>
      rw [if_neg (by simp), List.map_map]
      refine ensures_query_bind rfl fun _ _ rows hrows => ?_
      show Agrees s (.listVersions name)
        ((attachParameters rows _).mapError .registry) _
      rw [Memory.attachParameters_of_reply h hrows]
      exact hunchanged

omit h in
/-- The highest version of a name, as in memory. -/
theorem maxVersion_agrees (name : String) :
    Ensures (send (.maxVersion name)) (Agrees s (.maxVersion name))
      ⟨s, .empty⟩ := by
  refine ensures_query rfl fun _ now highest hhighest => ?_
  obtain rfl := Memory.maxVersion_of_reply hhighest
  exact agrees_of_unchanged (.maxVersion name) now (.ok _) rfl s

/-- The declarations of a version, if there is the version. -/
theorem listParameters_agrees (id : Int) :
    Ensures (listParameters id) (Agrees s (.listParameters id))
      ⟨s, .empty⟩ := by
  refine ensures_query_bind rfl fun _ now row hrow => ?_
  obtain rfl := Memory.template_of_firstOf h.templateIds hrow
  have hunchanged : Agrees s (.listParameters id)
      ((Memory.found (.templateNotFound (toString id))
        ((s.template? id).map TemplateVersion.parameters)).mapError .registry)
        ⟨s, .empty⟩ :=
    agrees_of_unchanged (.listParameters id) now _ rfl s
  cases ht : s.template? id with
  | none =>
      rw [ht] at hunchanged
      exact ensures_found_bind (fun _ => hunchanged) fun row hrow => by
        simp at hrow
  | some t =>
      obtain ⟨hmem, rfl⟩ := Memory.template?_mem ht
      rw [ht] at hunchanged
      refine ensures_found_bind (fun hnone => by simp at hnone)
        fun row hrow => ?_
      refine ensures_query_bind rfl fun _ _ rows hrows => ?_
      show Agrees s (.listParameters _)
        ((definitions rows).mapError .registry) _
      rw [Memory.definitions_of_reply h.templateIds hmem hrows]
      exact hunchanged

/-- The log of a name is given newest first. -/
theorem listLog_agrees (name : String) :
    Ensures (send (.logOfName name)) (Agrees s (.listLog name))
      ⟨s, .empty⟩ := by
  refine ensures_query rfl fun _ now rows hrows => ?_
  obtain rfl := Memory.log_of_reply h hrows
  exact agrees_of_unchanged (.listLog name) now (.ok _) rfl s

/-- The active version of a component, if it has one. -/
theorem getActiveComponent_agrees (name : String) :
    Ensures (getActiveComponent name) (Agrees s (.getActiveComponent name))
      ⟨s, .empty⟩ := by
  refine ensures_query_bind rfl fun _ now row hrow => ?_
  obtain rfl := Memory.activeComponent_of_reply h hrow
  exact ensures_found
    (agrees_of_unchanged (.getActiveComponent name) now _ rfl s)

/-- A component by its name and number. -/
theorem getComponentVersion_agrees (name : String) (version : Int) :
    Ensures (getComponentVersion name version)
      (Agrees s (.getComponentVersion name version)) ⟨s, .empty⟩ := by
  refine ensures_query_bind rfl fun _ now row hrow => ?_
  obtain rfl := Memory.componentVersion_of_reply h hrow
  exact ensures_found
    (agrees_of_unchanged (.getComponentVersion name version) now _ rfl s)

/-- The active components are given by name. -/
theorem listActiveComponents_agrees :
    Ensures (send .activeComponents) (Agrees s .listActiveComponents)
      ⟨s, .empty⟩ := by
  refine ensures_query rfl fun _ now rows hrows => ?_
  obtain rfl := Memory.activeComponents_of_reply h hrows
  exact agrees_of_unchanged .listActiveComponents now (.ok _) rfl s

end Calls

end Database

end TemplateRegistry
