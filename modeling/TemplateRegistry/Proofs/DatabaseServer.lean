import TemplateRegistry.Proofs.StoredRows
/-!
# A database that does what it is asked

Within what a database is asked there is always something it can do: it gives a
new row an id beyond all others, lists what is to be ordered in order, and the
rest in the order in which it was written.  So what a dialogue ensures is
ensured of some run.

* `Statement.reply`, `DatabaseCall.reply` — such a database;
* `replies_reply` — it does what it is asked;
* `Dialogue.Ensures.perform` — the run of a dialogue over it ends as ensured.
-/

namespace TemplateRegistry

instance (row other : ParameterRow) : Decidable (row.Before other) :=
  inferInstanceAs (Decidable (_ ∨ _))

instance : Std.Total ParameterRow.Before :=
  ⟨fun row other => by unfold ParameterRow.Before; omega⟩

instance : IsTrans ParameterRow ParameterRow.Before :=
  ⟨fun _ _ _ h h' => by unfold ParameterRow.Before at *; omega⟩

/-- The first row of a condition is one that the database may give. -/
theorem firstOf_find? {α : Type} (p : α → Bool) (rows : List α) :
    FirstOf (rows.find? p) (rows.filter p) :=
  ⟨rows.filter p, List.Perm.refl _, List.head?_filter.symm⟩

namespace Memory

/-- An id beyond all that were given. -/
def nextId (s : Memory) : Int :=
  highestVersion (s.lastId :: s.ids) + 1

/-- The next id was not given before. -/
theorem ne_nextId {s : Memory} {id : Int} (h : id ∈ s.ids) : id ≠ s.nextId := by
  have hle := le_highestVersion (List.mem_cons_of_mem s.lastId h)
  unfold nextId
  omega

end Memory

namespace Statement

/-- A reply to a statement. -/
def reply (id : Int) (now : Timestamp) (s : Memory) :
    (statement : Statement) → statement.Result
  | templateById templateId => s.templateTable.find? fun t => t.id = templateId
  | templateByVersion name version =>
    s.templateTable.find? fun t => t.name = name ∧ t.version = version
  | activeTemplate name => s.templateTable.find? fun t =>
    t.name = name ∧ t.isActive = true
  | templatesOfName name | lockTemplates name =>
    (s.templateTable.filter fun t => t.name = name).insertionSort fun t u =>
      t.version ≤ u.version
  | maxVersion name => s.maxVersion name
  | insertTemplate new => (new.withId id now).row
  | setTemplateActive templateId isActive =>
    (s.setActive now templateId isActive).templateTable.find? fun t =>
      t.id = templateId
  | deleteTemplates name =>
    (s.templateTable.filter fun t => t.name = name).length
  | insertParameter _ _ _ => (1 : Nat)
  | parametersOf templateId =>
    ((s.parameterTable fun _ _ => 0).filter fun p =>
        p.templateId = templateId).insertionSort
      fun p q => p.position ≤ q.position
  | parametersOfAll templateIds =>
    ((s.parameterTable fun _ _ => 0).filter fun p =>
        p.templateId ∈ templateIds).insertionSort
      ParameterRow.Before
  | countParameters name =>
    (((s.family name).flatMap TemplateVersion.parameters).length : Int)
  | insertLogEntry entry => entry.withId id now
  | logOfName name =>
    (s.log.filter fun e => e.templateName = name).insertionSort fun d e =>
      e.id ≤ d.id
  | deleteLog name => (s.log.filter fun e => e.templateName = name).length
  | insertUsage templateId unresolvedCount =>
    ⟨id, templateId, unresolvedCount, now⟩
  | countUsage name =>
    ((s.usage.filter fun u =>
      u.templateId ∈ (s.family name).map TemplateVersion.id).length : Int)
  | componentById componentId => s.components.find? fun c => c.id = componentId
  | activeComponent name => s.components.find? fun c =>
    c.name = name ∧ c.isActive = true
  | componentByVersion name version => s.components.find? fun c =>
    c.name = name ∧ c.version = version
  | activeComponents =>
    (s.components.filter Component.isActive).insertionSort fun c d =>
      c.name ≤ d.name
  | lockComponents name =>
    (s.components.filter fun c => c.name = name).insertionSort fun c d =>
      c.version ≤ d.version
  | insertComponent new version => new.withId id version now
  | deactivateComponent componentId =>
    (s.components.filter fun c => c.id = componentId ∧ c.isActive = true).length
  | incrementUsage componentId =>
    (s.components.filter fun c => c.id = componentId).length
  | ping => (1 : Nat)

/-- The reply of the server is one that the statement allows. -/
theorem replies_reply (now : Timestamp) (s : Memory) (statement : Statement) :
    statement.Replies s.nextId now s (statement.reply s.nextId now s) := by
  cases statement with
  | maxVersion name => exact Memory.replies_maxVersion name s
  | insertTemplate new =>
      refine ⟨rfl, fun t ht => Memory.ne_nextId ?_⟩
      exact List.mem_append_left _ (List.mem_map_of_mem ht)
  | insertComponent new version =>
      refine ⟨rfl, fun c hc => Memory.ne_nextId ?_⟩
      exact List.mem_append_right _
        (List.mem_append_left _ (List.mem_map_of_mem hc))
  | insertLogEntry entry =>
      refine ⟨rfl, fun e he => Memory.ne_nextId ?_⟩
      exact List.mem_append_right _ (List.mem_append_right _
        (List.mem_append_left _ (List.mem_map_of_mem he)))
  | insertUsage templateId unresolvedCount =>
      refine ⟨rfl, fun u hu => Memory.ne_nextId ?_⟩
      exact List.mem_append_right _ (List.mem_append_right _
        (List.mem_append_right _ (List.mem_map_of_mem hu)))
  | templatesOfName name => exact listing_by TemplateVersion.version _
  | lockTemplates name => exact listing_by TemplateVersion.version _
  | parametersOf templateId => exact ⟨_, listing_by ParameterRow.position _⟩
  | parametersOfAll templateIds =>
      exact ⟨_, listing_insertionSort ParameterRow.Before _⟩
  | logOfName name =>
      exact listing_by (fun e : LogEntry => OrderDual.toDual e.id) _
  | activeComponents => exact listing_by Component.name _
  | lockComponents name => exact listing_by Component.version _
  | _ => first | rfl | exact firstOf_find? _ _

end Statement

/-- A reply to a request within a session, and the session after it. -/
def DatabaseCall.reply : (call : DatabaseCall) → Session → call.Result × Session
  | .send statement, x =>
    (.ok (statement.reply x.records.nextId ⟨0, 0⟩ x.records),
      ⟨statement.carryOut x.records.nextId ⟨0, 0⟩ x.records,
        x.journal.note (.send statement)⟩)
  | .connect url maxConnections, x =>
    (.ok (), ⟨x.records, x.journal.note (.connect url maxConnections)⟩)
  | .begin, x => (.ok (), ⟨x.records, x.journal.note .begin⟩)
  | .commit, x => (.ok (), ⟨x.records, x.journal.note .commit⟩)
  | .rollback, x => ((), ⟨x.records, x.journal.note .rollback⟩)
  | .appliedMigrations, x =>
    (.ok [], ⟨x.records, x.journal.note .appliedMigrations⟩)
  | .applyMigration migration, x =>
    (.ok (), ⟨x.records, x.journal.note (.applyMigration migration)⟩)

/-- **There is always something to reply.** -/
theorem replies_reply (call : DatabaseCall) (x : Session) :
    Session.Replies call x (call.reply x).1 (call.reply x).2 := by
  cases call with
  | send statement =>
      refine ⟨⟨x.records.nextId, ⟨0, 0⟩, _, rfl, Statement.replies_reply _ _ _,
        ?_⟩, rfl⟩
      cases statement <;> first | exact rfl | trivial
  | begin => exact ⟨⟨rfl, rfl⟩, rfl⟩
  | commit => exact ⟨⟨rfl, rfl⟩, rfl⟩
  | _ => exact ⟨trivial, rfl⟩

/-- The run of a dialogue over such a database. -/
def Dialogue.perform {α : Type} (d : Dialogue α) (x : Session) :
    Except EngineError α × Session :=
  Program.run (I := DatabaseCalls) DatabaseCall.reply d.run x

/-- What a dialogue ensures is so at the end of that run. -/
theorem Dialogue.Ensures.perform {α : Type} {d : Dialogue α}
    {Q : Except EngineError α → Session → Prop} {x : Session}
    (h : d.Ensures Q x) :
    Q (d.perform x).1 (d.perform x).2 :=
  Program.Ensures.run replies_reply h

end TemplateRegistry
