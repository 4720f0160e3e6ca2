import Mathlib.Data.List.Perm.Basic
import TemplateRegistry.Database.Store
import TemplateRegistry.Proofs.MemoryEffects
import TemplateRegistry.Proofs.ProgramRuns
/-!
# What a database does

A dialogue is a program whose requests the database replies to.  Here the
database is one that does what it is asked: every `SELECT` gets exactly the rows
its text and values ask for, in an order its `ORDER BY` allows; every other
statement succeeds, with the row or the count it implies, and leaves the records
changed as it says.  Which ids and instants it gives, and in which order it
lists what no `ORDER BY` orders, is up to the database.

* `Statement.Replies`, `Statement.carryOut` — what a statement is replied with,
  and what it makes of the records;
* `Journal` — the writes of a session, those of a transaction once it is
  committed;
* `Dialogue.ensures_bind`, `Dialogue.ensures_sendOr`,
  `Dialogue.ensures_transaction` — what a dialogue ensures, by its parts.
-/

namespace TemplateRegistry

/-! ## Rows -/

/-- A version as its row has it: its declarations are in a table of their
own. -/
def TemplateVersion.row (t : TemplateVersion) : TemplateVersion :=
  { t with parameters := [] }

/-- The row of a declaration. -/
def ParameterRow.of (id templateId position : Int) (param : ParameterDef) :
    ParameterRow where
  id := id
  templateId := templateId
  position := position
  name := param.name
  description := param.description
  required := param.required
  typeName := param.type.name
  defaultValue := param.defaultValue

/-- The rows of the declarations of a version, under given ids. -/
def TemplateVersion.parameterRows (key : Nat → Int) (t : TemplateVersion) :
    List ParameterRow :=
  t.parameters.zipIdx.map fun param => .of (key param.2) t.id param.2 param.1

/-- Whether a row comes before another: by version, then by place. -/
def ParameterRow.Before (row other : ParameterRow) : Prop :=
  row.templateId < other.templateId ∨
    row.templateId = other.templateId ∧ row.position ≤ other.position

namespace Memory

/-- The table of versions. -/
def templateTable (s : Memory) : List TemplateVersion :=
  s.templates.map TemplateVersion.row

/-- The table of declarations, under given ids. -/
def parameterTable (key : Int → Nat → Int) (s : Memory) : List ParameterRow :=
  s.templates.flatMap fun t => t.parameterRows (key t.id)

/-- The state with a declaration more, at its place. -/
def addParameter (templateId position : Int) (param : ParameterDef)
    (s : Memory) : Memory :=
  { s with templates := s.templates.map fun t =>
      if t.id = templateId then
        { t with parameters := t.parameters.take position.toNat ++
            param :: t.parameters.drop position.toNat }
      else t }

end Memory

namespace SqlValue

/-! What the database reads out of a bound value, for a column of a type. -/

def asText : SqlValue → String
  | text value => value
  | _ => ""

def asInteger : SqlValue → Int
  | integer value => value
  | _ => 0

def asBool : SqlValue → Bool
  | bool value => value
  | _ => false

def asTexts : SqlValue → List String
  | texts items => items
  | _ => []

def asObject : SqlValue → Metadata
  | document (.object entries) => entries
  | _ => []

def asText? : SqlValue → Option String
  | text value => some value
  | _ => none

def asInteger? : SqlValue → Option Int
  | integer value => some value
  | _ => none

def asDocument? : SqlValue → Option Value
  | document value => some value
  | _ => none

end SqlValue

/-- Rows in an order that is asked for. -/
structure Listing {α : Type} (ordered : α → α → Prop) (rows matching : List α) :
    Prop where
  perm : rows.Perm matching
  pairwise : rows.Pairwise ordered

/-- The first of some rows, in whatever order they come. -/
def FirstOf {α : Type} (row : Option α) (matching : List α) : Prop :=
  ∃ rows : List α, rows.Perm matching ∧ row = rows.head?

/-! ## Statements -/

namespace Statement

/-- Whether a statement writes. -/
def isWrite : Statement → Bool
  | insertTemplate _ | setTemplateActive _ _ | deleteTemplates _ |
      insertParameter _ _ _ => true
  | insertLogEntry _ | deleteLog _ | insertUsage _ _ => true
  | insertComponent _ _ | deactivateComponent _ | incrementUsage _ => true
  | _ => false

/-- The records after a statement, by the values bound to it.  A row it inserts
gets an id and an instant; a row it changes gets the instant.  Declarations and
usage records go with the versions they belong to. -/
def carryOut (id : Int) (now : Timestamp) (statement : Statement) (s : Memory) :
    Memory :=
  match statement, statement.values with
  | insertTemplate _, [name, version, content, category, tags, isActive,
      createdBy, previousId] =>
    s.addVersion {
      id
      name := name.asText
      version := version.asInteger
      content := content.asText
      category := category.asText
      tags := tags.asTexts
      isActive := isActive.asBool
      createdBy := createdBy.asText
      previousId := previousId.asInteger?
      createdAt := now
      updatedAt := now
      parameters := [] }
  | setTemplateActive _ _, [templateId, isActive] =>
    s.setActive now templateId.asInteger isActive.asBool
  | deleteTemplates _, [name] => {
      s with
      templates := s.templates.filter fun t => t.name ≠ name.asText
      usage := s.usage.filter fun u =>
        u.templateId ∉ (s.family name.asText).map TemplateVersion.id }
  | insertParameter _ _ _,
      [templateId, position, name, description, required, typeName,
        defaultValue] =>
    match ParameterType.find? typeName.asText with
    | none => s
    | some type =>
      s.addParameter templateId.asInteger position.asInteger {
        name := name.asText
        description := description.asText
        required := required.asBool
        type
        defaultValue := defaultValue.asDocument? }
  | insertLogEntry _, [templateName, version, action, author, notes,
      metadata] => {
      s with
      lastId := id
      log := s.log ++ [{
        id
        templateName := templateName.asText
        version := version.asInteger
        actionName := action.asText
        author := author.asText
        notes := notes.asText?
        metadata := metadata.asObject
        timestamp := now }] }
  | deleteLog _, [name] =>
    { s with log := s.log.filter fun e => e.templateName ≠ name.asText }
  | insertUsage _ _, [templateId, unresolvedCount] =>
    s.addUsage ⟨id, templateId.asInteger, unresolvedCount.asInteger, now⟩
  | insertComponent _ _, [name, version, content, category, tags] =>
    s.addComponent {
      id
      name := name.asText
      version := version.asInteger
      content := content.asText
      category := category.asText
      tags := tags.asTexts
      isActive := true
      usageCount := 0
      createdAt := now
      updatedAt := now }
  | deactivateComponent _, [componentId] => {
      s with
      components := s.components.map fun c =>
        if c.id = componentId.asInteger ∧ c.isActive = true then
          c.deactivated now
        else c }
  | incrementUsage _, [componentId] =>
    s.updateComponent componentId.asInteger fun c =>
      { c.usedOnceMore with updatedAt := now }
  | _, _ => s

section CarryOut
variable (id : Int) (now : Timestamp) (s : Memory)

/-- A version is inserted as it is. -/
theorem carryOut_insertTemplate (new : NewVersion) :
    (insertTemplate new).carryOut id now s =
      s.addVersion (new.withId id now).row := by
  have hprevious :
      (SqlValue.option .integer new.previousId).asInteger? =
        new.previousId := by
    cases new.previousId <;> rfl
  simp only [carryOut, values, hprevious]
  rfl

/-- A declaration is inserted as it is. -/
theorem carryOut_insertParameter (templateId position : Int)
    (param : ParameterDef) :
    (insertParameter templateId position param).carryOut id now s =
      s.addParameter templateId position param := by
  have hdefault : (SqlValue.option .document param.defaultValue).asDocument? =
      param.defaultValue := by
    cases param.defaultValue <;> rfl
  simp only [carryOut, values, hdefault, SqlValue.asText,
    ParameterType.find?_name]
  rfl

/-- An entry of the log is inserted as it is. -/
theorem carryOut_insertLogEntry (entry : NewLogEntry) :
    (insertLogEntry entry).carryOut id now s =
      { s with lastId := id, log := s.log ++ [entry.withId id now] } := by
  have hnotes : (SqlValue.option .text entry.notes).asText? = entry.notes := by
    cases entry.notes <;> rfl
  simp only [carryOut, values, hnotes]
  rfl

/-- Setting the mark of a version is what the store in memory does. -/
theorem carryOut_setTemplateActive (templateId : Int) (isActive : Bool) :
    (setTemplateActive templateId isActive).carryOut id now s =
      s.setActive now templateId isActive :=
  rfl

/-- The row of a component is added as the store in memory adds it. -/
theorem carryOut_insertComponent (new : NewComponent) (version : Int) :
    (insertComponent new version).carryOut id now s =
      s.addComponent (new.withId id version now) :=
  rfl

/-- Clearing the mark of a component changes the row with its id. -/
theorem carryOut_deactivateComponent (componentId : Int) :
    (deactivateComponent componentId).carryOut id now s =
      { s with components := s.components.map fun c =>
          if c.id = componentId ∧ c.isActive = true then c.deactivated now
          else c } :=
  rfl

/-- Counting a use changes the row with the id, and when it was changed. -/
theorem carryOut_incrementUsage (componentId : Int) :
    (incrementUsage componentId).carryOut id now s =
      s.updateComponent componentId fun c =>
        { c.usedOnceMore with updatedAt := now } :=
  rfl

end CarryOut

/-- What a statement is replied with.  The id of a row it inserts is new to the
table of that row. -/
def Replies (id : Int) (now : Timestamp) (s : Memory) :
    (statement : Statement) → statement.Result → Prop
  | templateById templateId, row =>
    FirstOf row (s.templateTable.filter fun t => t.id = templateId)
  | templateByVersion name version, row =>
    FirstOf row (s.templateTable.filter fun t => t.name = name ∧
      t.version = version)
  | activeTemplate name, row =>
    FirstOf row (s.templateTable.filter fun t => t.name = name ∧
      t.isActive = true)
  | templatesOfName name, rows =>
    Listing (fun t u => t.version ≤ u.version) rows
      (s.templateTable.filter fun t => t.name = name)
  | maxVersion name, highest =>
    (∀ t ∈ s.templateTable, t.name = name → t.version ≤ highest) ∧
      ((∃ t ∈ s.templateTable, t.name = name ∧ t.version = highest) ∨
        (∀ t ∈ s.templateTable, t.name ≠ name) ∧ highest = 0)
  | lockTemplates name, rows =>
    Listing (fun t u => t.version ≤ u.version) rows
      (s.templateTable.filter fun t => t.name = name)
  | insertTemplate new, row =>
    row = (new.withId id now).row ∧ ∀ t ∈ s.templates, t.id ≠ id
  | setTemplateActive templateId isActive, row =>
    FirstOf row (((s.setActive now templateId isActive).templateTable).filter
      fun t => t.id = templateId)
  | deleteTemplates name, count =>
    count = (s.templateTable.filter fun t => t.name = name).length
  | insertParameter _ _ _, count => count = 1
  | parametersOf templateId, rows =>
    ∃ key, Listing (fun p q => p.position ≤ q.position) rows
      ((s.parameterTable key).filter fun p => p.templateId = templateId)
  | parametersOfAll templateIds, rows =>
    ∃ key, Listing ParameterRow.Before rows
      ((s.parameterTable key).filter fun p => p.templateId ∈ templateIds)
  | countParameters name, count =>
    count = ((s.family name).flatMap TemplateVersion.parameters).length
  | insertLogEntry entry, row =>
    row = entry.withId id now ∧ ∀ e ∈ s.log, e.id ≠ id
  | logOfName name, rows =>
    Listing (fun d e => e.id ≤ d.id) rows
      (s.log.filter fun e => e.templateName = name)
  | deleteLog name, count =>
    count = (s.log.filter fun e => e.templateName = name).length
  | insertUsage templateId unresolvedCount, row =>
    row = ⟨id, templateId, unresolvedCount, now⟩ ∧ ∀ u ∈ s.usage, u.id ≠ id
  | countUsage name, count =>
    count = (s.usage.filter fun u =>
      u.templateId ∈ (s.family name).map TemplateVersion.id).length
  | componentById componentId, row =>
    FirstOf row (s.components.filter fun c => c.id = componentId)
  | activeComponent name, row =>
    FirstOf row (s.components.filter fun c => c.name = name ∧ c.isActive = true)
  | componentByVersion name version, row =>
    FirstOf row (s.components.filter fun c => c.name = name ∧
      c.version = version)
  | activeComponents, rows =>
    Listing (fun c d => c.name ≤ d.name) rows
      (s.components.filter Component.isActive)
  | lockComponents name, rows =>
    Listing (fun c d => c.version ≤ d.version) rows
      (s.components.filter fun c => c.name = name)
  | insertComponent new version, row =>
    row = new.withId id version now ∧ ∀ c ∈ s.components, c.id ≠ id
  | deactivateComponent componentId, count =>
    count = (s.components.filter fun c => c.id = componentId ∧
      c.isActive = true).length
  | incrementUsage componentId, count =>
    count = (s.components.filter fun c => c.id = componentId).length
  | ping, count => count = 1

/-- The records a statement may leave.  What a deletion of versions does to
other rows that name them is for the schema to say. -/
def Leaves (id : Int) (now : Timestamp) (s after : Memory)
    (statement : Statement) : Prop :=
  match statement with
  | deleteTemplates _ => True
  | _ => after = statement.carryOut id now s

/-- A statement that does not write leaves the records alone. -/
theorem eq_of_leaves {statement : Statement}
    (hquery : statement.isWrite = false) {id : Int} {now : Timestamp}
    {s after : Memory} (h : statement.Leaves id now s after) : after = s := by
  cases statement <;> first | exact h | simp [isWrite] at hquery

end Statement

/-! ## Sessions -/

/-- The writes of a session so far. -/
structure Journal where
  /-- Those that stay. -/
  kept : List Statement
  /-- Those of the open transaction, if there is one. -/
  pending : Option (List Statement)

namespace Journal

/-- The journal of a session that begins. -/
def empty : Journal :=
  ⟨[], none⟩

/-- One more write. -/
def add (j : Journal) (statement : Statement) : Journal :=
  match j.pending with
  | none => { j with kept := j.kept ++ [statement] }
  | some writes => { j with pending := some (writes ++ [statement]) }

/-- One more request. -/
def note (j : Journal) : DatabaseCall → Journal
  | .send statement => if statement.isWrite then j.add statement else j
  | .begin => { j with pending := some [] }
  | .commit => ⟨j.kept ++ j.pending.getD [], none⟩
  | .rollback => { j with pending := none }
  | _ => j

end Journal

/-- A session with the database: the records, and what was written. -/
structure Session where
  records : Memory
  journal : Journal

/-- What the database replies to a request, and the records after it.  What it
makes of the records when a transaction is given up is left open, and so is all
that has nothing to do with records. -/
def DatabaseCall.Replies : (call : DatabaseCall) → Memory → call.Result →
    Memory → Prop
  | .send statement, s, reply, after =>
    ∃ id now value, reply = .ok value ∧ statement.Replies id now s value ∧
      statement.Leaves id now s after
  | .begin, s, reply, after => reply = .ok () ∧ after = s
  | .commit, s, reply, after => reply = .ok () ∧ after = s
  | _, _, _, _ => True

/-- A request within a session. -/
def Session.Replies (call : DatabaseCall) (x : Session) (reply : call.Result)
    (y : Session) : Prop :=
  call.Replies x.records reply y.records ∧ y.journal = x.journal.note call

/-! ## Dialogues -/

namespace Dialogue

variable {α β : Type}

/-- What holds at the end of a dialogue, however the database replies. -/
def Ensures (d : Dialogue α) (Q : Except EngineError α → Session → Prop)
    (x : Session) : Prop :=
  Program.Ensures (I := DatabaseCalls) Session.Replies Q d.run x

variable {Q : Except EngineError α → Session → Prop} {x : Session}

theorem ensures_pure {value : α} (h : Q (.ok value) x) :
    Ensures (pure value : Dialogue α) Q x := h

theorem ensures_fail {error : RegistryError}
    (h : Q (.error (.registry error)) x) :
    Ensures (fail error : Dialogue α) Q x := h

/-- What is left to ensure when a dialogue goes on after a part of it. -/
def Afterwards (f : β → Dialogue α)
    (Q : Except EngineError α → Session → Prop) :
    Except EngineError β → Session → Prop
  | .error error, y => Q (.error error) y
  | .ok value, y => Ensures (f value) Q y

/-- What comes afterwards ensures it. -/
theorem ensures_bind {d : Dialogue β} {f : β → Dialogue α}
    (h : Ensures d (Afterwards f Q) x) :
    Ensures (d >>= f) Q x := by
  refine (Program.ensures_bind d.run x).mpr ?_
  have hcont :
    (fun value y => Program.Ensures (I := DatabaseCalls) Session.Replies Q
      (ExceptT.bindCont f value) y) = Afterwards f Q := by
    funext result y
    cases result with
    | error error => rfl
    | ok value => rfl
  rw [hcont]
  exact h

/-- A check that sends nothing goes by its result. -/
theorem ensures_lift_bind {d : Dialogue β} {f : β → Dialogue α}
    {result : Except EngineError β} (hd : d.run = .done result)
    (h : Afterwards f Q result x) : Ensures (d >>= f) Q x := by
  apply ensures_bind
  rw [Ensures, hd]
  exact h

/-- A check either ends the dialogue or is passed. -/
theorem ensures_ofExcept_bind {result : Except RegistryError β}
    {f : β → Dialogue α}
    (herror : ∀ error, result = .error error → Q (.error (.registry error)) x)
    (hok : ∀ value, result = .ok value → Ensures (f value) Q x) :
    Ensures (ofExcept result >>= f) Q x := by
  apply ensures_lift_bind rfl
  cases result with
  | error error => exact herror error rfl
  | ok value => exact hok value rfl

/-- What is not found ends the dialogue. -/
theorem ensures_found_bind {error : RegistryError} {value : Option β}
    {f : β → Dialogue α} (hnone : value = none → Q (.error (.registry error)) x)
    (hsome : ∀ found, value = some found → Ensures (f found) Q x) :
    Ensures (found error value >>= f) Q x := by
  cases value with
  | none => exact ensures_lift_bind rfl (hnone rfl)
  | some found => exact ensures_lift_bind rfl (hsome found rfl)

/-- What is found, or the error of a store that does not find it. -/
theorem ensures_found {error : RegistryError} {value : Option α}
    (h : Q ((Memory.found error value).mapError .registry) x) :
    Ensures (found error value) Q x := by
  cases value with
  | none => exact h
  | some found => exact h

/-- **A statement** succeeds. -/
theorem ensures_sendOr {meaning : DatabaseError → EngineError}
    {statement : Statement}
    {Q : Except EngineError statement.Result → Session → Prop}
    (h : ∀ id now value after, statement.Replies id now x.records value →
      statement.Leaves id now x.records after →
      Q (.ok value) ⟨after, x.journal.note (.send statement)⟩) :
    Ensures (sendOr meaning statement) Q x := by
  rintro reply ⟨after, journal⟩ ⟨⟨id, now, value, rfl, hreplies, hleaves⟩,
    hjournal⟩
  obtain rfl : journal = x.journal.note (.send statement) := hjournal
  exact h id now value after hreplies hleaves

/-- After a statement, with any reply and any state that it may leave. -/
theorem ensures_sendOr_bind {meaning : DatabaseError → EngineError}
    {statement : Statement} {f : statement.Result → Dialogue α}
    (h : ∀ id now value after, statement.Replies id now x.records value →
      statement.Leaves id now x.records after →
      Ensures (f value) Q ⟨after, x.journal.note (.send statement)⟩) :
    Ensures (sendOr meaning statement >>= f) Q x :=
  ensures_bind (ensures_sendOr h)

/-- **A query** leaves all as it is. -/
theorem ensures_query {meaning : DatabaseError → EngineError}
    {statement : Statement}
    {Q : Except EngineError statement.Result → Session → Prop}
    (hquery : statement.isWrite = false)
    (h : ∀ id now value, statement.Replies id now x.records value →
      Q (.ok value) x) :
    Ensures (sendOr meaning statement) Q x := by
  refine ensures_sendOr fun id now value after hreplies hleaves => ?_
  have hafter : after = x.records := Statement.eq_of_leaves hquery hleaves
  have hjournal : x.journal.note (.send statement) = x.journal := by
    simp [Journal.note, hquery]
  rw [hafter, hjournal]
  exact h id now value hreplies

/-- After a query, which leaves the rows as they were. -/
theorem ensures_query_bind {meaning : DatabaseError → EngineError}
    {statement : Statement} {f : statement.Result → Dialogue α}
    (hquery : statement.isWrite = false)
    (h : ∀ id now value, statement.Replies id now x.records value →
      Ensures (f value) Q x) :
    Ensures (sendOr meaning statement >>= f) Q x :=
  ensures_bind (ensures_query hquery h)

/-- What is left to ensure when the body of a transaction ends. -/
def Ended (Q : Except EngineError α → Session → Prop) :
    Except EngineError α → Session → Prop
  | .error error, y =>
    ∀ after, Q (.error error) ⟨after, y.journal.note .rollback⟩
  | .ok value, y => Q (.ok value) ⟨y.records, y.journal.note .commit⟩

/-- **A transaction** keeps what was written in it if its body ends well, and
drops it otherwise. -/
theorem ensures_transaction {meaning : α → DatabaseError → EngineError}
    {body : Dialogue α}
    (h : Ensures body (Ended Q) ⟨x.records, x.journal.note .begin⟩) :
    Ensures (transaction meaning body) Q x := by
  rintro reply ⟨records, journal⟩ ⟨⟨rfl, hrecords⟩, hjournal⟩
  obtain rfl : records = x.records := hrecords
  obtain rfl : journal = x.journal.note .begin := hjournal
  refine (Program.ensures_bind body.run _).mpr (Program.Ensures.mono h ?_)
  intro result y hresult
  cases result with
  | error error =>
      rintro ⟨⟩ ⟨after, journal⟩ ⟨-, hjournal⟩
      obtain rfl : journal = y.journal.note .rollback := hjournal
      exact hresult after
  | ok value =>
      rintro reply ⟨after, journal⟩ ⟨⟨rfl, hafter⟩, hjournal⟩
      obtain rfl : after = y.records := hafter
      obtain rfl : journal = y.journal.note .commit := hjournal
      exact hresult

end Dialogue

end TemplateRegistry
