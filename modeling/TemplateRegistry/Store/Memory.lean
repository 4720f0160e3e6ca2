import TemplateRegistry.Store.Call
/-!
# A store in memory

Everything is kept in lists, in the order in which it was written.  One counter
gives every record its id, whatever the record is of; an id is never given
twice.

Every call is a function from the state to a result and the state after it, so
calls never overlap.  `Memory.answer` has all of them as one function.
-/

namespace TemplateRegistry

/-- The state of the store. -/
structure Memory where
  /-- The id given last. -/
  lastId : Int
  templates : List TemplateVersion
  log : List LogEntry
  components : List Component
  usage : List UsageRecord

/-- How many records there are of one name. -/
structure FamilyCounts where
  versions : Nat
  parameters : Nat
  logEntries : Nat
  usageRecords : Nat
  deriving DecidableEq

namespace Memory

/-- The store without records. -/
def empty : Memory where
  lastId := 0
  templates := []
  log := []
  components := []
  usage := []

/-- A call about something that is there changes the state and has a result; a
failed one has an error. -/
abbrev Action (α : Type) : Type := Memory → Except RegistryError α × Memory

/-- The versions of a name. -/
def family (name : String) (s : Memory) : List TemplateVersion :=
  s.templates.filter fun t => t.name = name

/-- A version by its id. -/
def template? (id : Int) (s : Memory) : Option TemplateVersion :=
  s.templates.find? fun t => t.id = id

/-- The active version of a name. -/
def active? (name : String) (s : Memory) : Option TemplateVersion :=
  (s.family name).find? TemplateVersion.isActive

/-- The highest version number of a name. -/
def maxVersion (name : String) (s : Memory) : Int :=
  highestVersion ((s.family name).map TemplateVersion.version)

/-- The active version of a component. -/
def activeComponent? (name : String) (s : Memory) : Option Component :=
  s.components.find? fun c => c.name = name && c.isActive

/-- The active components, in the order in which they were written. -/
def activeComponents (s : Memory) : List Component :=
  s.components.filter Component.isActive

/-- The result of a read: what was found, or an error. -/
def found {α : Type} (error : RegistryError) : Option α → Except RegistryError α
  | some value => .ok value
  | none => .error error

/-- Every record of a name. -/
def familyCounts (name : String) (s : Memory) : FamilyCounts :=
  let versions := s.family name
  { versions := versions.length
    parameters := (versions.flatMap TemplateVersion.parameters).length
    logEntries := (s.log.filter fun e => e.templateName = name).length
    usageRecords :=
      (s.usage.filter fun u =>
        u.templateId ∈ versions.map TemplateVersion.id).length }

/-- Insert a version into a list of them by ascending number. -/
def insertByVersion (t : TemplateVersion) :
    List TemplateVersion → List TemplateVersion
  | [] => [t]
  | first :: rest =>
    if t.version ≤ first.version then t :: first :: rest
    else first :: insertByVersion t rest

/-- Versions by ascending number. -/
def sortByVersion (versions : List TemplateVersion) : List TemplateVersion :=
  versions.foldr insertByVersion []

/-- Insert an entry into a list of them by descending id. -/
def insertNewestFirst (entry : LogEntry) : List LogEntry → List LogEntry
  | [] => [entry]
  | first :: rest =>
    if first.id ≤ entry.id then entry :: first :: rest
    else first :: insertNewestFirst entry rest

/-- Entries by descending id. -/
def sortNewestFirst (entries : List LogEntry) : List LogEntry :=
  entries.foldr insertNewestFirst []

/-- Insert a component into a list of them by ascending name. -/
def insertByName (c : Component) : List Component → List Component
  | [] => [c]
  | first :: rest =>
    if c.name ≤ first.name then c :: first :: rest
    else first :: insertByName c rest

/-- Components by ascending name. -/
def sortByName (components : List Component) : List Component :=
  components.foldr insertByName []

/-- The state with a log entry more. -/
def appendLog (now : Timestamp) (entry : NewLogEntry) (s : Memory) : Memory :=
  { s with
    lastId := s.lastId + 1
    log := s.log ++ [entry.withId (s.lastId + 1) now] }

/-- The state with a version made active or inactive. -/
def setActive (now : Timestamp) (id : Int) (isActive : Bool) (s : Memory) :
    Memory :=
  { s with templates := s.templates.map fun t =>
      if t.id = id then { t with isActive, updatedAt := now } else t }

/-- The state with a component changed. -/
def updateComponent (id : Int) (change : Component → Component) (s : Memory) :
    Memory :=
  { s with components := s.components.map fun c =>
    if c.id = id then change c else c }

/-- Write a version and its log entry. -/
def insertVersion (now : Timestamp) (new : NewVersion) (entry : NewLogEntry) :
    Action TemplateVersion := fun s =>
  match checkSequence new.name (s.maxVersion new.name) new.version with
  | .error error => (.error error, s)
  | .ok () =>
    match if new.isActive then s.active? new.name else none with
    | some active => (.error (.alreadyActive new.name active.version), s)
    | none =>
      let t := new.withId (s.lastId + 1) now
      let s :=
        { s with lastId := s.lastId + 1, templates := s.templates ++ [t] }
      (.ok t, s.appendLog now entry)

/-- Make a version the only active one of its name.  The version that was
active is made inactive and logged first; a version already active stays as it
is. -/
def swapActive (now : Timestamp) (id : Int) (author : String)
    (notes : Option String) :
    Action TemplateVersion := fun s =>
  match s.template? id with
  | none => (.error (.templateNotFound (toString id)), s)
  | some target =>
    if target.isActive then (.ok target, s)
    else
      let previous :=
        (s.family target.name).find? fun t => t.isActive && t.id ≠ id
      let s :=
        match previous with
        | none => s
        | some old =>
          (s.setActive now old.id false).appendLog now
            (.deactivated target.name old.ref target.ref author notes)
      let s := s.setActive now id true
      match s.template? id with
      | none => (.error (.templateNotFound (toString id)), s)
      | some activated =>
        let entry :=
          .activated target.name target.ref
            (previous.map TemplateVersion.ref) author notes
        (.ok activated, s.appendLog now entry)

/-- Remove every version of a name, their usage records and the log of the
name. -/
def deleteFamily (name : String) : Action Nat := fun s =>
  let ids := (s.family name).map TemplateVersion.id
  if ids.isEmpty then (.error (.templateNotFound name), s)
  else
    (.ok ids.length,
      { s with
        templates := s.templates.filter fun t => t.id ∉ ids
        usage := s.usage.filter fun u => u.templateId ∉ ids
        log := s.log.filter fun e => e.templateName ≠ name })

/-- Record the render of a version. -/
def recordTemplateUsage (now : Timestamp) (id unresolvedCount : Int) :
    Action Unit := fun s =>
  match s.template? id with
  | none => (.error (.templateNotFound (toString id)), s)
  | some _ =>
    let record : UsageRecord :=
      { id := s.lastId + 1, templateId := id, unresolvedCount,
        renderedAt := now }
    (.ok (), { s with lastId := s.lastId + 1, usage := s.usage ++ [record] })

/-- Write the next version of a component in place of the active one. -/
def putComponent (now : Timestamp) (new : NewComponent) :
    Action Component := fun s =>
  match new.prepared with
  | .error error => (.error error, s)
  | .ok new =>
    match checkCycle new.name new.content
      (componentTexts s.activeComponents) with
    | .error error => (.error error, s)
    | .ok () =>
      let versions := (s.components.filter fun c => c.name = new.name).map
        Component.version
      let c := new.withId (s.lastId + 1) (highestVersion versions + 1) now
      let s :=
        match s.activeComponent? new.name with
        | none => s
        | some previous =>
          s.updateComponent previous.id fun c =>
            { c with isActive := false, updatedAt := now }
      (.ok c,
        { s with lastId := s.lastId + 1, components := s.components ++ [c] })

/-- Make the active version of a component inactive. -/
def deactivateComponent (now : Timestamp) (name : String) : Action Component :=
  fun s =>
    match s.activeComponent? name with
    | none => (.error (.componentNotFound name), s)
    | some c =>
      if 0 < c.usageCount then (.error (.componentUsed name c.usageCount), s)
      else
        let deactivate (c : Component) : Component :=
          { c with isActive := false, updatedAt := now }
        (.ok (deactivate c), s.updateComponent c.id deactivate)

/-- Count one more use of a component. -/
def incrementComponentUsage (id : Int) : Action Unit := fun s =>
  if s.components.any fun c => c.id = id then
    (.ok (), s.updateComponent id fun c =>
      { c with usageCount := c.usageCount + 1 })
  else (.error (.componentNotFound (toString id)), s)

/-- Answer a call at an instant. -/
def answer (now : Timestamp) : (call : StoreCall) → Action call.Result
  | .getTemplate id => fun s =>
    (found (.templateNotFound (toString id)) (s.template? id), s)
  | .getVersion name version => fun s =>
    (found (.templateNotFound (versionKey name version))
      ((s.family name).find? fun t => t.version = version), s)
  | .getActive name => fun s =>
    (found (.activeTemplateNotFound name) (s.active? name), s)
  | .listVersions name => fun s => (.ok (sortByVersion (s.family name)), s)
  | .maxVersion name => fun s => (.ok (s.maxVersion name), s)
  | .listParameters id => fun s =>
    (found (.templateNotFound (toString id))
      ((s.template? id).map TemplateVersion.parameters), s)
  | .listLog name => fun s =>
    (.ok (sortNewestFirst (s.log.filter fun e => e.templateName = name)), s)
  | .insertVersion new entry => insertVersion now new entry
  | .swapActive id author notes => swapActive now id author notes
  | .deleteFamily name => deleteFamily name
  | .recordTemplateUsage id unresolvedCount =>
    recordTemplateUsage now id unresolvedCount
  | .getActiveComponent name => fun s =>
    (found (.componentNotFound name) (s.activeComponent? name), s)
  | .getComponentVersion name version => fun s =>
    (found (.componentNotFound (versionKey name version))
      (s.components.find? fun c => c.name = name && c.version = version), s)
  | .listActiveComponents => fun s => (.ok (sortByName s.activeComponents), s)
  | .putComponent new => putComponent now new
  | .deactivateComponent name => deactivateComponent now name
  | .incrementComponentUsage id => incrementComponentUsage id

/-- Answer a call as a store that never hangs. -/
def reply (now : Timestamp) (call : StoreCall) (s : Memory) :
    Outcome call.Result × Memory :=
  let (result, s) := answer now call s
  (.ended (result.mapError .registry), s)

end Memory

end TemplateRegistry
