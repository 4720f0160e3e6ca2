import TemplateRegistry.Database.Dialogue
import TemplateRegistry.Database.RowGroups
import TemplateRegistry.Store.Call
/-!
# A store in the database

The calls of a store as dialogues with the database.  A write of more than one
row is one transaction, which first locks every row of the name it is about, so
that writers of one name come one after the other.  Where there is no row to
lock yet, a unique constraint catches the second writer.

`Database.store` gives the dialogue of each call.
-/

namespace TemplateRegistry.Database

open Dialogue

/-- The constraint that gives each version number of a name out once. -/
def versionConstraint : String := "uq_templates_name_version"

/-- The declarations of rows, unless one has an unknown type. -/
def definitions (rows : List ParameterRow) :
    Except RegistryError (List ParameterDef) :=
  rows.mapM ParameterRow.toDef

/-- A version with its declarations. -/
def withParameters (t : TemplateVersion) : Dialogue TemplateVersion := do
  let rows ← send (.parametersOf t.id)
  let parameters ← ofExcept (definitions rows)
  return { t with parameters }

/-- What a version that could not be inserted means: the number is taken, or
what it means for any template. -/
def insertFailure (new : NewVersion) (error : DatabaseError) : EngineError :=
  if error.uniqueViolation? = some versionConstraint then
    if new.version = 1 then .registry (.duplicateName new.name)
    else .registry
      (.invalidVersionSequence new.name new.version (new.version + 1))
  else .ofDatabase "Template" new.name error

/-- A version by its id. -/
def getTemplate (id : Int) : Dialogue TemplateVersion := do
  let row ← send (.templateById id)
  let t ← found (.templateNotFound (toString id)) row
  withParameters t

/-- A version by name and number. -/
def getVersion (name : String) (version : Int) : Dialogue TemplateVersion := do
  let row ← send (.templateByVersion name version)
  let t ← found (.templateNotFound (versionKey name version)) row
  withParameters t

/-- The active version of a name. -/
def getActive (name : String) : Dialogue TemplateVersion := do
  let row ← send (.activeTemplate name)
  let t ← found (.activeTemplateNotFound name) row
  withParameters t

/-- Versions with their declarations, out of groups of rows.  The group of a
version is used up with it: of two versions with one id only the first gets the
rows. -/
def attachGroups (groups : RowGroups) :
    List TemplateVersion → Except RegistryError (List TemplateVersion)
  | [] => .ok []
  | t :: rest => do
    let parameters ← definitions (groups.rowsOf t.id)
    let versions ← attachGroups (groups.erase t.id) rest
    return { t with parameters } :: versions

/-- Versions with their declarations, out of rows of all of them. -/
def attachParameters (rows : List ParameterRow)
    (versions : List TemplateVersion) :
    Except RegistryError (List TemplateVersion) :=
  attachGroups (.ofRows rows) versions

/-- Every version of a name, oldest first. -/
def listVersions (name : String) : Dialogue (List TemplateVersion) := do
  let versions ← send (.templatesOfName name)
  if versions.isEmpty then
    return []
  else
    let rows ← send (.parametersOfAll (versions.map TemplateVersion.id))
    ofExcept (attachParameters rows versions)

/-- The declarations of a version. -/
def listParameters (id : Int) : Dialogue (List ParameterDef) := do
  let row ← send (.templateById id)
  let _ ← found (.templateNotFound (toString id)) row
  let rows ← send (.parametersOf id)
  ofExcept (definitions rows)

/-- Insert the declarations of a version, in their order. -/
def insertParameters (id : Int) (position : Nat) :
    List ParameterDef → Dialogue Unit
  | [] => return ()
  | param :: rest => do
    let _ ← send (.insertParameter id position param)
    insertParameters id (position + 1) rest

/-- Check that a name has no active version. -/
def checkNoneActive (name : String) (versions : List TemplateVersion) :
    Except RegistryError Unit :=
  match versions.find? TemplateVersion.isActive with
  | some active => .error (.alreadyActive name active.version)
  | none => .ok ()

/-- Write a version, its declarations and its log entry. -/
def insertVersion (new : NewVersion) (entry : NewLogEntry) :
    Dialogue TemplateVersion := do
  let row ← transaction (fun _ => insertFailure new) do
    let family ← send (.lockTemplates new.name)
    let highest := highestVersion (family.map TemplateVersion.version)
    ofExcept (checkSequence new.name highest new.version)
    if new.isActive then
      ofExcept (checkNoneActive new.name family)
    let row ← sendOr (insertFailure new) (.insertTemplate new)
    insertParameters row.id 0 new.fields.parameters
    let _ ← send (.insertLogEntry entry)
    return row
  return { row with parameters := new.fields.parameters }

/-- How a version came to be active. -/
inductive Swap
  /-- It was so before. -/
  | unchanged (target : TemplateVersion)
  /-- It took over, under its name. -/
  | activated (name : String) (target : TemplateVersion)

namespace Swap

/-- The version that is active. -/
def target : Swap → TemplateVersion
  | unchanged target => target
  | activated _ target => target

/-- What a commit that failed means. -/
def commitFailure : Swap → DatabaseError → EngineError
  | unchanged _ => .database
  | activated name _ => .ofDatabase "Template" name

end Swap

/-- Make the version that was active inactive, and log it. -/
def deactivatePrevious (name : String) (target : VersionRef) (author : String)
    (notes : Option String) : Option TemplateVersion → Dialogue Unit
  | none => return ()
  | some old => do
    let _ ← send (.setTemplateActive old.id false)
    let _ ← send
      (.insertLogEntry (.deactivated name old.ref target author notes))

/-- The part of making a version active that is one transaction.  The version
is read again under the lock, as it may have been deleted before. -/
def swapLocked (id : Int) (author : String) (notes : Option String) :
    Dialogue Swap := do
  let row ← send (.templateById id)
  let seen ← found (.templateNotFound (toString id)) row
  let name := seen.name
  let family ← send (.lockTemplates name)
  let target ← found (.templateNotFound (toString id))
    (family.find? fun t => t.id = id)
  if target.isActive then
    return .unchanged target
  else
    let previous := family.find? fun t => t.isActive && t.id ≠ id
    deactivatePrevious name target.ref author notes previous
    let row ← sendOr (.ofDatabase "Template" name) (.setTemplateActive id true)
    let activated ← found (.templateNotFound (toString id)) row
    let entry :=
      .activated name target.ref (previous.map TemplateVersion.ref) author notes
    let _ ← send (.insertLogEntry entry)
    return .activated name activated

/-- Make a version the only active one of its name. -/
def swapActive (id : Int) (author : String) (notes : Option String) :
    Dialogue TemplateVersion := do
  let swap ← transaction Swap.commitFailure (swapLocked id author notes)
  withParameters swap.target

/-- Remove every version of a name.  Declarations and usage records go with the
versions. -/
def deleteFamily (name : String) : Dialogue Nat :=
  transaction (fun _ => .database) do
    let family ← send (.lockTemplates name)
    if family.isEmpty then
      fail (.templateNotFound name)
    else
      let _ ← send (.deleteLog name)
      send (.deleteTemplates name)

/-- Record the render of a version. -/
def recordTemplateUsage (id unresolvedCount : Int) : Dialogue Unit := do
  let row ← send (.templateById id)
  let _ ← found (.templateNotFound (toString id)) row
  let _ ← send (.insertUsage id unresolvedCount)

/-- The active version of a component. -/
def getActiveComponent (name : String) : Dialogue Component := do
  let row ← send (.activeComponent name)
  found (.componentNotFound name) row

/-- A version of a component. -/
def getComponentVersion (name : String) (version : Int) :
    Dialogue Component := do
  let row ← send (.componentByVersion name version)
  found (.componentNotFound (versionKey name version)) row

/-- Make the active one of some versions of a component inactive. -/
def deactivateActive (family : List Component) : Dialogue Unit :=
  match family.find? Component.isActive with
  | none => return ()
  | some previous => do
    let _ ← send (.deactivateComponent previous.id)

/-- Write the next version of a component in place of the active one. -/
def putComponent (new : NewComponent) : Dialogue Component := do
  let new ← ofExcept new.prepared
  let failure := EngineError.ofDatabase "Component" new.name
  transaction (fun _ => failure) do
    let family ← send (.lockComponents new.name)
    let active ← send .activeComponents
    ofExcept (checkCycle new.name new.content (componentTexts active))
    deactivateActive family
    let version := highestVersion (family.map Component.version) + 1
    sendOr failure (.insertComponent new version)

/-- Make the active version of a component inactive, unless it was used. -/
def deactivateComponent (name : String) : Dialogue Component :=
  transaction (fun _ => .database) do
    let family ← send (.lockComponents name)
    let active ← found (.componentNotFound name)
      (family.find? Component.isActive)
    if 0 < active.usageCount then
      fail (.componentUsed name active.usageCount)
    else
      let _ ← send (.deactivateComponent active.id)
      let row ← send (.componentById active.id)
      found (.componentNotFound name) row

/-- Count one more use of a component. -/
def incrementComponentUsage (id : Int) : Dialogue Unit := do
  let affected ← send (.incrementUsage id)
  if affected = 0 then
    fail (.componentNotFound (toString id))

/-- The dialogue of a call. -/
def store : (call : StoreCall) → Dialogue call.Result
  | .getTemplate id => getTemplate id
  | .getVersion name version => getVersion name version
  | .getActive name => getActive name
  | .listVersions name => listVersions name
  | .maxVersion name => send (.maxVersion name)
  | .listParameters id => listParameters id
  | .listLog name => send (.logOfName name)
  | .insertVersion new entry => insertVersion new entry
  | .swapActive id author notes => swapActive id author notes
  | .deleteFamily name => deleteFamily name
  | .recordTemplateUsage id unresolvedCount =>
    recordTemplateUsage id unresolvedCount
  | .getActiveComponent name => getActiveComponent name
  | .getComponentVersion name version => getComponentVersion name version
  | .listActiveComponents => send .activeComponents
  | .putComponent new => putComponent new
  | .deactivateComponent name => deactivateComponent name
  | .incrementComponentUsage id => incrementComponentUsage id

/-- A call carried out in the database, which always ends. -/
def reply (call : StoreCall) : Program DatabaseCalls (Outcome call.Result) := do
  let result ← (store call).run
  return .ended result

end TemplateRegistry.Database
