import TemplateRegistry.Record.Json
import TemplateRegistry.Service.Basic
/-!
# The life of a template

Creating a template, adding versions to it, activating one of them, rolling
back, and deleting it.  What a caller gives is validated before the store is
called, and each of these writes with a single call of the store.

A new template is active at once.  Later versions are not, until `activate`
makes one of them so.  Activating is idempotent, so a lost race and a timeout
are tried again.
-/

namespace TemplateRegistry.Lifecycle

/-- A template to be created. -/
structure TemplateRequest where
  name : String
  fields : Fields
  author : String

/-- A version to be added to a template. -/
structure VersionRequest where
  templateName : String
  fields : Fields
  author : String
  notes : Option String
  /-- If given, the number the version must get. -/
  expectedVersion : Option Int

/-- A template that was deleted. -/
structure DeletedFamily where
  name : String
  deletedVersions : Nat
  deriving DecidableEq

/-- The request of a document. -/
def TemplateRequest.ofJson? (document : Json) : Option TemplateRequest := do
  match ← document.slots? ["name", "fields", "author"] with
  | [name, fields, author] =>
    return {
      name := ← name.required Json.string?
      fields := ← fields.required Fields.ofJson?
      author := ← author.required Json.string? }
  | _ => none

/-- The request of a document. -/
def VersionRequest.ofJson? (document : Json) : Option VersionRequest := do
  match ← document.slots? ["template_name", "fields", "author", "notes",
    "expected_version"] with
  | [templateName, fields, author, notes, expectedVersion] =>
    return {
      templateName := ← templateName.required Json.string?
      fields := ← fields.required Fields.ofJson?
      author := ← author.required Json.string?
      notes := ← notes.nullableOrCut Json.string?
      expectedVersion := ← expectedVersion.nullableOrCut Json.int32? }
  | _ => none

/-- What is wrong with an author. -/
def validateAuthor (author : String) : Except RegistryError Unit :=
  if Text.isBlankText author then
    .error (.validation "author" "Author must not be empty")
  else .ok ()

/-- What is wrong with notes, if there are any. -/
def validateNotes? : Option String → Except RegistryError Unit
  | none => .ok ()
  | some notes => validateNotes notes

/-- A version by its id. -/
def getTemplate (config : Config) (id : Int) : Service TemplateVersion :=
  Service.call config (.getTemplate id)

/-- The active version of a name. -/
def getActive (config : Config) (name : String) : Service TemplateVersion :=
  Service.call config (.getActive name)

/-- Every version of a name, oldest first. -/
def listVersions (config : Config) (name : String) :
    Service (List TemplateVersion) :=
  Service.call config (.listVersions name)

/-- The log of a name, newest entry first. -/
def history (config : Config) (name : String) : Service (List LogEntry) :=
  Service.call config (.listLog name)

/-- Create version 1 of a template, active at once. -/
def createTemplate (config : Config) (request : TemplateRequest) :
    Service TemplateVersion := do
  Service.ofExcept (validateName request.name)
  Service.ofExcept (validateAuthor request.author)
  let fields ← Service.ofExcept request.fields.validated
  let highest ← Service.call config (.maxVersion request.name)
  if 0 < highest then
    Service.fail (.duplicateName request.name)
  else
    let new : NewVersion :=
      { name := request.name
        version := 1
        fields
        isActive := true
        createdBy := request.author
        previousId := none }
    let entry : NewLogEntry :=
      { templateName := request.name
        version := 1
        action := .created
        author := request.author
        notes := none
        metadata := createdMetadata none }
    Service.call config (.insertVersion new entry)

/-- Check that a version gets the number that was expected, if one was. -/
def checkExpected (name : String) (next : Int) :
    Option Int → Except RegistryError Unit
  | none => .ok ()
  | some expected =>
    if expected = next then .ok ()
    else .error (.invalidVersionSequence name expected next)

/-- Add the next version to a template. -/
def createVersion (config : Config) (request : VersionRequest) :
    Service TemplateVersion := do
  let name := request.templateName
  Service.ofExcept (validateName name)
  Service.ofExcept (validateAuthor request.author)
  Service.ofExcept (validateNotes? request.notes)
  let fields ← Service.ofExcept request.fields.validated
  let highest ← Service.call config (.maxVersion name)
  if highest = 0 then
    Service.fail (.templateNotFound name)
  else
    Service.ofExcept (checkExpected name (highest + 1) request.expectedVersion)
    let latest ← Service.call config (.getVersion name highest)
    let new : NewVersion :=
      { name
        version := highest + 1
        fields
        isActive := false
        createdBy := request.author
        previousId := some latest.id }
    let entry : NewLogEntry :=
      { templateName := name
        version := highest + 1
        action := .created
        author := request.author
        notes := request.notes
        metadata := createdMetadata (some highest) }
    Service.call config (.insertVersion new entry)

/-- Add the next version to the template that a version belongs to. -/
def newVersion (config : Config) (id : Int) (fields : Fields) (author : String)
    (notes : Option String) : Service TemplateVersion := do
  let existing ← getTemplate config id
  createVersion config
    { templateName := existing.name
      fields
      author
      notes
      expectedVersion := none }

/-- Make a version active, trying again a number of times. -/
def swapActive (config : Config) (id : Int) (author : String)
    (notes : Option String) :
    Nat → Service TemplateVersion
  | 0 => Service.call config (.swapActive id author notes)
  | retries + 1 =>
    tryCatch (Service.call config (.swapActive id author notes)) fun error =>
      if error.isRetryable then swapActive config id author notes retries
      else throw error

/-- Make a version the active one of its template.  Nothing happens if it
is. -/
def activate (config : Config) (id : Int) (author : String)
    (notes : Option String) :
    Service TemplateVersion := do
  Service.ofExcept (validateAuthor author)
  Service.ofExcept (validateNotes? notes)
  swapActive config id author notes config.activationRetries

/-- Add a version that is a copy of an earlier one of the same template. -/
def rollback (config : Config) (id version : Int) (author : String) :
    Service TemplateVersion := do
  Service.ofExcept (validateAuthor author)
  let left ← getTemplate config id
  let copied ← Service.call config (.getVersion left.name version)
  let highest ← Service.call config (.maxVersion left.name)
  let new : NewVersion :=
    { name := left.name
      version := highest + 1
      fields := copied.fields
      isActive := false
      createdBy := author
      previousId := some left.id }
  let entry : NewLogEntry :=
    { templateName := left.name
      version := highest + 1
      action := .rollback
      author
      notes := none
      metadata := rollbackMetadata left.version version }
  Service.call config (.insertVersion new entry)

/-- Delete the template that a version belongs to, with everything that is kept
about it. -/
def deleteFamily (config : Config) (id : Int) : Service DeletedFamily := do
  let t ← getTemplate config id
  let deletedVersions ← Service.call config (.deleteFamily t.name)
  return { name := t.name, deletedVersions }

end TemplateRegistry.Lifecycle
