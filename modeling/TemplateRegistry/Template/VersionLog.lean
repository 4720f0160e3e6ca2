import TemplateRegistry.Error
import TemplateRegistry.Value.Basic
/-!
# The vocabulary of the version log

Every step in the life of a template version is logged with an action and with
metadata that names the other versions involved.

* `VersionAction` — the five actions;
* `createdMetadata`, `deactivatedMetadata`, `activatedMetadata`,
  `rollbackMetadata`, `deletedMetadata` — what goes with each of them.
-/

namespace TemplateRegistry

/-- A step in the life of a template version. -/
inductive VersionAction
  | created
  | activated
  | deactivated
  | rollback
  | deleted
  deriving DecidableEq

namespace VersionAction

/-- Every action, in the order in which messages list them. -/
def all : List VersionAction :=
  [created, activated, deactivated, rollback, deleted]

/-- The name of an action. -/
def name : VersionAction → String
  | created => "created"
  | activated => "activated"
  | deactivated => "deactivated"
  | rollback => "rollback"
  | deleted => "deleted"

/-- The action of a name. -/
def find? (s : String) : Option VersionAction :=
  all.find? fun action => action.name = s

/-- The action of a name, or the error that lists the names there are. -/
def ofName (s : String) : Except RegistryError VersionAction :=
  match find? s with
  | some action => .ok action
  | none =>
    .error (.validation "action"
      (s!"Invalid version action '{s}'. Must be one of: " ++
        ", ".intercalate (all.map name)))

/-- An action is found by its name. -/
theorem find?_name (action : VersionAction) :
    find? action.name = some action := by
  cases action <;> decide

end VersionAction

/-- Values attached to a log entry. -/
abbrev Metadata : Type := Table Value

/-- A version as the metadata of another one's entry names it. -/
structure VersionRef where
  id : Int
  version : Int
  deriving DecidableEq

/-- What goes with a creation: the version before, if there is one. -/
def createdMetadata : Option Int → Metadata
  | none => []
  | some previous => Table.ofList [("previous_version", Value.ofInt previous)]

/-- What goes with a deactivation: the version that takes over. -/
def deactivatedMetadata (replacedBy : VersionRef) : Metadata :=
  Table.ofList [("replaced_by_id", Value.ofInt replacedBy.id),
    ("replaced_by_version", Value.ofInt replacedBy.version)]

/-- What goes with an activation: the version that was active before, if there
was one. -/
def activatedMetadata : Option VersionRef → Metadata
  | none => []
  | some replaced =>
    Table.ofList [("replaces_id", Value.ofInt replaced.id),
      ("replaces_version", Value.ofInt replaced.version)]

/-- What goes with a rollback: the version left and the version copied. -/
def rollbackMetadata (left copied : Int) : Metadata :=
  Table.ofList [("rolled_back_from", Value.ofInt left),
    ("rolled_back_to", Value.ofInt copied)]

/-- What goes with a deletion: how many versions were removed. -/
def deletedMetadata (count : Nat) : Metadata :=
  Table.ofList [("deleted_versions", Value.ofInt count)]

end TemplateRegistry
