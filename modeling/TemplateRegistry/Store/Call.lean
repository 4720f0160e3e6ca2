import TemplateRegistry.Error
import TemplateRegistry.Markup.Include
import TemplateRegistry.Program
import TemplateRegistry.Record.Component
import TemplateRegistry.Record.Template
/-!
# The calls of a store

Everything a store of templates and components can be asked for, as one
interface.  Each call is a single request: whatever is behind it either does
all of it or nothing.

* `StoreCall`, `StoreCall.Result` — the calls and what they return;
* `Outcome` — how a call ends, if it does;
* `StoreCalls` — the interface;
* `checkSequence`, `checkCycle` — what every store checks before it writes.

A call about something that is not there fails with `notFound`, but a list of
an unknown name is empty and its highest version is 0.
-/

namespace TemplateRegistry

/-- A request to a store. -/
inductive StoreCall
  /-- A version by its id. -/
  | getTemplate (id : Int)
  | getVersion (name : String) (version : Int)
  /-- The active version of a name. -/
  | getActive (name : String)
  /-- Every version of a name, oldest first. -/
  | listVersions (name : String)
  /-- The highest version number of a name. -/
  | maxVersion (name : String)
  | listParameters (id : Int)
  /-- The log of a name, newest entry first. -/
  | listLog (name : String)
  /-- Write a version and its log entry, if it is the next one of its name. -/
  | insertVersion (new : NewVersion) (entry : NewLogEntry)
  /-- Make a version the only active one of its name. -/
  | swapActive (id : Int) (author : String) (notes : Option String)
  /-- Remove every version of a name, with its log and usage records. -/
  | deleteFamily (name : String)
  | recordTemplateUsage (id unresolvedCount : Int)
  | getActiveComponent (name : String)
  | getComponentVersion (name : String) (version : Int)
  /-- Every active component, by name. -/
  | listActiveComponents
  /-- Write the next version of a component and make it the active one. -/
  | putComponent (new : NewComponent)
  /-- Make the active version of a component inactive, unless it was used. -/
  | deactivateComponent (name : String)
  | incrementComponentUsage (id : Int)

namespace StoreCall

/-- What a call returns. -/
abbrev Result : StoreCall → Type
  | getTemplate _ => TemplateVersion
  | getVersion _ _ => TemplateVersion
  | getActive _ => TemplateVersion
  | listVersions _ => List TemplateVersion
  | maxVersion _ => Int
  | listParameters _ => List ParameterDef
  | listLog _ => List LogEntry
  | insertVersion _ _ => TemplateVersion
  | swapActive _ _ _ => TemplateVersion
  | deleteFamily _ => Nat
  | recordTemplateUsage _ _ => Unit
  | getActiveComponent _ => Component
  | getComponentVersion _ _ => Component
  | listActiveComponents => List Component
  | putComponent _ => Component
  | deactivateComponent _ => Component
  | incrementComponentUsage _ => Unit

/-- The name that messages give a call. -/
def operation : StoreCall → String
  | getTemplate _ => "get_template"
  | getVersion _ _ => "get_version"
  | getActive _ => "get_active"
  | listVersions _ => "list_versions"
  | maxVersion _ => "max_version"
  | listParameters _ => "list_parameters"
  | listLog _ => "list_log"
  | insertVersion _ _ => "insert_version"
  | swapActive _ _ _ => "swap_active"
  | deleteFamily _ => "delete_family"
  | recordTemplateUsage _ _ => "record_template_usage"
  | getActiveComponent _ => "get_active_component"
  | getComponentVersion _ _ => "get_component_version"
  | listActiveComponents => "list_active_components"
  | putComponent _ => "put_component"
  | deactivateComponent _ => "deactivate_component"
  | incrementComponentUsage _ => "increment_component_usage"

end StoreCall

/-- How a call ends: with a result or an error, or not at all. -/
inductive Outcome (α : Type)
  | ended (result : Except EngineError α)
  | hung

/-- The interface of a store. -/
def StoreCalls : Interface where
  Request := StoreCall
  Reply call := Outcome call.Result

namespace RegistryError

/-- A template, or a version of one, that is not there. -/
def templateNotFound (key : String) : RegistryError :=
  notFound "Template" key

/-- A name without an active version. -/
def activeTemplateNotFound (name : String) : RegistryError :=
  notFound "Active template" name

/-- A component, or a version of one, that is not there. -/
def componentNotFound (key : String) : RegistryError :=
  notFound "Component" key

/-- A new active version of a name that has one. -/
def alreadyActive (name : String) (version : Int) : RegistryError :=
  concurrencyConflict s!"Template '{name}' already has active version {version}"

/-- A component that is in use. -/
def componentUsed (name : String) (count : Int) : RegistryError :=
  conflict
    s!"Component '{name}' has been used {count} times and cannot be deleted"

end RegistryError

/-- The key of a version, by name and number. -/
def versionKey (name : String) (version : Int) : String :=
  s!"{name}@{version}"

/-- Check that a version is the next one after the highest there is.  Version 1
of a name that has versions is a name taken. -/
def checkSequence (name : String) (highest expected : Int) :
    Except RegistryError Unit :=
  if highest + 1 = expected then .ok ()
  else if expected = 1 then .error (.duplicateName name)
  else .error (.invalidVersionSequence name expected (highest + 1))

/-- Check that a text for a component would not close a circle of includes
among the active ones.  No chain without a circle is longer than there are
components, so the depth never ends the search. -/
def checkCycle (name content : String) (active : Markup.Components) :
    Except RegistryError Unit :=
  match Markup.findCycle (active.length + 2) name content active with
  | some path => .error (.componentCycle path)
  | none => .ok ()

/-- The texts of components by name.  Where two have one name the later
counts. -/
def componentTexts (components : List Component) : Markup.Components :=
  Table.ofList (components.map fun c => (c.name, c.content))

/-- The greatest of some version numbers, 0 if there are none. -/
def highestVersion (versions : List Int) : Int :=
  match versions with
  | [] => 0
  | first :: rest => rest.foldl max first

end TemplateRegistry
