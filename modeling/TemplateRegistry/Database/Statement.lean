import TemplateRegistry.Error
import TemplateRegistry.Program
import TemplateRegistry.Record.Component
import TemplateRegistry.Record.Template
/-!
# Statements

Every statement that is ever sent to the database, as data: its text, the
values bound to its parameters, and what it gives back.  Nothing is ever put
into a text but the names of columns; all values are bound.

* `Statement` — the statements, by table;
* `Statement.sql`, `Statement.values` — text and bound values;
* `Statement.Result` — rows, a single row that there may or must be, or the
  number of rows affected.
-/

namespace TemplateRegistry

/-- A value bound to a parameter of a statement. -/
inductive SqlValue
  | null
  | bool (value : Bool)
  | integer (value : Int)
  | text (value : String)
  | integers (items : List Int)
  | texts (items : List String)
  /-- A document, sent as its JSON text. -/
  | document (value : Value)

namespace SqlValue

/-- A value, or `NULL`. -/
def option {α : Type} (write : α → SqlValue) : Option α → SqlValue
  | none => null
  | some value => write value

end SqlValue

/-- A row of the table of parameters: one declaration of one version. -/
structure ParameterRow where
  id : Int
  templateId : Int
  /-- The place among the declarations of the version. -/
  position : Int
  name : String
  description : String
  required : Bool
  typeName : String
  defaultValue : Option Value

/-- The declaration of a row, unless its type is unknown. -/
def ParameterRow.toDef (row : ParameterRow) :
    Except RegistryError ParameterDef := do
  let type ← ParameterType.ofName row.typeName
  return {
    name := row.name
    description := row.description
    required := row.required
    type
    defaultValue := row.defaultValue }

/-- A statement. -/
inductive Statement
  -- versions of templates
  | templateById (id : Int)
  | templateByVersion (name : String) (version : Int)
  | activeTemplate (name : String)
  | templatesOfName (name : String)
  | maxVersion (name : String)
  /-- Lock every version of a name until the transaction ends. -/
  | lockTemplates (name : String)
  | insertTemplate (new : NewVersion)
  | setTemplateActive (id : Int) (isActive : Bool)
  | deleteTemplates (name : String)
  -- their parameters
  | insertParameter (templateId position : Int) (param : ParameterDef)
  | parametersOf (templateId : Int)
  | parametersOfAll (templateIds : List Int)
  | countParameters (name : String)
  -- the version log
  | insertLogEntry (entry : NewLogEntry)
  | logOfName (name : String)
  | deleteLog (name : String)
  -- renders of templates
  | insertUsage (templateId unresolvedCount : Int)
  | countUsage (name : String)
  -- components
  | componentById (id : Int)
  | activeComponent (name : String)
  | componentByVersion (name : String) (version : Int)
  | activeComponents
  /-- Lock every version of a component until the transaction ends. -/
  | lockComponents (name : String)
  | insertComponent (new : NewComponent) (version : Int)
  | deactivateComponent (id : Int)
  | incrementUsage (id : Int)
  /-- Nothing but a sign of life. -/
  | ping

namespace Statement

/-- What a statement gives back. -/
abbrev Result : Statement → Type
  | templateById _ => Option TemplateVersion
  | templateByVersion _ _ => Option TemplateVersion
  | activeTemplate _ => Option TemplateVersion
  | templatesOfName _ => List TemplateVersion
  | maxVersion _ => Int
  | lockTemplates _ => List TemplateVersion
  | insertTemplate _ => TemplateVersion
  | setTemplateActive _ _ => Option TemplateVersion
  | deleteTemplates _ => Nat
  | insertParameter _ _ _ => Nat
  | parametersOf _ => List ParameterRow
  | parametersOfAll _ => List ParameterRow
  | countParameters _ => Int
  | insertLogEntry _ => LogEntry
  | logOfName _ => List LogEntry
  | deleteLog _ => Nat
  | insertUsage _ _ => UsageRecord
  | countUsage _ => Int
  | componentById _ => Option Component
  | activeComponent _ => Option Component
  | componentByVersion _ _ => Option Component
  | activeComponents => List Component
  | lockComponents _ => List Component
  | insertComponent _ _ => Component
  | deactivateComponent _ => Nat
  | incrementUsage _ => Nat
  | ping => Nat

/-- The columns of a version; its parameters are in a table of their own. -/
def templateColumns : String :=
  "id, name, version, content, category, tags, is_active, created_by, previous_version_id, " ++
    "created_at, updated_at"

/-- The columns of a declaration. -/
def parameterColumns : String :=
  "id, template_id, position, name, description, required, param_type, default_value"

/-- The columns of a log entry. -/
def logColumns : String :=
  "id, template_name, version, action, author, notes, metadata, timestamp"

/-- The columns of a render. -/
def usageColumns : String :=
  "id, template_id, unresolved_count, rendered_at"

/-- The columns of a component. -/
def componentColumns : String :=
  "id, name, version, content, category, tags, is_active, usage_count, created_at, updated_at"

/-- The text of a statement. -/
def sql : Statement → String
  | templateById _ => s!"SELECT {templateColumns} FROM templates WHERE id = $1"
  | templateByVersion _ _ =>
    s!"SELECT {templateColumns} FROM templates WHERE name = $1 AND version = $2"
  | activeTemplate _ =>
    s!"SELECT {templateColumns} FROM templates WHERE name = $1 AND is_active"
  | templatesOfName _ =>
    s!"SELECT {templateColumns} FROM templates WHERE name = $1 ORDER BY version ASC"
  | maxVersion _ =>
    "SELECT COALESCE(MAX(version), 0) FROM templates WHERE name = $1"
  | lockTemplates _ =>
    s!"SELECT {templateColumns} FROM templates WHERE name = $1 ORDER BY version ASC FOR UPDATE"
  | insertTemplate _ =>
    "INSERT INTO templates (name, version, content, category, tags, is_active, created_by, " ++
      "previous_version_id) VALUES ($1, $2, $3, $4, $5, $6, $7, $8) " ++
      s!"RETURNING {templateColumns}"
  | setTemplateActive _ _ =>
    s!"UPDATE templates SET is_active = $2 WHERE id = $1 RETURNING {templateColumns}"
  | deleteTemplates _ => "DELETE FROM templates WHERE name = $1"
  | insertParameter _ _ _ =>
    "INSERT INTO template_parameters (template_id, position, name, description, required, " ++
      "param_type, default_value) VALUES ($1, $2, $3, $4, $5, $6, $7)"
  | parametersOf _ =>
    s!"SELECT {parameterColumns} FROM template_parameters WHERE template_id = $1 " ++
      "ORDER BY position ASC"
  | parametersOfAll _ =>
    s!"SELECT {parameterColumns} FROM template_parameters WHERE template_id = ANY($1) " ++
      "ORDER BY template_id ASC, position ASC"
  | countParameters _ =>
    "SELECT COUNT(*) FROM template_parameters p JOIN templates t ON t.id = p.template_id " ++
      "WHERE t.name = $1"
  | insertLogEntry _ =>
    "INSERT INTO template_version_log (template_name, version, action, author, notes, metadata) " ++
      s!"VALUES ($1, $2, $3, $4, $5, $6) RETURNING {logColumns}"
  | logOfName _ =>
    s!"SELECT {logColumns} FROM template_version_log WHERE template_name = $1 ORDER BY id DESC"
  | deleteLog _ => "DELETE FROM template_version_log WHERE template_name = $1"
  | insertUsage _ _ =>
    "INSERT INTO template_usage (template_id, unresolved_count) VALUES ($1, $2) " ++
      s!"RETURNING {usageColumns}"
  | countUsage _ =>
    "SELECT COUNT(*) FROM template_usage u JOIN templates t ON t.id = u.template_id " ++
      "WHERE t.name = $1"
  | componentById _ =>
    s!"SELECT {componentColumns} FROM components WHERE id = $1"
  | activeComponent _ =>
    s!"SELECT {componentColumns} FROM components WHERE name = $1 AND is_active"
  | componentByVersion _ _ =>
    s!"SELECT {componentColumns} FROM components WHERE name = $1 AND version = $2"
  | activeComponents =>
    s!"SELECT {componentColumns} FROM components WHERE is_active ORDER BY name ASC"
  | lockComponents _ =>
    s!"SELECT {componentColumns} FROM components WHERE name = $1 ORDER BY version ASC FOR UPDATE"
  | insertComponent _ _ =>
    "INSERT INTO components (name, version, content, category, tags, is_active) " ++
      s!"VALUES ($1, $2, $3, $4, $5, true) RETURNING {componentColumns}"
  | deactivateComponent _ =>
    "UPDATE components SET is_active = false WHERE id = $1 AND is_active"
  | incrementUsage _ =>
    "UPDATE components SET usage_count = usage_count + 1 WHERE id = $1"
  | ping => "SELECT 1"

/-- The values bound to the parameters of a statement. -/
def values : Statement → List SqlValue
  | templateById id => [.integer id]
  | templateByVersion name version => [.text name, .integer version]
  | activeTemplate name => [.text name]
  | templatesOfName name => [.text name]
  | maxVersion name => [.text name]
  | lockTemplates name => [.text name]
  | insertTemplate new =>
    [.text new.name, .integer new.version, .text new.fields.content,
      .text new.fields.category, .texts new.fields.tags, .bool new.isActive,
      .text new.createdBy, .option .integer new.previousId]
  | setTemplateActive id isActive => [.integer id, .bool isActive]
  | deleteTemplates name => [.text name]
  | insertParameter templateId position param =>
    [.integer templateId, .integer position, .text param.name,
      .text param.description, .bool param.required, .text param.type.name,
      .option .document param.defaultValue]
  | parametersOf templateId => [.integer templateId]
  | parametersOfAll templateIds => [.integers templateIds]
  | countParameters name => [.text name]
  | insertLogEntry entry =>
    [.text entry.templateName, .integer entry.version, .text entry.action.name,
      .text entry.author, .option .text entry.notes,
      .document (.object entry.metadata)]
  | logOfName name => [.text name]
  | deleteLog name => [.text name]
  | insertUsage templateId unresolvedCount =>
    [.integer templateId, .integer unresolvedCount]
  | countUsage name => [.text name]
  | componentById id => [.integer id]
  | activeComponent name => [.text name]
  | componentByVersion name version => [.text name, .integer version]
  | activeComponents => []
  | lockComponents name => [.text name]
  | insertComponent new version =>
    [.text new.name, .integer version, .text new.content, .text new.category,
      .texts new.tags]
  | deactivateComponent id => [.integer id]
  | incrementUsage id => [.integer id]
  | ping => []

end Statement

end TemplateRegistry
