import TemplateRegistry.Database.Dialogue
import TemplateRegistry.Database.Document
import TemplateRegistry.Json.Record
import TemplateRegistry.Value.Reader
/-!
# Statements and replies as JSON documents

How a dialogue goes over a line: each statement as its text and its values, and
each reply as rows, a number of affected rows, or an error.

A row is an object with one member for each column.  Timestamps are
microseconds since 1970-01-01, and a document in a column is its JSON text.

* `SqlValue.toJson` — a value bound to a parameter;
* `Reply.ofJson?` — a reply;
* `Statement.read` — what a statement gives back, out of the reply to it.
-/

namespace TemplateRegistry

/-- A bound value as a document. -/
def SqlValue.toJson : SqlValue → Json
  | null => .null
  | bool value => .bool value
  | integer value => Json.integer value
  | text value => .string value
  | integers items => .array (items.map Json.integer)
  | texts items => Json.strings items
  | document value => .string value.canonicalJson

/-- What the database replied to a statement: rows, and how many rows were
affected. -/
structure Reply where
  rows : List Json
  affected : Nat

namespace Reply

/-- The member of an object. -/
def member? (name : String) : Json → Option Json
  | .object members => members.lookup name
  | _ => none

/-- The error of a document. -/
def errorOfJson? (document : Json) : Option DatabaseError := do
  let code ← (← member? "code" document).string?
  let message ← (← member? "message" document).string?
  return .rejected code message
    ((member? "constraint" document).bind Json.string?)

/-- The rows of a document, none unless given. -/
def rowsOfJson? (document : Json) : Option (List Json) :=
  match member? "rows" document with
  | none => some []
  | some (.array rows) => some rows
  | some _ => none

/-- The reply of a document.  Without a count of its own it affects as many
rows as it has. -/
def ofJson? (document : Json) : Option (Except DatabaseError Reply) :=
  match member? "error" document with
  | some error => (errorOfJson? error).map .error
  | none => do
    let rows ← rowsOfJson? document
    let affected ← match member? "affected" document with
      | none => some rows.length
      | some count => count.natural?
    return .ok { rows, affected }

end Reply

namespace Row

/-- What is said of a `NULL` where there must be a value. -/
def unexpectedNull : String :=
  "unexpected null; try decoding as an `Option`"

/-- Whether a cell is `NULL`. -/
def isNull : Json → Bool
  | .null => true
  | _ => false

/-- Whether a cell is `NULL`, or a list with a `NULL` in it. -/
def holdsNull : Json → Bool
  | .array items => items.any isNull
  | cell => isNull cell

/-- The value of a cell, or what is wrong with it. -/
def readCell {α : Type} (label : ColumnLabel) (read : Json → Except String α)
    (cell : Json) :
    Except DatabaseError α :=
  if holdsNull cell then .error (.unreadableColumn label unexpectedNull)
  else (read cell).mapError (.unreadableColumn label)

/-- A reading that may fail for no more than one reason. -/
def expecting {α : Type} (read : Json → Option α) (cell : Json) :
    Except String α :=
  match read cell with
  | some value => .ok value
  | none => .error "unexpected value"

/-- The value of a column. -/
def column {α : Type} (name : String) (read : Json → Option α) (row : Json) :
    Except DatabaseError α :=
  readCell (.named name) (expecting read)
    ((Reply.member? name row).getD .illegible)

/-- The value of the only column of a row, which is found by its place. -/
def single {α : Type} (name : String) (read : Json → Option α) (row : Json) :
    Except DatabaseError α :=
  readCell (.numbered 0) (expecting read)
    ((Reply.member? name row).getD .illegible)

/-- The document in a column, out of its text. -/
def document {α : Type} (name : String) (read : String → Except String α)
    (row : Json) :
    Except DatabaseError α :=
  readCell (.named name)
    (fun cell => do read (← expecting Json.string? cell))
    ((Reply.member? name row).getD .illegible)

/-- A value that may be `NULL`. -/
def nullable {α : Type} (name : String)
    (read : Json → Except DatabaseError α) (row : Json) :
    Except DatabaseError (Option α) :=
  match Reply.member? name row with
  | some .null => .ok none
  | _ => (read row).map some

/-- A timestamp. -/
def timestamp (name : String) (row : Json) : Except DatabaseError Timestamp :=
  (column name Json.int64? row).map Timestamp.ofMicroseconds

/-- A list of strings. -/
def strings (name : String) (row : Json) : Except DatabaseError (List String) :=
  column name (Json.list? Json.string?) row

/-- A version, still without its declarations. -/
def template (row : Json) : Except DatabaseError TemplateVersion := do
  return {
    id := ← column "id" Json.int64? row
    name := ← column "name" Json.string? row
    version := ← column "version" Json.int32? row
    content := ← column "content" Json.string? row
    category := ← column "category" Json.string? row
    tags := ← strings "tags" row
    isActive := ← column "is_active" Json.bool? row
    createdBy := ← column "created_by" Json.string? row
    previousId :=
      ← nullable "previous_version_id"
        (column "previous_version_id" Json.int64?) row
    createdAt := ← timestamp "created_at" row
    updatedAt := ← timestamp "updated_at" row
    parameters := [] }

/-- A declaration. -/
def parameter (row : Json) : Except DatabaseError ParameterRow := do
  return {
    id := ← column "id" Json.int64? row
    templateId := ← column "template_id" Json.int64? row
    position := ← column "position" Json.int32? row
    name := ← column "name" Json.string? row
    description := ← column "description" Json.string? row
    required := ← column "required" Json.bool? row
    typeName := ← column "param_type" Json.string? row
    defaultValue :=
    ← nullable "default_value" (document "default_value" Document.value) row }

/-- A log entry. -/
def logEntry (row : Json) : Except DatabaseError LogEntry := do
  return {
    id := ← column "id" Json.int64? row
    templateName := ← column "template_name" Json.string? row
    version := ← column "version" Json.int32? row
    actionName := ← column "action" Json.string? row
    author := ← column "author" Json.string? row
    notes := ← nullable "notes" (column "notes" Json.string?) row
    metadata := ← document "metadata" Document.object row
    timestamp := ← timestamp "timestamp" row }

/-- A render. -/
def usage (row : Json) : Except DatabaseError UsageRecord := do
  return {
    id := ← column "id" Json.int64? row
    templateId := ← column "template_id" Json.int64? row
    unresolvedCount := ← column "unresolved_count" Json.int32? row
    renderedAt := ← timestamp "rendered_at" row }

/-- A component. -/
def component (row : Json) : Except DatabaseError Component := do
  return {
    id := ← column "id" Json.int64? row
    name := ← column "name" Json.string? row
    version := ← column "version" Json.int32? row
    content := ← column "content" Json.string? row
    category := ← column "category" Json.string? row
    tags := ← strings "tags" row
    isActive := ← column "is_active" Json.bool? row
    usageCount := ← column "usage_count" Json.int64? row
    createdAt := ← timestamp "created_at" row
    updatedAt := ← timestamp "updated_at" row }

end Row

namespace Reply

variable {α : Type}

/-- Every row. -/
def all (read : Json → Except DatabaseError α) (reply : Reply) :
    Except DatabaseError (List α) :=
  reply.rows.mapM read

/-- The first row, if there is one. -/
def first? (read : Json → Except DatabaseError α) (reply : Reply) :
    Except DatabaseError (Option α) :=
  match reply.rows with
  | [] => .ok none
  | row :: _ => (read row).map some

/-- The first row, which there must be. -/
def first (read : Json → Except DatabaseError α) (reply : Reply) :
    Except DatabaseError α :=
  match reply.rows with
  | [] => .error .rowNotFound
  | row :: _ => read row

end Reply

/-- What a statement gives back, out of the reply to it. -/
def Statement.read (reply : Reply) :
    (s : Statement) → Except DatabaseError s.Result
  | .templateById _ => reply.first? Row.template
  | .templateByVersion _ _ => reply.first? Row.template
  | .activeTemplate _ => reply.first? Row.template
  | .templatesOfName _ => reply.all Row.template
  | .maxVersion _ => reply.first (Row.single "coalesce" Json.int32?)
  | .lockTemplates _ => reply.all Row.template
  | .insertTemplate _ => reply.first Row.template
  | .setTemplateActive _ _ => reply.first? Row.template
  | .deleteTemplates _ => .ok reply.affected
  | .insertParameter _ _ _ => .ok reply.affected
  | .parametersOf _ => reply.all Row.parameter
  | .parametersOfAll _ => reply.all Row.parameter
  | .countParameters _ => reply.first (Row.single "count" Json.int64?)
  | .insertLogEntry _ => reply.first Row.logEntry
  | .logOfName _ => reply.all Row.logEntry
  | .deleteLog _ => .ok reply.affected
  | .insertUsage _ _ => reply.first Row.usage
  | .countUsage _ => reply.first (Row.single "count" Json.int64?)
  | .componentById _ => reply.first? Row.component
  | .activeComponent _ => reply.first? Row.component
  | .componentByVersion _ _ => reply.first? Row.component
  | .activeComponents => reply.all Row.component
  | .lockComponents _ => reply.all Row.component
  | .insertComponent _ _ => reply.first Row.component
  | .deactivateComponent _ => .ok reply.affected
  | .incrementUsage _ => .ok reply.affected
  | .ping => .ok reply.affected

end TemplateRegistry
