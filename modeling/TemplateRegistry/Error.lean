import TemplateRegistry.Database.Address
import TemplateRegistry.Time.Duration
/-!
# Errors

Causes of failure, each with one message.

* `RegistryError` — a rule of the domain was broken;
* `DatabaseError` — a statement failed for a reason the domain has no word for;
* `EngineError` — either of them, or a store call that did not end in time.

Only lost races and timeouts may be retried unchanged.  Missing includes and
unresolved placeholders are no errors: a render reports them in its output.
-/

namespace TemplateRegistry

/-- A broken rule of the domain. -/
inductive RegistryError
  | notFound (entity key : String)
  | duplicateName (name : String)
  | invalidVersionSequence (name : String) (expected actual : Int)
  | validation (field message : String)
  | concurrencyConflict (detail : String)
  | componentCycle (path : List String)
  | conflict (detail : String)
  | internal (detail : String)
  deriving DecidableEq

namespace RegistryError

/-- The message of an error. -/
def message : RegistryError → String
  | notFound entity key => s!"Entity not found: {entity} {key}"
  | duplicateName name =>
    s!"Duplicate name: a template named '{name}' already exists"
  | invalidVersionSequence name expected actual =>
    s!"Invalid version sequence for '{name}': expected version {expected}, got {actual}"
  | validation field message => s!"Validation failed on '{field}': {message}"
  | concurrencyConflict detail => s!"Concurrency conflict: {detail}"
  | componentCycle path =>
    "Component cycle detected: " ++ " -> ".intercalate path
  | conflict detail => s!"Conflict: {detail}"
  | internal detail => s!"Internal error: {detail}"

/-- Whether the call may be repeated unchanged: only a lost race. -/
def isRetryable : RegistryError → Bool
  | concurrencyConflict _ => true
  | _ => false

end RegistryError

/-- How a column of a row is found. -/
inductive ColumnLabel
  | named (name : String)
  /-- By its place, counted from zero, in a row without names. -/
  | numbered (place : Nat)
  deriving DecidableEq

/-- The label in a message. -/
def ColumnLabel.text : ColumnLabel → String
  | named name => Text.quoted name
  | numbered place => toString place

/-- A failed statement. -/
inductive DatabaseError
  /-- The server rejected it. -/
  | rejected (code message : String) (constraint : Option String)
  /-- It had to return a row and returned none. -/
  | rowNotFound
  /-- No connection became free. -/
  | poolTimedOut
  /-- The database cannot be addressed. -/
  | configuration (error : AddressError)
  /-- The server sent what the protocol does not allow. -/
  | invalidData (detail : String)
  /-- A column held what its type does not allow. -/
  | unreadableColumn (column : ColumnLabel) (detail : String)
  deriving DecidableEq

namespace DatabaseError

/-- The message of a failed statement. -/
def message : DatabaseError → String
  | rejected _ text _ => s!"error returned from database: {text}"
  | rowNotFound =>
    "no rows returned by a query that expected to return at least one row"
  | poolTimedOut => "pool timed out while waiting for an open connection"
  | configuration error => s!"error with configuration: {error.message}"
  | invalidData detail => s!"encountered unexpected or invalid data: {detail}"
  | unreadableColumn column detail =>
    s!"error occurred while decoding column {column.text}: {detail}"

/-- The messages of a failed statement and of what caused it. -/
def causes : DatabaseError → List String
  | rejected code text constraint =>
    [(rejected code text constraint).message, text]
  | configuration error => (configuration error).message :: error.causes
  | unreadableColumn column detail =>
    [(unreadableColumn column detail).message, detail]
  | error => [error.message]

/-- The code of a violated unique constraint. -/
def uniqueViolationCode : String := "23505"

/-- The named unique constraint that a statement violated.  Names of such
constraints start with `uq_`. -/
def uniqueViolation? : DatabaseError → Option String
  | rejected code _ (some constraint) =>
    if code = uniqueViolationCode ∧
        "uq_".toList.isPrefixOf constraint.toList then
      some constraint
    else none
  | _ => none

end DatabaseError

/-- What a call of the engine can fail with. -/
inductive EngineError
  | registry (error : RegistryError)
  | database (error : DatabaseError)
  | timeout (operation : String) (after : Duration)
  deriving DecidableEq

namespace EngineError

/-- The message of an error. -/
def message : EngineError → String
  | registry error => error.message
  | database error => s!"Database error: {error.message}"
  | timeout operation after =>
    s!"Store operation '{operation}' timed out after {after.display}"

/-- Whether the call may be repeated unchanged: a lost race or a timeout. -/
def isRetryable : EngineError → Bool
  | registry error => error.isRetryable
  | database _ => false
  | timeout _ _ => true

/-- The broken rule of the domain, if it is one. -/
def registry? : EngineError → Option RegistryError
  | registry error => some error
  | _ => none

/-- Whether a text has another one somewhere within. -/
def contains (part : List Char) : List Char → Bool
  | [] => part.isEmpty
  | c :: rest => part.isPrefixOf (c :: rest) || contains part rest

/-- What a failed statement about an entity means for the domain: a missing row
is an absent entity, a violated constraint on active rows is a lost race,
another violated unique constraint a conflict; all else stays a database
error. -/
def ofDatabase (entity key : String) (error : DatabaseError) : EngineError :=
  match error, error.uniqueViolation? with
  | .rowNotFound, _ => .registry (.notFound entity key)
  | _, some constraint =>
    if contains "_active_".toList constraint.toList then
      .registry (.concurrencyConflict
        s!"{entity} '{key}' was activated concurrently ({constraint})")
    else
      .registry (.conflict
        s!"Duplicate value violates unique constraint: {constraint}")
  | error, none => .database error

end EngineError

end TemplateRegistry
