import TemplateRegistry.Database.Migration
import TemplateRegistry.Database.Statement
/-!
# Talking to the database

A dialogue is a program that sends statements and may fail.

* `DatabaseCalls` — connecting, statements, transaction control, migrations;
* `Dialogue.connect` — the start of every dialogue;
* `Dialogue.send` — a statement;
* `Dialogue.transaction` — some statements that take effect together or not at
  all;
* `Dialogue.migrate` — bring the schema up to date.
-/

namespace TemplateRegistry

/-- A request to the database. -/
inductive DatabaseCall
  | connect (url : String) (maxConnections : Nat)
  | send (statement : Statement)
  | begin
  | commit
  | rollback
  /-- The versions of the migrations applied so far. -/
  | appliedMigrations
  | applyMigration (migration : Migration)

/-- What a request is replied with. -/
abbrev DatabaseCall.Result : DatabaseCall → Type
  | connect _ _ => Except DatabaseError Unit
  | send statement => Except DatabaseError statement.Result
  | begin => Except DatabaseError Unit
  | commit => Except DatabaseError Unit
  | rollback => Unit
  | appliedMigrations => Except DatabaseError (List Nat)
  | applyMigration _ => Except DatabaseError Unit

/-- The interface of the database. -/
def DatabaseCalls : Interface where
  Request := DatabaseCall
  Reply call := call.Result

/-- A program over the database that may fail. -/
abbrev Dialogue (α : Type) : Type :=
  ExceptT EngineError (Program DatabaseCalls) α

/-- What can go wrong when the schema is brought up to date. -/
inductive MigrationError
  /-- The applied migrations could not be listed. -/
  | listing (error : DatabaseError)
  | executing (version : Nat) (error : DatabaseError)
  deriving DecidableEq

namespace MigrationError

/-- The failed statement. -/
def error : MigrationError → DatabaseError
  | listing error => error
  | executing _ error => error

/-- The message of an error. -/
def message : MigrationError → String
  | listing error => "while executing migrations: " ++ error.message
  | executing version error =>
    s!"while executing migration {version}: " ++ error.message

/-- The messages of an error and of what caused it. -/
def causes (e : MigrationError) : List String :=
  e.message :: e.error.causes

end MigrationError

namespace Dialogue

variable {α : Type}

/-- A request to the database. -/
def request (call : DatabaseCall) : Program DatabaseCalls call.Result :=
  Program.request (I := DatabaseCalls) call

/-- A dialogue that does nothing but fail. -/
def fail (error : RegistryError) : Dialogue α :=
  throw (.registry error)

/-- A dialogue that does nothing but give the result of a check. -/
def ofExcept (result : Except RegistryError α) : Dialogue α :=
  ExceptT.mk (pure (result.mapError .registry))

/-- What was found, or an error. -/
def found (error : RegistryError) : Option α → Dialogue α
  | some value => pure value
  | none => fail error

/-- Send a statement, and say what its failure means. -/
def sendOr (meaning : DatabaseError → EngineError) (statement : Statement) :
    Dialogue statement.Result :=
  ExceptT.mk do
    let result ← request (.send statement)
    return result.mapError meaning

/-- Send a statement whose failure means nothing to the domain. -/
def send (statement : Statement) : Dialogue statement.Result :=
  sendOr .database statement

/-- Some statements in one transaction.  It is given up if one of them fails or
the dialogue ends with an error, and it is over once a commit failed.  What a
failed commit means may depend on the result. -/
def transaction (meaning : α → DatabaseError → EngineError)
    (body : Dialogue α) : Dialogue α :=
  ExceptT.mk do
    match ← request .begin with
    | .error error => return .error (.database error)
    | .ok () =>
      match ← body.run with
      | .error error =>
        request .rollback
        return .error error
      | .ok value =>
        match ← request .commit with
        | .ok () => return .ok value
        | .error error =>
          request .rollback
          return .error (meaning value error)

/-- Connect to the database at an address. -/
def connect (url : String) (maxConnections : Nat) :
    Program DatabaseCalls (Except DatabaseError Unit) :=
  match Address.check url with
  | .error error => return .error (.configuration error)
  | .ok () => request (.connect url maxConnections)

/-- Whether the database answers. -/
def checkHealth : Program DatabaseCalls (Except DatabaseError Unit) := do
  let result ← request (.send .ping)
  return result.map fun _ => ()

/-- Apply migrations one after another, up to the first that fails. -/
def applyAll :
    List Migration → Program DatabaseCalls (Except MigrationError Unit)
  | [] => return .ok ()
  | m :: rest => do
    match ← request (.applyMigration m) with
    | .ok () => applyAll rest
    | .error error => return .error (.executing m.version error)

/-- Bring the schema up to date. -/
def migrate : Program DatabaseCalls (Except MigrationError Unit) := do
  match ← request .appliedMigrations with
  | .error error => return .error (.listing error)
  | .ok applied => applyAll (Migration.pending applied)

end Dialogue

end TemplateRegistry
