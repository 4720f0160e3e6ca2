import TemplateRegistry.Database.Wire
import TemplateRegistry.Json.Printer
import TemplateRegistry.Json.Reader
import TemplateRegistry.Startup
/-!
# The command line

The maintenance program as a process.  Its dialogue with the database goes over
standard output and input, a line for each request and each reply; what goes
wrong is reported on standard error, and the exit code is 1 then.
-/

namespace TemplateRegistry.Session

/-- The variables that configure the program. -/
def variableNames : List String :=
  ["DATABASE_URL", "DB_MAX_CONNECTIONS", "CACHE_TTL_SECS", "STORE_TIMEOUT_SECS",
    "MAX_INCLUDE_DEPTH", "ACTIVATION_MAX_RETRIES"]

/-- A statement and its values as a line. -/
def statementLine (sql : String) (values : List SqlValue) : Json :=
  .object [("sql", .string sql),
    ("values", .array (values.map SqlValue.toJson))]

/-- A reply read from a line. -/
def replyOfLine (line : String) : Except DatabaseError Reply :=
  match (Json.ofString? line).bind Reply.ofJson? with
  | some reply => reply
  | none => .error (.invalidData "unreadable reply")

/-- Send a line and give the reply to it. -/
def exchange (request : Json) : IO (Except DatabaseError Reply) := do
  let output ← IO.getStdout
  output.putStrLn request.compact
  output.flush
  let line ← (← IO.getStdin).getLine
  return replyOfLine line

/-- Send a line whose reply only says whether it went well. -/
def exchangeUnit (request : Json) : IO (Except DatabaseError Unit) := do
  return (← exchange request).map fun _ => ()

/-- The version in a row of the table of applied migrations. -/
def appliedVersion (row : Json) : Except DatabaseError Nat :=
  Row.column "version" Json.natural? row

/-- Carry out a request. -/
def answer : (call : DatabaseCall) → IO call.Result
  | .connect url maxConnections =>
    exchangeUnit (.object [("connect", .string url),
      ("max_connections", Json.integer maxConnections)])
  | .send statement => do
    let reply ← exchange (statementLine statement.sql statement.values)
    return reply.bind fun reply => statement.read reply
  | .begin => exchangeUnit (statementLine "BEGIN" [])
  | .commit => exchangeUnit (statementLine "COMMIT" [])
  | .rollback => do
    let _ ← exchange (statementLine "ROLLBACK" [])
  | .appliedMigrations => do
    let reply ← exchange (.object [("applied_migrations", .null)])
    return reply.bind (Reply.all appliedVersion)
  | .applyMigration migration =>
    exchangeUnit (.object [("migration", Json.integer migration.version),
      ("script", .string migration.script)])

/-- Run a program by carrying out its requests. -/
def runProgram {α : Type} : Program DatabaseCalls α → IO α
  | .done value => pure value
  | .ask call next => do
    let reply ← answer call
    runProgram (next reply)

/-- The variables that are set. -/
def readVariables : IO (List (String × String)) := do
  let values ← variableNames.mapM fun name => do
    return (← IO.getEnv name).map fun value => (name, value)
  return values.filterMap id

end TemplateRegistry.Session

open TemplateRegistry in
/-- The maintenance program. -/
def main (args : List String) : IO UInt32 := do
  let environment ← Session.readVariables
  match ← Session.runProgram
    (Startup.run (fun name => environment.lookup name) args).run with
  | .ok _ => return 0
  | .error failure =>
    (← IO.getStderr).putStr failure.text
    return 1
