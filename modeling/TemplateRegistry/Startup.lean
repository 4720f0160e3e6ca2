import TemplateRegistry.Config
import TemplateRegistry.Database.Store
/-!
# Starting up

The maintenance program: read the configuration, connect to the database, see
that it answers, bring the schema up to date, and list the active components.
With the argument `check` the schema is left as it is.

What goes wrong is told as a `Failure`: a headline and a chain of causes.
-/

namespace TemplateRegistry

/-- A failure as it is told: what could not be done, and why. -/
structure Failure where
  headline : String
  causes : List String
  deriving DecidableEq

namespace Failure

/-- The lines of a cause, the first after a lead-in and the others below it. -/
def indented (lead under : String) (cause : String) : String :=
  lead ++ ("\n" ++ under).intercalate (cause.splitOn "\n")

/-- Causes with their numbers, from a number on. -/
def numbered (number : Nat) : List String → List String
  | [] => []
  | cause :: rest =>
    indented (String.ofList (padLeft (toString number).toList) ++ ": ")
      "       " cause ::
      numbered (number + 1) rest
where
  /-- Blanks before a number that is shorter than five characters. -/
  padLeft (digits : List Char) : List Char :=
    List.replicate (5 - digits.length) ' ' ++ digits

/-- The part of the text about the causes: a single one is not numbered. -/
def causeText : List String → String
  | [] => ""
  | [cause] => "\n\nCaused by:\n" ++ indented "    " "    " cause
  | causes => "\n\nCaused by:\n" ++ "\n".intercalate (numbered 0 causes)

/-- The text of a failure. -/
def text (failure : Failure) : String :=
  "Error: " ++ failure.headline ++ causeText failure.causes ++ "\n"

end Failure

namespace Startup

/-- What an error of a store is told as. -/
def storeFailure (error : EngineError) : Failure :=
  match error with
  | .database cause => ⟨error.message, cause.causes⟩
  | _ => ⟨error.message, []⟩

/-- A program that tells what goes wrong. -/
abbrev Run (α : Type) : Type := ExceptT Failure (Program DatabaseCalls) α

/-- Tell an error as a failure. -/
def orFail {α ε : Type} (failure : ε → Failure)
    (p : Program DatabaseCalls (Except ε α)) : Run α :=
  ExceptT.mk do
    let result ← p
    return result.mapError failure

/-- The configuration and the address of the database. -/
def configure (lookup : String → Option String) :
    Except Failure (Config × String) := do
  let config ← (Config.read lookup).mapError fun error =>
    ⟨"Invalid configuration", [error.message]⟩
  let url ← config.requireDatabaseUrl.mapError fun error => ⟨error.message, []⟩
  return (config, url)

/-- The maintenance program, with its arguments. -/
def run (lookup : String → Option String) (args : List String) :
    Run (List Component) := do
  let (config, url) ← ExceptT.mk (pure (configure lookup))
  orFail (fun error => ⟨"Failed to connect to database", error.causes⟩)
    (Dialogue.connect url config.maxConnections)
  orFail (fun error => ⟨"Database health check failed", error.causes⟩)
    Dialogue.checkHealth
  if args.head? ≠ some "check" then
    orFail (fun error => ⟨"Failed to run database migrations", error.causes⟩)
      Dialogue.migrate
  orFail storeFailure (Database.store .listActiveComponents).run

end Startup

end TemplateRegistry
