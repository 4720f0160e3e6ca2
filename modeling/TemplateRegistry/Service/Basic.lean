import TemplateRegistry.Config
import TemplateRegistry.Store.Call
/-!
# Services

A service is a program over the calls of a store that ends with a result or an
error.  It never waits for a call longer than the configured time: a call that
does not end is an error of its own.
-/

namespace TemplateRegistry

/-- A program over a store that may fail. -/
abbrev Service (α : Type) : Type := ExceptT EngineError (Program StoreCalls) α

namespace Service

variable {α : Type}

/-- A service that does nothing but fail. -/
def fail (error : RegistryError) : Service α :=
  throw (.registry error)

/-- A service that does nothing but give the result of a check. -/
def ofExcept (result : Except RegistryError α) : Service α :=
  ExceptT.mk (pure (result.mapError .registry))

/-- The result of a call, whose time may be up. -/
def within (operation : String) (timeout : Duration) :
    Outcome α → Except EngineError α
  | .ended result => result
  | .hung => .error (.timeout operation timeout)

/-- A call of the store. -/
def call (config : Config) (c : StoreCall) : Service c.Result :=
  ExceptT.mk do
    let outcome ← Program.request (I := StoreCalls) c
    return within c.operation config.storeTimeout outcome

end Service

end TemplateRegistry
