import TemplateRegistry.Database.Store
import TemplateRegistry.Store.Cached
/-!
# The database behind a cache

The store that the services run over when there is a database: active versions
and components are cached in front of it.
-/

namespace TemplateRegistry.Database

/-- The interface of a database behind a cache. -/
abbrev CachedDatabaseCalls : Interface := CacheCalls.sum DatabaseCalls

/-- The program of a call. -/
def cachedReply (call : StoreCall) :
    Program CachedDatabaseCalls (Outcome call.Result) :=
  Program.handleSecond reply (cached call)

end TemplateRegistry.Database
