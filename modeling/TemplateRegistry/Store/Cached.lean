import TemplateRegistry.Cache
import TemplateRegistry.Store.Call
/-!
# A store behind a cache

Active versions and active components are cached by name in front of any other
store.  Each call becomes a program of single steps, so that the steps of
different calls may come between each other:

* a read looks into the cache and takes a ticket, loads from the store behind,
  and keeps the value if the ticket still counts;
* a write is announced, carried out by the store behind, and ended, whether it
  succeeded, failed, or was given up.

`cached` gives the program of each call; `Caches.answer` answers its steps on
the caches.  Usage counts of a cached component may lag behind.
-/

namespace TemplateRegistry

/-- The two things that are cached. -/
inductive Shelf
  | templates
  | components
  deriving DecidableEq

/-- What a shelf holds. -/
abbrev Shelf.Item : Shelf → Type
  | templates => TemplateVersion
  | components => Component

/-- What a look into the cache gives: a value, or a ticket to load one. -/
inductive Lookup (α : Type)
  | hit (value : α)
  | miss (ticket : Nat)

/-- A single step on the caches. -/
inductive CacheCall
  | find (shelf : Shelf) (name : String)
  /-- Keep a value loaded under a ticket. -/
  | keep (shelf : Shelf) (name : String) (item : shelf.Item) (ticket : Nat)
  | beginWrite (shelf : Shelf) (name : String)
  | endWrite (shelf : Shelf) (name : String)

/-- What a step on the caches is replied with. -/
abbrev CacheCall.Result : CacheCall → Type
  | find shelf _ => Lookup shelf.Item
  -- whether the value was kept
  | keep _ _ _ _ => Bool
  | beginWrite _ _ => Unit
  | endWrite _ _ => Unit

/-- The interface of the caches. -/
def CacheCalls : Interface where
  Request := CacheCall
  Reply call := call.Result

/-- The interface of a cached store: its caches, and the store behind. -/
abbrev CachedCalls : Interface := CacheCalls.sum StoreCalls

/-- A program of a cached store. -/
abbrev CachedProgram (α : Type) : Type := Program CachedCalls α

/-- A step on the caches. -/
def onCache (call : CacheCall) : CachedProgram call.Result :=
  Program.request (I := CachedCalls) (.inl call)

/-- A call of the store behind the caches. -/
def behind (call : StoreCall) : CachedProgram (Outcome call.Result) :=
  Program.request (I := CachedCalls) (.inr call)

/-- Read through a shelf. -/
def readThrough (shelf : Shelf) (name : String)
    (load : CachedProgram (Outcome shelf.Item)) :
    CachedProgram (Outcome shelf.Item) := do
  match ← onCache (.find shelf name) with
  | .hit item => return .ended (.ok item)
  | .miss ticket =>
    match ← load with
    | .ended (.ok item) =>
      let _ ← onCache (.keep shelf name item ticket)
      return .ended (.ok item)
    | outcome => return outcome

/-- Write a name of a shelf, announced before and ended after. -/
def writeThrough {α : Type} (shelf : Shelf) (name : String)
    (write : CachedProgram (Outcome α)) :
    CachedProgram (Outcome α) := do
  onCache (.beginWrite shelf name)
  let outcome ← write
  onCache (.endWrite shelf name)
  return outcome

/-- The program of a call.  Making a version active first asks for its name,
outside of the write. -/
def cached (call : StoreCall) : CachedProgram (Outcome call.Result) :=
  match call with
  | .getActive name => readThrough .templates name (behind (.getActive name))
  | .insertVersion new entry =>
    writeThrough .templates new.name (behind (.insertVersion new entry))
  | .swapActive id author notes => do
    match ← behind (.getTemplate id) with
    | .ended (.ok target) =>
      writeThrough .templates target.name (behind (.swapActive id author notes))
    | .ended (.error error) => return .ended (.error error)
    | .hung => return .hung
  | .deleteFamily name =>
    writeThrough .templates name (behind (.deleteFamily name))
  | .getActiveComponent name =>
    readThrough .components name (behind (.getActiveComponent name))
  | .putComponent new =>
    writeThrough .components new.name (behind (.putComponent new))
  | .deactivateComponent name =>
    writeThrough .components name (behind (.deactivateComponent name))
  | call => behind call

/-- The caches of a store. -/
structure Caches where
  templates : Cache TemplateVersion
  components : Cache Component

namespace Caches

/-- Caches without entries. -/
def empty (timeToLive : Duration) : Caches where
  templates := .empty timeToLive Cache.defaultCapacity
  components := .empty timeToLive Cache.defaultCapacity

/-- The cache of a shelf. -/
def shelf : (shelf : Shelf) → Caches → Cache shelf.Item
  | .templates, caches => caches.templates
  | .components, caches => caches.components

/-- The caches with the cache of a shelf replaced. -/
def withShelf : (shelf : Shelf) → Cache shelf.Item → Caches → Caches
  | .templates, cache, caches => { caches with templates := cache }
  | .components, cache, caches => { caches with components := cache }

/-- Answer a step at an instant. -/
def answer (now : Nat) : (call : CacheCall) → Caches → call.Result × Caches
  | .find s name, caches =>
    match (caches.shelf s).get now name with
    | (some item, cache) => (.hit item, caches.withShelf s cache)
    | (none, cache) => (.miss cache.ticket, caches.withShelf s cache)
  | .keep s name item ticket, caches =>
    let (kept, cache) := (caches.shelf s).insertIfCurrent now name item ticket
    (kept, caches.withShelf s cache)
  | .beginWrite s name, caches =>
    ((), caches.withShelf s ((caches.shelf s).beginWrite name))
  | .endWrite s name, caches =>
    ((), caches.withShelf s ((caches.shelf s).endWrite name))

end Caches

end TemplateRegistry
