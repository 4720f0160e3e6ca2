import TemplateRegistry.Table
import TemplateRegistry.Time.Duration
/-!
# A cache that refuses stale values

A cache of named values that expire after a fixed time to live.  Expiry alone
does not keep it consistent: whoever writes a name says so before and after the
write, and whoever loads a value takes a ticket first.

* `ticket` — the clock, which every invalidation moves on;
* `insertIfCurrent` — keep a value loaded under a ticket, unless the name was
  invalidated since or a write on it is in flight;
* `beginWrite`, `endWrite` — around a write; each of them invalidates the name.

The clock of each name's last invalidation is its stamp.  When there is no room
for one more stamp, all of them are given up for one global mark, which refuses
every older ticket.

Instants are nanoseconds since some fixed moment.
-/

namespace TemplateRegistry

/-- A value and the instant from which on it does not count. -/
structure CacheEntry (α : Type) where
  value : α
  expiresAt : Nat

/-- A cache of named values. -/
structure Cache (α : Type) where
  /-- How long a value counts; a cache without time to live keeps nothing. -/
  timeToLive : Duration
  /-- The most entries, and the most stamps. -/
  capacity : Nat
  entries : Table (CacheEntry α)
  /-- The number of invalidations so far. -/
  clock : Nat
  /-- Tickets before this are refused for every name. -/
  clearedAt : Nat
  /-- The clock of each name's last invalidation. -/
  stamps : Table Nat
  /-- The number of writes in flight on each name, where there are any. -/
  writers : Table Nat

namespace Cache

variable {α : Type}

/-- How many entries a cache holds unless configured otherwise. -/
def defaultCapacity : Nat := 1024

/-- A cache without entries, with room for one at least. -/
def empty (timeToLive : Duration) (capacity : Nat) : Cache α :=
  { timeToLive
    capacity := max capacity 1
    entries := []
    clock := 0
    clearedAt := 0
    stamps := []
    writers := [] }

/-- Whether the cache keeps anything at all. -/
def isEnabled (cache : Cache α) : Bool :=
  cache.timeToLive.nanoseconds ≠ 0

/-- The number of entries, those included that expired untouched. -/
def size (cache : Cache α) : Nat :=
  cache.entries.length

/-- Whether there are no entries. -/
def isEmpty (cache : Cache α) : Bool :=
  cache.entries.isEmpty

/-- What a loader takes before it loads. -/
def ticket (cache : Cache α) : Nat :=
  cache.clock

/-- The value of a name; an expired one is removed. -/
def get (now : Nat) (name : String) (cache : Cache α) : Option α × Cache α :=
  match cache.entries.get? name with
  | none => (none, cache)
  | some entry =>
    if now < entry.expiresAt then (some entry.value, cache)
    else (none, { cache with entries := cache.entries.erase name })

/-- The name of the entry that expires first; of several the first by name. -/
def firstToExpire : Table (CacheEntry α) → Option (String × Nat)
  | [] => none
  | (name, entry) :: rest =>
    match firstToExpire rest with
    | none => some (name, entry.expiresAt)
    | some (other, expiresAt) =>
      if entry.expiresAt ≤ expiresAt then some (name, entry.expiresAt)
      else some (other, expiresAt)

/-- Entries among which there is room for one more: without the expired ones if
the capacity is reached, and without the one that expires first if that was not
enough. -/
def makeRoom (now capacity : Nat) (entries : Table (CacheEntry α)) :
    Table (CacheEntry α) :=
  if entries.length < capacity then entries
  else
    let fresh := entries.filter fun entry => now < entry.2.expiresAt
    if fresh.length < capacity then fresh
    else
      match firstToExpire fresh with
      | some (name, _) => Table.erase name fresh
      | none => fresh

/-- Keep a value from now on. -/
def insert (now : Nat) (name : String) (value : α) (cache : Cache α) :
    Cache α :=
  if cache.isEnabled then
    let entries :=
      if cache.entries.contains name then cache.entries
      else makeRoom now cache.capacity cache.entries
    let expiresAt := now + cache.timeToLive.nanoseconds
    { cache with entries := entries.insert name ⟨value, expiresAt⟩ }
  else cache

/-- Whether a value loaded under a ticket may still be kept. -/
def isCurrent (name : String) (ticket : Nat) (cache : Cache α) : Bool :=
  !cache.writers.contains name && cache.clearedAt ≤ ticket &&
    match cache.stamps.get? name with
    | none => true
    | some stamp => stamp ≤ ticket

/-- Keep a value loaded under a ticket if it may still be kept, and say whether
it was. -/
def insertIfCurrent (now : Nat) (name : String) (value : α) (ticket : Nat)
    (cache : Cache α) :
    Bool × Cache α :=
  if cache.isCurrent name ticket then (true, cache.insert now name value)
  else (false, cache)

/-- Drop the entry of a name and refuse what was loaded before; say whether
there was one. -/
def invalidate (name : String) (cache : Cache α) : Bool × Cache α :=
  let clock := cache.clock + 1
  let stamped :=
    if cache.capacity ≤ cache.stamps.length ∧ !cache.stamps.contains name then
      { cache with clock, clearedAt := clock, stamps := [] }
    else { cache with clock, stamps := cache.stamps.insert name clock }
  (cache.entries.contains name,
    { stamped with entries := cache.entries.erase name })

/-- Drop every entry and refuse whatever was loaded before. -/
def invalidateAll (cache : Cache α) : Cache α :=
  { cache with
    clock := cache.clock + 1
    clearedAt := cache.clock + 1
    stamps := []
    entries := [] }

/-- A write on a name starts. -/
def beginWrite (name : String) (cache : Cache α) : Cache α :=
  let count := (cache.writers.get? name).getD 0
  ({ cache with
    writers := cache.writers.insert name (count + 1) }.invalidate name).2

/-- The writers of each name after one of a name has finished. -/
def withoutWriter (name : String) (writers : Table Nat) : Table Nat :=
  match writers.get? name with
  | none => writers
  | some count =>
    if count - 1 = 0 then writers.erase name
    else writers.insert name (count - 1)

/-- A write on a name has finished, with success or without. -/
def endWrite (name : String) (cache : Cache α) : Cache α :=
  ({ cache with writers := withoutWriter name cache.writers }.invalidate name).2

end Cache

end TemplateRegistry
