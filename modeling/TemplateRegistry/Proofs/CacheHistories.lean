import TemplateRegistry.Proofs.CacheCoherence
/-!
# Histories of a cache

What happens to a cache is a list of events, each of them an operation and the
cache that it found.  What an operation leaves is settled but for one thing:
where several entries expire first together and one has to give way, the
operation takes the first by name, and nothing should depend on that order.  So
in a run any of them may be the one.

* `Cache.after` — what an operation leaves;
* `Cache.Step` — the same, with any of the entries that expire first given up;
* `Cache.Run` — steps, one after another, with their events;
* `Cache.Change`, `Step.change` — all that a step can do.
-/

namespace TemplateRegistry

variable {α : Type}

/-- An operation on a cache; those that look at the time carry the instant. -/
inductive CacheOperation (α : Type)
  | get (now : Nat) (name : String)
  | insert (now : Nat) (name : String) (value : α)
  | insertIfCurrent (now : Nat) (name : String) (value : α) (ticket : Nat)
  | invalidate (name : String)
  | invalidateAll
  | beginWrite (name : String)
  | endWrite (name : String)

namespace CacheOperation

/-- The instant at which an operation looks at the time. -/
def instant? : CacheOperation α → Option Nat
  | get now _ => some now
  | insert now _ _ => some now
  | insertIfCurrent now _ _ _ => some now
  | _ => none

/-- The one name that an operation invalidates. -/
def target? : CacheOperation α → Option String
  | invalidate name => some name
  | beginWrite name => some name
  | endWrite name => some name
  | _ => none

/-- An operation drops the entry of a name and refuses what was loaded
before. -/
def Invalidates (operation : CacheOperation α) (name : String) : Prop :=
  operation.target? = some name ∨ operation = invalidateAll

/-- An operation keeps a value of a name from an instant on. -/
inductive Keeps (cache : Cache α) : CacheOperation α → String → α → Nat → Prop
  | insert {now : Nat} {name : String} {value : α}
      (henabled : cache.isEnabled = true) :
      Keeps cache (.insert now name value) name value now
  | insertIfCurrent {now : Nat} {name : String} {value : α} {ticket : Nat}
      (henabled : cache.isEnabled = true)
      (hcurrent : cache.isCurrent name ticket = true) :
      Keeps cache (.insertIfCurrent now name value ticket) name value now

/-- The writers of each name after an operation. -/
def writersAfter : CacheOperation α → Table Nat → Table Nat
  | beginWrite name, writers =>
    writers.insert name ((writers.get? name).getD 0 + 1)
  | endWrite name, writers => Cache.withoutWriter name writers
  | _, writers => writers

variable {cache : Cache α} {operation : CacheOperation α} {name : String}
  {value : α} {now : Nat}

/-- Only an enabled cache keeps anything. -/
theorem Keeps.enabled (h : operation.Keeps cache name value now) :
    cache.isEnabled = true := by
  cases h <;> assumption

/-- A value is kept from the instant of the operation. -/
theorem Keeps.instant (h : operation.Keeps cache name value now) :
    operation.instant? = some now := by
  cases h <;> rfl

/-- What looks at the time invalidates nothing. -/
theorem not_invalidates_of_instant (h : operation.instant? = some now)
    (name : String) :
    ¬ operation.Invalidates name := by
  cases operation <;> simp_all [instant?, Invalidates, target?]

/-- An operation keeps one value at most. -/
theorem Keeps.unique (h : operation.Keeps cache name value now) {other : String}
    {another : α} {later : Nat}
    (h' : operation.Keeps cache other another later) :
    other = name ∧ another = value ∧ later = now := by
  cases h <;> cases h' <;> exact ⟨rfl, rfl, rfl⟩

end CacheOperation

/-- An operation on a cache, with the cache as it was before. -/
structure CacheEvent (α : Type) where
  found : Cache α
  operation : CacheOperation α

/-- An event keeps a value of a name from an instant on. -/
def CacheEvent.Keeps (event : CacheEvent α) (name : String) (value : α)
    (now : Nat) : Prop :=
  event.operation.Keeps event.found name value now

namespace Cache

variable {cache left : Cache α} {operation : CacheOperation α}

/-- The cache that an operation leaves. -/
def after (cache : Cache α) : CacheOperation α → Cache α
  | .get now name => (cache.get now name).2
  | .insert now name value => cache.insert now name value
  | .insertIfCurrent now name value ticket =>
    (cache.insertIfCurrent now name value ticket).2
  | .invalidate name => (cache.invalidate name).2
  | .invalidateAll => cache.invalidateAll
  | .beginWrite name => cache.beginWrite name
  | .endWrite name => cache.endWrite name

/-- The entries that count at an instant. -/
def unexpired (now : Nat) (cache : Cache α) : Table (CacheEntry α) :=
  cache.entries.filter fun entry => now < entry.2.expiresAt

/-- A cache with some of its entries and one kept from an instant on. -/
def withEntry (entries : Table (CacheEntry α)) (name : String) (value : α)
    (now : Nat) (cache : Cache α) : Cache α :=
  { cache with
    entries := entries.insert name ⟨value, now + cache.timeToLive.nanoseconds⟩ }

/-- Entries among which there is room for one more: all of them, the unexpired
ones, or these without one that expires first. -/
inductive RoomMade (now : Nat) (cache : Cache α) : Table (CacheEntry α) → Prop
  | spare (hroom : cache.entries.length < cache.capacity) :
      RoomMade now cache cache.entries
  | purged (hfull : cache.capacity ≤ cache.entries.length)
      (hroom : (cache.unexpired now).length < cache.capacity) :
      RoomMade now cache (cache.unexpired now)
  | evicted {victim : String × CacheEntry α}
      (hfull : cache.capacity ≤ (cache.unexpired now).length)
      (hmem : victim ∈ cache.unexpired now)
      (hfirst : ∀ entry ∈ cache.unexpired now,
        victim.2.expiresAt ≤ entry.2.expiresAt) :
      RoomMade now cache ((cache.unexpired now).erase victim.1)

/-- What an operation may leave: what it does leave, or the same after making
room in another way. -/
inductive Step (cache : Cache α) : CacheOperation α → Cache α → Prop
  | performed (operation : CacheOperation α) :
      Step cache operation (cache.after operation)
  | madeRoom {operation : CacheOperation α} {name : String} {value : α}
      {now : Nat} {entries : Table (CacheEntry α)}
      (hkeeps : operation.Keeps cache name value now)
      (habsent : cache.entries.contains name = false)
      (hroom : cache.RoomMade now entries) :
      Step cache operation (cache.withEntry entries name value now)

/-- Operations one after another, with their events. -/
inductive Run (start : Cache α) : List (CacheEvent α) → Cache α → Prop
  | refl : Run start [] start
  | step {events : List (CacheEvent α)} {cache left : Cache α}
      {operation : CacheOperation α}
      (run : Run start events cache) (h : cache.Step operation left) :
      Run start (events ++ [⟨cache, operation⟩]) left

/-! ### Operations as they are carried out -/

/-- The cache that operations leave. -/
def afterAll (cache : Cache α) (operations : List (CacheOperation α)) :
    Cache α :=
  operations.foldl after cache

/-- The events of operations. -/
def history (cache : Cache α) : List (CacheOperation α) → List (CacheEvent α)
  | [] => []
  | operation :: rest =>
    ⟨cache, operation⟩ :: history (cache.after operation) rest

/-- A run goes on with any sequence of operations. -/
theorem Run.of_history {start : Cache α} {events : List (CacheEvent α)}
    (run : start.Run events cache) (operations : List (CacheOperation α)) :
    start.Run (events ++ cache.history operations)
      (cache.afterAll operations) := by
  induction operations generalizing cache events with
  | nil => simpa [history, afterAll] using run
  | cons operation rest ih =>
      have hrest := ih (run.step (.performed operation))
      rwa [List.append_assoc] at hrest

/-- Carrying out operations is a run. -/
theorem run_history (start : Cache α) (operations : List (CacheOperation α)) :
    start.Run (start.history operations) (start.afterAll operations) :=
  Run.refl.of_history operations

/-! ### What a step can do -/

/-- All that an operation can do to a cache. -/
inductive Change (cache : Cache α) : CacheOperation α → Cache α → Prop
  | nothing {operation : CacheOperation α}
      (hquiet : ∀ name, ¬ operation.Invalidates name)
      (hrefused : ∀ name value now, ¬ operation.Keeps cache name value now) :
      Change cache operation cache
  | expired {now : Nat} {name : String} {entry : CacheEntry α}
      (hget : cache.entries.get? name = some entry)
      (hexpired : entry.expiresAt ≤ now) :
      Change cache (.get now name)
        { cache with entries := cache.entries.erase name }
  | replaced {operation : CacheOperation α} {name : String} {value : α}
      {now : Nat}
      (hkeeps : operation.Keeps cache name value now)
      (hpresent : cache.entries.contains name = true) :
      Change cache operation (cache.withEntry cache.entries name value now)
  | added {operation : CacheOperation α} {name : String} {value : α} {now : Nat}
      {entries : Table (CacheEntry α)}
      (hkeeps : operation.Keeps cache name value now)
      (habsent : cache.entries.contains name = false)
      (hroom : cache.RoomMade now entries) :
      Change cache operation (cache.withEntry entries name value now)
  | invalidated {operation : CacheOperation α} {name : String}
      (htarget : operation.target? = some name) :
      Change cache operation
        ({ cache with
          writers := operation.writersAfter cache.writers }.invalidate name).2
  | cleared : Change cache .invalidateAll cache.invalidateAll

/-- There is an entry to expire first unless there is no entry. -/
theorem firstToExpire_eq_none_iff {entries : Table (CacheEntry α)} :
    firstToExpire entries = none ↔ entries = [] := by
  cases entries with
  | nil => simp [firstToExpire]
  | cons entry rest =>
      obtain ⟨name, entry⟩ := entry
      rw [firstToExpire]
      cases firstToExpire rest with
      | none => simp
      | some first =>
          dsimp only
          split <;> simp

/-- The entry that expires first is one of the entries, and none expires
before. -/
theorem firstToExpire_eq_some {entries : Table (CacheEntry α)} {name : String}
    {expiresAt : Nat} (h : firstToExpire entries = some (name, expiresAt)) :
    (∃ entry, (name, entry) ∈ entries ∧ entry.expiresAt = expiresAt) ∧
      ∀ other ∈ entries, expiresAt ≤ other.2.expiresAt := by
  induction entries generalizing name expiresAt with
  | nil => cases h
  | cons first rest ih =>
      obtain ⟨key, entry⟩ := first
      rw [firstToExpire] at h
      cases hrest : firstToExpire rest with
      | none =>
          obtain rfl := firstToExpire_eq_none_iff.mp hrest
          rw [hrest] at h
          obtain ⟨rfl, rfl⟩ : key = name ∧ entry.expiresAt = expiresAt := by
            simpa using h
          exact ⟨⟨entry, List.mem_cons_self, rfl⟩, by simp⟩
      | some earliest =>
          obtain ⟨other, earlier⟩ := earliest
          obtain ⟨⟨found, hfound, hexpires⟩, hfirst⟩ := ih hrest
          rw [hrest] at h
          dsimp only at h
          split at h
          next hle =>
            obtain ⟨rfl, rfl⟩ : key = name ∧ entry.expiresAt = expiresAt := by
              simpa using h
            refine ⟨⟨entry, List.mem_cons_self, rfl⟩, fun another hmem => ?_⟩
            rcases List.mem_cons.mp hmem with rfl | hlater
            · exact Nat.le_refl _
            · exact Nat.le_trans hle (hfirst another hlater)
          next hnot =>
            obtain ⟨rfl, rfl⟩ : other = name ∧ earlier = expiresAt := by
              simpa using h
            refine ⟨⟨found, List.mem_cons_of_mem _ hfound, hexpires⟩,
              fun another hmem => ?_⟩
            rcases List.mem_cons.mp hmem with rfl | hlater
            · exact Nat.le_of_not_le hnot
            · exact hfirst another hlater

/-- Room is made as it should be. -/
theorem roomMade_makeRoom (hpositive : 0 < cache.capacity) (now : Nat) :
    cache.RoomMade now (makeRoom now cache.capacity cache.entries) := by
  unfold makeRoom
  by_cases hspare : cache.entries.length < cache.capacity
  · rw [if_pos hspare]
    exact .spare hspare
  rw [if_neg hspare]
  by_cases hpurged : (cache.unexpired now).length < cache.capacity
  · rw [unexpired] at hpurged
    simp only [if_pos hpurged]
    exact .purged (Nat.le_of_not_lt hspare) hpurged
  have hfull : cache.capacity ≤ (cache.unexpired now).length :=
    Nat.le_of_not_lt hpurged
  rw [unexpired] at hpurged
  simp only [if_neg hpurged]
  split
  next name expiresAt hfirst =>
    obtain ⟨⟨entry, hmem, rfl⟩, hle⟩ := firstToExpire_eq_some hfirst
    exact .evicted hfull hmem hle
  next hnone =>
    have hempty : cache.unexpired now = [] := firstToExpire_eq_none_iff.mp hnone
    rw [hempty, List.length_nil] at hfull
    omega

/-- Keeping a value replaces the entry of its name or adds one. -/
theorem change_insert (hpositive : 0 < cache.capacity) {name : String}
    {value : α} {now : Nat}
    (hkeeps : operation.Keeps cache name value now) :
    cache.Change operation (cache.insert now name value) := by
  unfold insert
  rw [if_pos hkeeps.enabled]
  by_cases hpresent : cache.entries.contains name = true
  · simp only [if_pos hpresent]
    exact .replaced hkeeps hpresent
  · simp only [if_neg hpresent]
    exact .added hkeeps (Bool.eq_false_iff.mpr hpresent)
      (roomMade_makeRoom hpositive now)

/-- A cache that is not enabled takes nothing in. -/
theorem insert_of_not_enabled (h : ¬ cache.isEnabled = true) (now : Nat)
    (name : String) (value : α) : cache.insert now name value = cache :=
  if_neg h

/-- A read drops an expired entry at most. -/
theorem change_get (cache : Cache α) (now : Nat) (name : String) :
    cache.Change (.get now name) (cache.get now name).2 := by
  have hnothing : cache.Change (.get now name) cache :=
    .nothing (CacheOperation.not_invalidates_of_instant rfl)
      fun _ _ _ hkeeps => nomatch hkeeps
  unfold get
  cases hget : cache.entries.get? name with
  | none => exact hnothing
  | some entry =>
      by_cases hfresh : now < entry.expiresAt
      · simpa only [if_pos hfresh] using hnothing
      · simp only [if_neg hfresh]
        exact .expired hget (Nat.le_of_not_lt hfresh)

/-- Whatever an operation does is a change. -/
theorem change_after (hpositive : 0 < cache.capacity)
    (operation : CacheOperation α) :
    cache.Change operation (cache.after operation) := by
  cases operation with
  | get now name => exact change_get cache now name
  | insert now name value =>
      show cache.Change _ (cache.insert now name value)
      by_cases henabled : cache.isEnabled = true
      · exact change_insert hpositive (.insert henabled)
      · rw [insert_of_not_enabled henabled]
        exact .nothing (CacheOperation.not_invalidates_of_instant rfl)
          fun _ _ _ hkeeps => henabled hkeeps.enabled
  | insertIfCurrent now name value ticket =>
      show cache.Change _ (cache.insertIfCurrent now name value ticket).2
      unfold insertIfCurrent
      by_cases hcurrent : cache.isCurrent name ticket = true
      · rw [if_pos hcurrent]
        by_cases henabled : cache.isEnabled = true
        · exact change_insert hpositive (.insertIfCurrent henabled hcurrent)
        · rw [insert_of_not_enabled henabled]
          exact .nothing (CacheOperation.not_invalidates_of_instant rfl)
            fun _ _ _ hkeeps => henabled hkeeps.enabled
      · rw [if_neg hcurrent]
        refine .nothing (CacheOperation.not_invalidates_of_instant rfl)
          fun _ _ _ hkeeps => ?_
        cases hkeeps with
        | insertIfCurrent _ hcounts => exact hcurrent hcounts
  | invalidate name =>
      have htarget : (CacheOperation.invalidate name :
          CacheOperation α).target? = some name := rfl
      exact .invalidated htarget
  | invalidateAll => exact .cleared
  | beginWrite name =>
      have htarget : (CacheOperation.beginWrite name :
          CacheOperation α).target? = some name := rfl
      exact .invalidated htarget
  | endWrite name =>
      have htarget : (CacheOperation.endWrite name :
          CacheOperation α).target? = some name := rfl
      exact .invalidated htarget

/-- **Steps.**  A step does nothing but one of the changes. -/
theorem Step.change (h : cache.Step operation left)
    (hpositive : 0 < cache.capacity) :
    cache.Change operation left := by
  cases h with
  | performed => exact change_after hpositive operation
  | madeRoom hkeeps habsent hroom => exact .added hkeeps habsent hroom

/-- No operation changes how long values count, or how many there is room
for. -/
theorem Change.settings (h : cache.Change operation left) :
    left.timeToLive = cache.timeToLive ∧ left.capacity = cache.capacity := by
  cases h with
  | invalidated =>
      unfold invalidate
      dsimp only
      split <;> exact ⟨rfl, rfl⟩
  | _ => exact ⟨rfl, rfl⟩

/-- A run leaves the settings alone. -/
theorem Run.settings {start : Cache α} {events : List (CacheEvent α)}
    (run : start.Run events cache) (hpositive : 0 < start.capacity) :
    cache.timeToLive = start.timeToLive ∧ cache.capacity = start.capacity := by
  induction run with
  | refl => exact ⟨rfl, rfl⟩
  | step _ h ih =>
      obtain ⟨hlive, hcapacity⟩ := ih
      have hchange := (h.change (hcapacity ▸ hpositive)).settings
      exact ⟨hchange.1.trans hlive, hchange.2.trans hcapacity⟩

end Cache

end TemplateRegistry
