import TemplateRegistry.Proofs.CacheHistories
/-!
# What a cache forgets

The entry of a name is the last value that was kept of it, unless the name has
been invalidated since.  It is missing only if it has expired, or if it gave way
to another name when the cache was full of entries kept no earlier.

* `LastKept` — the last value of a name, told by the events alone;
* `CrowdedOut` — why a value that still counts may be missing;
* `Change.mem_left`, `Change.mem_found` — where the entries of a step come from
  and what becomes of them;
* `Remembers` — what holds of the entries at every instant;
* `Run.present` — a value that was kept is there, has expired or was crowded
  out.
-/

namespace TemplateRegistry

variable {α : Type}

namespace CacheEvent

/-- After an event the entry of a name is not what it was before. -/
def Supersedes (event : CacheEvent α) (name : String) : Prop :=
  event.operation.Invalidates name ∨ ∃ value now, event.Keeps name value now

/-- Keeping a value supersedes no other name. -/
theorem not_supersedes_of_keeps {event : CacheEvent α} {name other : String}
    {value : α} {now : Nat} (h : event.Keeps name value now)
    (hne : other ≠ name) : ¬ event.Supersedes other := by
  rintro (hinvalidates | ⟨another, later, hkeeps⟩)
  · exact CacheOperation.not_invalidates_of_instant h.instant other hinvalidates
  · exact hne (h.unique hkeeps).1

/-- A value comes under a new name when there are as many unexpired entries as
there is room for. -/
def Crowds (event : CacheEvent α) (now : Nat) : Prop :=
  (∃ name value, event.Keeps name value now ∧
      event.found.entries.contains name = false) ∧
    (event.found.unexpired now).length = event.found.capacity

end CacheEvent

/-- The value that was kept last of a name, and from when on; the name has not
been invalidated since. -/
def LastKept (events : List (CacheEvent α)) (name : String) (value : α)
    (keptAt : Nat) : Prop :=
  ∃ before kept since, events = before ++ kept :: since ∧
    kept.Keeps name value keptAt ∧ ∀ event ∈ since, ¬ event.Supersedes name

/-- After some events, a value came to a full cache in which every entry was
kept at some instant or later. -/
def CrowdedOut (before since : List (CacheEvent α)) (keptAt : Nat) : Prop :=
  ∃ earlier event later now, since = earlier ++ event :: later ∧
    event.Crowds now ∧ ∀ entry ∈ event.found.unexpired now, ∃ otherAt,
      LastKept (before ++ earlier) entry.1 entry.2.value otherAt ∧
      keptAt ≤ otherAt

/-- The instants at which events looked at the time, and one more, are in
order. -/
def Chronological (events : List (CacheEvent α)) (now : Nat) : Prop :=
  (events.filterMap (fun event => event.operation.instant?) ++ [now]).Pairwise
    (· ≤ ·)

section Events

variable {events since before : List (CacheEvent α)} {event kept : CacheEvent α}
variable {name : String} {value : α} {keptAt now : Nat}

/-- What was kept last stays so until something supersedes it. -/
theorem LastKept.append (h : LastKept events name value keptAt)
    (hsuper : ¬ event.Supersedes name) :
    LastKept (events ++ [event]) name value keptAt := by
  obtain ⟨before, kept, since, rfl, hkeeps, hsince⟩ := h
  refine ⟨before, kept, since ++ [event], by simp, hkeeps,
    fun other hother => ?_⟩
  rcases List.mem_append.mp hother with hold | hnew
  · exact hsince other hold
  · rwa [List.mem_singleton.mp hnew]

/-- What was crowded out stays out. -/
theorem CrowdedOut.append (h : CrowdedOut before since keptAt)
    (event : CacheEvent α) :
    CrowdedOut before (since ++ [event]) keptAt := by
  obtain ⟨earlier, crowding, later, now, rfl, hcrowds, hentries⟩ := h
  exact ⟨earlier, crowding, later ++ [event], now, by simp, hcrowds, hentries⟩

/-- An event among some events and one more is among them or is that one. -/
theorem append_singleton_eq_append_cons
    (h : events ++ [event] = before ++ kept :: since) :
    (events = before ∧ event = kept ∧ since = []) ∨
      ∃ earlier, since = earlier ++ [event] ∧
        events = before ++ kept :: earlier := by
  rcases List.eq_nil_or_concat since with rfl | ⟨earlier, last, rfl⟩
  · obtain ⟨rfl, hlast⟩ := List.append_inj' h rfl
    exact Or.inl ⟨rfl, by simpa using hlast, rfl⟩
  · rw [List.concat_eq_append, ← List.cons_append, ← List.append_assoc] at h
    obtain ⟨rfl, hlast⟩ := List.append_inj' h rfl
    obtain rfl : event = last := by simpa using hlast
    exact Or.inr ⟨earlier, by simp, rfl⟩

/-- What events in order looked at is not after what comes next. -/
theorem Chronological.le (h : Chronological events now) (hmem : event ∈ events)
    {instant : Nat} (hinstant : event.operation.instant? = some instant) :
    instant ≤ now :=
  (List.pairwise_append.mp h).2.2 instant (List.mem_filterMap.mpr
      ⟨event, hmem, hinstant⟩) now
    List.mem_cons_self

end Events

namespace Cache

variable {cache left start : Cache α} {operation : CacheOperation α}
variable {events : List (CacheEvent α)} {entry : String × CacheEntry α}

/-! ### One step -/

/-- Room is made among the entries. -/
theorem RoomMade.sublist {now : Nat} {entries : Table (CacheEntry α)}
    (h : cache.RoomMade now entries) : entries.Sublist cache.entries := by
  cases h with
  | spare => exact List.Sublist.refl _
  | purged => exact List.filter_sublist
  | evicted => exact List.filter_sublist.trans List.filter_sublist

/-- There is room for one entry more. -/
theorem RoomMade.length_lt {now : Nat} {entries : Table (CacheEntry α)}
    (h : cache.RoomMade now entries)
    (hroom : cache.entries.length ≤ cache.capacity) :
    entries.length < cache.capacity := by
  cases h with
  | spare hspare => exact hspare
  | purged _ hpurged => exact hpurged
  | evicted _ hmem _ =>
      calc _ < (cache.unexpired now).length := Table.length_erase_lt hmem
        _ ≤ cache.entries.length := List.length_filter_le _ _
        _ ≤ cache.capacity := hroom

/-- An entry gives way only if it has expired, or if the cache is full and no
entry expires before it. -/
theorem RoomMade.mem_or
    (hascending : (Table.keys cache.entries).Pairwise (· < ·)) {now : Nat}
    {entries : Table (CacheEntry α)} (h : cache.RoomMade now entries)
    (hmem : entry ∈ cache.entries) :
    entry ∈ entries ∨ entry.2.expiresAt ≤ now ∨
      (cache.capacity ≤ (cache.unexpired now).length ∧
        ∀ other ∈ cache.unexpired now,
          entry.2.expiresAt ≤ other.2.expiresAt) := by
  by_cases hexpired : entry.2.expiresAt ≤ now
  · exact Or.inr (Or.inl hexpired)
  have hfresh : entry ∈ cache.unexpired now :=
    List.mem_filter.mpr ⟨hmem, by simpa using hexpired⟩
  cases h with
  | spare => exact Or.inl hmem
  | purged => exact Or.inl hfresh
  | @evicted victim hfull hvictim hfirst =>
      by_cases hname : entry.1 = victim.1
      · -- names are distinct, so this is the entry that gives way
        have hentry := Table.get?_of_mem hascending hmem
        have hgone :=
          Table.get?_of_mem hascending (List.mem_filter.mp hvictim).1
        rw [hname, hgone] at hentry
        rw [← Option.some.inj hentry]
        exact Or.inr (Or.inr ⟨hfull, hfirst⟩)
      · exact Or.inl (Table.mem_erase.mpr ⟨hfresh, hname⟩)

/-- A value that is kept has an entry. -/
theorem Change.mem_of_keeps (h : cache.Change operation left) {name : String}
    {value : α} {now : Nat} (hkeeps : operation.Keeps cache name value now) :
    (name, ⟨value, now + cache.timeToLive.nanoseconds⟩) ∈ left.entries := by
  cases h with
  | nothing _ hrefused => exact (hrefused _ _ _ hkeeps).elim
  | expired => cases hkeeps
  | replaced hkeeps' =>
      obtain ⟨rfl, rfl, rfl⟩ := hkeeps.unique hkeeps'
      exact Table.mem_insert_self _ _ _
  | added hkeeps' =>
      obtain ⟨rfl, rfl, rfl⟩ := hkeeps.unique hkeeps'
      exact Table.mem_insert_self _ _ _
  | invalidated htarget =>
      exact (CacheOperation.not_invalidates_of_instant hkeeps.instant _
        (Or.inl htarget)).elim
  | cleared => cases hkeeps

/-- An entry that a step leaves was there and stays as it is, or is kept now. -/
theorem Change.mem_left (h : cache.Change operation left)
    (hascending : (Table.keys cache.entries).Pairwise (· < ·))
    (hmem : entry ∈ left.entries) :
    (entry ∈ cache.entries ∧
        ¬ CacheEvent.Supersedes ⟨cache, operation⟩ entry.1) ∨
      ∃ now, operation.Keeps cache entry.1 entry.2.value now ∧
        entry.2.expiresAt = now + cache.timeToLive.nanoseconds := by
  cases h with
  | nothing hquiet hrefused =>
      refine Or.inl ⟨hmem, ?_⟩
      rintro (hinvalidates | ⟨value, now, hkeeps⟩)
      · exact hquiet _ hinvalidates
      · exact hrefused _ _ _ hkeeps
  | expired =>
      refine Or.inl ⟨(Table.mem_erase.mp hmem).1, ?_⟩
      rintro (hinvalidates | ⟨value, now, hkeeps⟩)
      · exact CacheOperation.not_invalidates_of_instant rfl _ hinvalidates
      · cases hkeeps
  | replaced hkeeps =>
      rcases Table.eq_or_ne_of_mem_insert hascending hmem with rfl | ⟨hold, hne⟩
      · exact Or.inr ⟨_, hkeeps, rfl⟩
      · exact Or.inl ⟨hold, CacheEvent.not_supersedes_of_keeps hkeeps hne⟩
  | added hkeeps _ hroom =>
      rcases Table.eq_or_ne_of_mem_insert
        (Table.pairwise_keys_of_sublist hascending hroom.sublist) hmem
          with rfl | ⟨hold, hne⟩
      · exact Or.inr ⟨_, hkeeps, rfl⟩
      · exact Or.inl ⟨hroom.sublist.subset hold,
          CacheEvent.not_supersedes_of_keeps hkeeps hne⟩
  | invalidated htarget =>
      rw [entries_invalidate] at hmem
      obtain ⟨hold, hne⟩ := Table.mem_erase.mp hmem
      refine Or.inl ⟨hold, ?_⟩
      rintro ((hinvalidates | rfl) | ⟨value, now, hkeeps⟩)
      · exact hne (Option.some.inj (hinvalidates.symm.trans htarget))
      · cases htarget
      · exact CacheOperation.not_invalidates_of_instant hkeeps.instant _
          (Or.inl htarget)
  | cleared => cases hmem

/-- An entry that a step finds stays, unless it is superseded, has expired or is
crowded out by entries that expire no earlier. -/
theorem Change.mem_found (h : cache.Change operation left)
    (hascending : (Table.keys cache.entries).Pairwise (· < ·))
    (hroom : cache.entries.length ≤ cache.capacity)
    (hmem : entry ∈ cache.entries)
    (hsuper : ¬ CacheEvent.Supersedes ⟨cache, operation⟩ entry.1) :
    entry ∈ left.entries ∨
      (∃ now, operation.instant? = some now ∧ entry.2.expiresAt ≤ now) ∨
      ∃ now, CacheEvent.Crowds ⟨cache, operation⟩ now ∧
        ∀ other ∈ cache.unexpired now,
          entry.2.expiresAt ≤ other.2.expiresAt := by
  cases h with
  | nothing => exact Or.inl hmem
  | @expired now name found hget hexpired =>
      by_cases hname : entry.1 = name
      · subst hname
        have hentry := Table.get?_of_mem hascending hmem
        rw [hget] at hentry
        rw [← Option.some.inj hentry]
        exact Or.inr (Or.inl ⟨now, rfl, hexpired⟩)
      · exact Or.inl (Table.mem_erase.mpr ⟨hmem, hname⟩)
  | @replaced _ name value now hkeeps =>
      have hne : entry.1 ≠ name := by
        rintro rfl
        exact hsuper (Or.inr ⟨value, now, hkeeps⟩)
      exact Or.inl (Table.mem_insert_of_ne hne hmem)
  | @added _ name value now entries hkeeps habsent hmade =>
      rcases hmade.mem_or hascending hmem with hold | hexpired | ⟨hfull, hfirst⟩
      · have hne : entry.1 ≠ name := by
          rintro rfl
          exact hsuper (Or.inr ⟨value, now, hkeeps⟩)
        exact Or.inl (Table.mem_insert_of_ne hne hold)
      · exact Or.inr (Or.inl ⟨now, hkeeps.instant, hexpired⟩)
      · have hcount : (cache.unexpired now).length = cache.capacity :=
          Nat.le_antisymm (Nat.le_trans (List.length_filter_le _ _) hroom) hfull
        exact Or.inr (Or.inr ⟨now, ⟨⟨name, value, hkeeps, habsent⟩, hcount⟩,
          hfirst⟩)
  | @invalidated _ name htarget =>
      have hne : entry.1 ≠ name := by
        rintro rfl
        exact hsuper (Or.inl (Or.inl htarget))
      rw [entries_invalidate]
      exact Or.inl (Table.mem_erase.mpr ⟨hmem, hne⟩)
  | cleared => exact (hsuper (Or.inl (Or.inr rfl))).elim

/-- A step keeps the entries in order, and within the room there is. -/
theorem Change.room (h : cache.Change operation left)
    (hascending : (Table.keys cache.entries).Pairwise (· < ·))
    (hroom : cache.entries.length ≤ cache.capacity) :
    (Table.keys left.entries).Pairwise (· < ·) ∧
    left.entries.length ≤ cache.capacity := by
  have hfewer {entries : Table (CacheEntry α)}
        (hsub : entries.Sublist cache.entries) :
      (Table.keys entries).Pairwise (· < ·) ∧ entries.length ≤ cache.capacity :=
    ⟨Table.pairwise_keys_of_sublist hascending hsub,
      Nat.le_trans hsub.length_le hroom⟩
  cases h with
  | nothing => exact ⟨hascending, hroom⟩
  | expired => exact hfewer List.filter_sublist
  | replaced _ hpresent =>
      refine ⟨Table.pairwise_keys_insert hascending _ _, ?_⟩
      rw [withEntry, Table.length_insert_of_contains hascending hpresent]
      exact hroom
  | added _ _ hmade =>
      refine ⟨Table.pairwise_keys_insert (hfewer hmade.sublist).1 _ _, ?_⟩
      exact Nat.le_trans (Table.length_insert_le _ _ _) (hmade.length_lt hroom)
  | invalidated =>
      rw [entries_invalidate]
      exact hfewer List.filter_sublist
  | cleared => exact ⟨List.Pairwise.nil, Nat.zero_le _⟩

/-! ### Every instant -/

/-- What holds of the entries of a cache after some events. -/
structure Remembers (cache : Cache α) (events : List (CacheEvent α)) :
    Prop where
  positive : 0 < cache.capacity
  ascending : (Table.keys cache.entries).Pairwise (· < ·)
  room : cache.entries.length ≤ cache.capacity
  kept : ∀ entry ∈ cache.entries, ∃ keptAt,
    LastKept events entry.1 entry.2.value keptAt ∧
    entry.2.expiresAt = keptAt + cache.timeToLive.nanoseconds
  disabled : cache.isEnabled = false → cache.entries = []

/-- An empty cache remembers that nothing has happened. -/
theorem remembers_empty (timeToLive : Duration) (capacity : Nat) :
    Remembers (.empty timeToLive capacity : Cache α) [] where
  positive := Nat.le_max_right capacity 1
  ascending := List.Pairwise.nil
  room := Nat.zero_le _
  kept := by simp [empty]
  disabled _ := rfl

/-- **Every step** keeps it so. -/
theorem Remembers.step (h : cache.Remembers events)
    (hstep : cache.Step operation left) :
    left.Remembers (events ++ [⟨cache, operation⟩]) := by
  have hchange := hstep.change h.positive
  obtain ⟨hlive, hcapacity⟩ := hchange.settings
  obtain ⟨hascending, hroom⟩ := hchange.room h.ascending h.room
  refine ⟨hcapacity ▸ h.positive, hascending, hcapacity ▸ hroom,
    fun entry hentry => ?_, fun hdisabled => ?_⟩
  · rw [hlive]
    rcases hchange.mem_left h.ascending hentry with ⟨hold, hsuper⟩ |
      ⟨now, hkeeps, hexpires⟩
    · obtain ⟨keptAt, hkept, hexpires⟩ := h.kept entry hold
      exact ⟨keptAt, hkept.append hsuper, hexpires⟩
    · exact ⟨now, ⟨events, _, [], rfl, hkeeps, by simp⟩, hexpires⟩
  · have hsame : cache.isEnabled = false := by
      rw [isEnabled, hlive] at hdisabled
      exact hdisabled
    rw [List.eq_nil_iff_forall_not_mem]
    intro entry hentry
    rcases hchange.mem_left h.ascending hentry with ⟨hold, -⟩ | ⟨now, hkeeps, -⟩
    · rw [h.disabled hsame] at hold
      cases hold
    · rw [hkeeps.enabled] at hsame
      cases hsame

/-- What a cache remembers, it remembers along every run. -/
theorem Remembers.run (h : start.Remembers []) (run : start.Run events cache) :
    cache.Remembers events := by
  induction run with
  | refl => exact h
  | step _ hstep ih => exact ih.step hstep

/-- **Every run.**  The value that was kept last of a name is there, unless it
has expired at one of the instants since, or was crowded out. -/
theorem Run.present (h : start.Remembers []) (run : start.Run events cache)
    {before since : List (CacheEvent α)} {kept : CacheEvent α} {name : String}
    {value : α} {keptAt : Nat} (hevents : events = before ++ kept :: since)
    (hkeeps : kept.Keeps name value keptAt)
    (hsince : ∀ event ∈ since, ¬ event.Supersedes name) :
    (name, ⟨value, keptAt + cache.timeToLive.nanoseconds⟩) ∈ cache.entries ∨
      (∃ event ∈ since, ∃ now, event.operation.instant? = some now ∧
        keptAt + cache.timeToLive.nanoseconds ≤ now) ∨
      CrowdedOut (before ++ [kept]) since keptAt := by
  induction run generalizing since with
  | refl => simp at hevents
  | @step events cache left operation run hstep ih =>
      have hremembers := h.run run
      have hchange := hstep.change hremembers.positive
      rw [hchange.settings.1]
      rcases append_singleton_eq_append_cons hevents with
        ⟨rfl, rfl, rfl⟩ | ⟨earlier, rfl, hearlier⟩
      · exact Or.inl (hchange.mem_of_keeps hkeeps)
      have hsuper := hsince _ (List.mem_append_right _ List.mem_cons_self)
      rcases ih hearlier fun event hevent =>
        hsince event (List.mem_append_left _ hevent) with
          hmem | ⟨event, hevent, hexpired⟩ | hcrowded
      · rcases hchange.mem_found hremembers.ascending hremembers.room hmem
            hsuper with
          hstays | ⟨now, hinstant, hexpired⟩ | ⟨now, hcrowds, hfirst⟩
        · exact Or.inl hstays
        · exact Or.inr (Or.inl ⟨_, List.mem_append_right _ List.mem_cons_self,
            now, hinstant, hexpired⟩)
        · -- all entries live equally long, so one that expires no earlier was
          -- kept no earlier
          refine Or.inr (Or.inr ⟨earlier, _, [], now, rfl, hcrowds,
            fun other hother => ?_⟩)
          obtain ⟨otherAt, hlast, hexpires⟩ :=
            hremembers.kept other (List.mem_filter.mp hother).1
          refine ⟨otherAt, by simpa [hearlier] using hlast, ?_⟩
          have hle := hfirst other hother
          rw [hexpires] at hle
          exact Nat.le_of_add_le_add_right hle
      · exact Or.inr (Or.inl ⟨event, List.mem_append_left _ hevent, hexpired⟩)
      · exact Or.inr (Or.inr (hcrowded.append _))

/-- A value is found exactly if it has an entry that has not expired. -/
theorem Remembers.get_eq_some_iff (h : cache.Remembers events) {now : Nat}
    {name : String} {value : α} : (cache.get now name).1 = some value ↔
      ∃ expiresAt, (name, ⟨value, expiresAt⟩) ∈ cache.entries ∧
        now < expiresAt := by
  unfold get
  cases hget : cache.entries.get? name with
  | none =>
      simp only [reduceCtorEq, false_iff]
      rintro ⟨expiresAt, hmem, -⟩
      rw [Table.get?_of_mem h.ascending hmem] at hget
      cases hget
  | some entry =>
      constructor
      · intro hfound
        by_cases hfresh : now < entry.expiresAt
        · obtain rfl : entry.value = value := by simpa [hfresh] using hfound
          exact ⟨entry.expiresAt, Table.mem_of_get? hget, hfresh⟩
        · simp [hfresh] at hfound
      · rintro ⟨expiresAt, hmem, hfresh⟩
        rw [Table.get?_of_mem h.ascending hmem] at hget
        obtain rfl := Option.some.inj hget
        simp [hfresh]

/-- **What a cache may forget.**  In every run of a cache there are never more
entries than there is room for, and none if nothing is to be kept.  A value is
found only if it is the last one that was kept of its name, its time to live has
not passed and the name has not been invalidated since.  And where the instants
are in order, such a value is missing only if since then a value under a new
name found the cache full of unexpired entries, each kept no earlier. -/
theorem forgets_only_when_crowded (timeToLive : Duration) (capacity : Nat)
    {events : List (CacheEvent α)} {cache : Cache α}
    (run : (Cache.empty timeToLive capacity).Run events cache) :
    cache.size ≤ max capacity 1 ∧
    (timeToLive.nanoseconds = 0 → cache.isEmpty = true) ∧
    (∀ now name value, (cache.get now name).1 = some value →
      ∃ keptAt, LastKept events name value keptAt ∧
        now < keptAt + timeToLive.nanoseconds) ∧
    ∀ before kept since name value keptAt now, events =
      before ++ kept :: since →
      kept.Keeps name value keptAt →
      (∀ event ∈ since, ¬ event.Supersedes name) →
      Chronological events now → now < keptAt + timeToLive.nanoseconds →
      (cache.get now name).1 ≠ some value →
      CrowdedOut (before ++ [kept]) since keptAt := by
  have hempty := remembers_empty (α := α) timeToLive capacity
  have hremembers := hempty.run run
  obtain ⟨hlive, hcapacity⟩ :
      cache.timeToLive = timeToLive ∧ cache.capacity = max capacity 1 :=
    run.settings hempty.positive
  refine ⟨hcapacity ▸ hremembers.room, fun hzero => ?_,
    fun now name value hfound => ?_, ?_⟩
  · have hdisabled : cache.isEnabled = false := by
      simp [isEnabled, hlive, hzero]
    simp [isEmpty, hremembers.disabled hdisabled]
  · obtain ⟨expiresAt, hmem, hfresh⟩ := hremembers.get_eq_some_iff.mp hfound
    obtain ⟨keptAt, hlast, hexpires⟩ := hremembers.kept _ hmem
    rw [hlive] at hexpires
    exact ⟨keptAt, hlast, hexpires ▸ hfresh⟩
  · intro before kept since name value keptAt now hevents hkeeps hsince hordered
      hfresh hmissing
    have hpresent := run.present hempty hevents hkeeps hsince
    rw [hlive] at hpresent
    rcases hpresent with hmem | ⟨event, hevent, instant, hinstant, hexpired⟩ |
      hcrowded
    · exact (hmissing (hremembers.get_eq_some_iff.mpr ⟨_, hmem, hfresh⟩)).elim
    · have hearlier : instant ≤ now :=
        hordered.le (hevents ▸
          List.mem_append_right _ (List.mem_cons_of_mem _ hevent)) hinstant
      omega
    · exact hcrowded

/-- Three values for a cache with room for two. -/
def threeForTwo : List (CacheOperation Nat) :=
  [.insert 0 "greeting" 1, .insert 1 "farewell" 2, .insert 2 "thanks" 3]

/-- Of three values for a cache with room for two the first is crowded out, and
the second is found. -/
theorem forgets_first_of_three_for_two :
    let start : Cache Nat := .empty ⟨60⟩ 2
    let events := start.history threeForTwo
    start.Run events (start.afterAll threeForTwo) ∧
      CrowdedOut (events.take 1) (events.drop 1) 0 ∧
      ∃ keptAt, LastKept events "farewell" 2 keptAt ∧ 3 < keptAt + 60 := by
  intro start events
  have run : start.Run events (start.afterAll threeForTwo) :=
    run_history start threeForTwo
  have hkeeps (found : Cache Nat) (henabled : found.isEnabled = true)
      (now : Nat) (name : String) (value : Nat) :
      (⟨found, .insert now name value⟩ : CacheEvent Nat).Keeps name value now :=
    .insert henabled
  have hsince : ∀ event ∈ events.drop 1, ¬ event.Supersedes "greeting" := by
    intro event hevent
    rcases List.mem_cons.mp hevent with rfl | hlast
    · exact CacheEvent.not_supersedes_of_keeps (hkeeps _ (by decide) _ _ _)
        (by decide)
    · rw [List.mem_singleton.mp hlast]
      exact CacheEvent.not_supersedes_of_keeps (hkeeps _ (by decide) _ _ _)
        (by decide)
  have hordered : Chronological events 3 := by
    simp [events, threeForTwo, history, Chronological, CacheOperation.instant?]
  obtain ⟨-, -, hfound, hmissing⟩ := forgets_only_when_crowded ⟨60⟩ 2 run
  exact ⟨run, hmissing [] _ (events.drop 1) "greeting" 1 0 3 rfl
    (hkeeps start (by decide) _ _ _) hsince hordered (by decide) (by decide),
    hfound 3 "farewell" 2 (by decide)⟩

end Cache

end TemplateRegistry
