import TemplateRegistry.Proofs.CacheHistories
/-!
# When a ticket counts

A ticket that was taken at some point of a run counts on a name exactly if the
name has not been invalidated since, no write on it is in flight, and the stamps
have not been given up since.  They are given up only when one more name has to
be stamped than there is room for.

* `Admits` — the stamps do not refuse a ticket;
* `Change.admits_iff`, `Run.admits_iff` — what one step and what a run refuse;
* `openWrites` — the writes in flight after some events;
* `Kempt` — what holds of the clock, the stamps and the writers at every
  instant.
-/

namespace TemplateRegistry

variable {α : Type}

/-- The number of writes in flight on a name after an operation; an end without
a beginning ends nothing. -/
def CacheOperation.openAfter (name : String) : CacheOperation α → Nat → Nat
  | beginWrite other, count => if other = name then count + 1 else count
  | endWrite other, count => if other = name then count - 1 else count
  | _, count => count

/-- The number of writes in flight on a name after some events. -/
def openWrites (name : String) (events : List (CacheEvent α)) : Nat :=
  events.foldl (fun count event => event.operation.openAfter name count) 0

/-- The last event is counted after the others. -/
theorem openWrites_append_singleton (name : String)
    (events : List (CacheEvent α)) (event : CacheEvent α) :
    openWrites name (events ++ [event]) =
      event.operation.openAfter name (openWrites name events) := by
  simp [openWrites, List.foldl_append]

/-- All stamps are given up: a name without one is invalidated when there is no
room for its stamp. -/
def CacheEvent.GivesUpStamps (event : CacheEvent α) : Prop :=
  event.found.stamps.length = event.found.capacity ∧
    ∃ name, event.operation.target? = some name ∧
    event.found.stamps.contains name = false

namespace Cache

variable {cache left start : Cache α} {operation : CacheOperation α}
variable {events : List (CacheEvent α)} {name : String} {ticket : Nat}

/-- A step stamps no name, one name, or all names at once. -/
theorem Change.stamping (h : cache.Change operation left) :
    ((∀ other, ¬ operation.Invalidates other) ∧
      ∃ entries, left = { cache with entries }) ∨
    (∃ other, operation.target? = some other ∧
      left = ({ cache with
        writers := operation.writersAfter cache.writers }.invalidate other).2) ∨
    (operation = .invalidateAll ∧ left = cache.invalidateAll) := by
  cases h with
  | nothing hquiet => exact Or.inl ⟨hquiet, cache.entries, rfl⟩
  | expired =>
      exact Or.inl ⟨CacheOperation.not_invalidates_of_instant rfl, _, rfl⟩
  | replaced hkeeps =>
      exact Or.inl ⟨CacheOperation.not_invalidates_of_instant hkeeps.instant, _,
        rfl⟩
  | added hkeeps =>
      exact Or.inl ⟨CacheOperation.not_invalidates_of_instant hkeeps.instant, _,
        rfl⟩
  | invalidated htarget => exact Or.inr (Or.inl ⟨_, htarget, rfl⟩)
  | cleared => exact Or.inr (Or.inr ⟨rfl, rfl⟩)

/-! ### Stamps -/

/-- Neither the mark of all names nor the stamp of the name is beyond a
ticket. -/
def Admits (name : String) (ticket : Nat) (cache : Cache α) : Prop :=
  cache.clearedAt ≤ ticket ∧ ∀ stamp, cache.stamps.get? name = some stamp →
    stamp ≤ ticket

/-- A ticket counts while there is no writer and the stamp admits it. -/
theorem isCurrent_iff : cache.isCurrent name ticket = true ↔
    cache.writers.contains name = false ∧ cache.Admits name ticket := by
  unfold isCurrent Admits
  cases cache.stamps.get? name <;> simp [and_assoc]

/-- An invalidation refuses the tickets taken before on its name, and on all
names if the stamps are given up for it. -/
theorem admits_invalidate_iff {other : String}
    (hroom : cache.stamps.length ≤ cache.capacity)
    (hticket : ticket ≤ cache.clock) :
    (cache.invalidate other).2.Admits name ticket ↔
      cache.Admits name ticket ∧ other ≠ name ∧
      ¬ (cache.stamps.length = cache.capacity ∧
        cache.stamps.contains other = false) := by
  have hbeyond : ¬ cache.clock + 1 ≤ ticket := by omega
  unfold invalidate Admits
  by_cases hfull : cache.capacity ≤ cache.stamps.length ∧
    !cache.stamps.contains other
  · have hgiven : cache.stamps.length = cache.capacity ∧
        cache.stamps.contains other = false :=
      ⟨Nat.le_antisymm hroom hfull.1, by simpa using hfull.2⟩
    simp [hbeyond, hgiven]
  · have hkept : ¬ (cache.stamps.length = cache.capacity ∧
        cache.stamps.contains other = false) := fun hgiven =>
      hfull ⟨Nat.le_of_eq hgiven.1.symm, by simp [hgiven.2]⟩
    simp only [if_neg hfull, hkept, not_false_eq_true, and_true]
    by_cases hother : other = name
    · subst hother
      simp [Table.get?_insert_self, hbeyond]
    · rw [Table.get?_insert_ne _ _ (Ne.symm hother)]
      simp [hother]

/-- **One step** refuses a ticket that was taken before exactly if it
invalidates the name or gives up the stamps. -/
theorem Change.admits_iff (h : cache.Change operation left)
    (hroom : cache.stamps.length ≤ cache.capacity)
    (hticket : ticket ≤ cache.clock) :
    left.Admits name ticket ↔
      cache.Admits name ticket ∧ ¬ operation.Invalidates name ∧
      ¬ CacheEvent.GivesUpStamps ⟨cache, operation⟩ := by
  rcases h.stamping with ⟨hquiet, entries, rfl⟩ | ⟨other, htarget, rfl⟩ |
    ⟨rfl, rfl⟩
  · have hgiven : ¬ CacheEvent.GivesUpStamps ⟨cache, operation⟩ := by
      rintro ⟨-, other, htarget, -⟩
      exact hquiet other (Or.inl htarget)
    simp only [hquiet name, hgiven, not_false_eq_true, and_true]
    exact Iff.rfl
  · have hinvalidates : operation.Invalidates name ↔ other = name := by
      cases operation <;>
        simp_all [CacheOperation.Invalidates, CacheOperation.target?]
    have hgiven : CacheEvent.GivesUpStamps ⟨cache, operation⟩ ↔
        cache.stamps.length = cache.capacity ∧
        cache.stamps.contains other = false := by
      simp [CacheEvent.GivesUpStamps, htarget]
    rw [hinvalidates, hgiven]
    exact admits_invalidate_iff hroom hticket
  · have hbeyond : ¬ cache.clock + 1 ≤ ticket := by omega
    simp [Admits, invalidateAll, hbeyond, CacheOperation.Invalidates]

/-! ### Writers -/

/-- The writers of a name are counted up and down. -/
theorem getD_writersAfter (operation : CacheOperation α) (writers : Table Nat)
    (name : String) :
    ((operation.writersAfter writers).get? name).getD 0 =
      operation.openAfter name ((writers.get? name).getD 0) := by
  cases operation with
  | beginWrite other =>
      by_cases hother : other = name
      · simp [CacheOperation.writersAfter, CacheOperation.openAfter, hother,
          Table.get?_insert_self]
      · simp [CacheOperation.writersAfter, CacheOperation.openAfter, hother,
          Table.get?_insert_ne _ _ (Ne.symm hother)]
  | endWrite other =>
      by_cases hother : other = name
      · subst hother
        simp only [CacheOperation.writersAfter, CacheOperation.openAfter,
          if_true, withoutWriter]
        cases hcount : writers.get? other with
        | none => simp [hcount]
        | some count =>
            by_cases hlast : count - 1 = 0
            · simp [hlast, Table.get?_erase_self]
            · simp [hlast, Table.get?_insert_self]
      · simp [CacheOperation.writersAfter, CacheOperation.openAfter, hother,
          get?_withoutWriter_of_ne (Ne.symm hother)]
  | _ => rfl

/-- No writer is counted that is not there. -/
theorem pos_of_mem_writersAfter {writers : Table Nat}
    (h : ∀ writer ∈ writers, 0 < writer.2) {writer : String × Nat}
    (hmem : writer ∈ operation.writersAfter writers) : 0 < writer.2 := by
  cases operation with
  | beginWrite other =>
      rcases Table.mem_insert hmem with rfl | hold
      · exact Nat.succ_pos _
      · exact h writer hold
  | endWrite other =>
      simp only [CacheOperation.writersAfter, withoutWriter] at hmem
      split at hmem
      · exact h writer hmem
      · split at hmem
        · exact h writer (Table.mem_erase.mp hmem).1
        next hmore =>
          rcases Table.mem_insert hmem with rfl | hold
          · exact Nat.pos_of_ne_zero hmore
          · exact h writer hold
  | _ => exact h writer hmem

/-! ### Every instant -/

/-- What holds of a cache after some events, as far as tickets are concerned. -/
structure Kempt (cache : Cache α) (events : List (CacheEvent α)) : Prop where
  positive : 0 < cache.capacity
  ascending : (Table.keys cache.stamps).Pairwise (· < ·)
  room : cache.stamps.length ≤ cache.capacity
  stamped : ∀ stamp ∈ cache.stamps, stamp.2 ≤ cache.clock
  cleared : cache.clearedAt ≤ cache.clock
  writing : ∀ writer ∈ cache.writers, 0 < writer.2
  opened : ∀ name, (cache.writers.get? name).getD 0 = openWrites name events

/-- An empty cache is kempt. -/
theorem kempt_empty (timeToLive : Duration) (capacity : Nat) :
    Kempt (.empty timeToLive capacity : Cache α) [] where
  positive := Nat.le_max_right capacity 1
  ascending := List.Pairwise.nil
  room := Nat.zero_le _
  stamped := by simp [empty]
  cleared := Nat.le_refl 0
  writing := by simp [empty]
  opened _ := rfl

/-- Invalidating a name stamps it or gives up all stamps. -/
theorem Kempt.invalidate {writers : Table Nat} {more : List (CacheEvent α)}
    (h : cache.Kempt events) (hwriting : ∀ writer ∈ writers, 0 < writer.2)
    (hopened : ∀ name, (writers.get? name).getD 0 = openWrites name more)
    (name : String) :
    ({ cache with writers }.invalidate name).2.Kempt more := by
  unfold Cache.invalidate
  dsimp only
  split
  · exact ⟨h.positive, List.Pairwise.nil, Nat.zero_le _, by simp, Nat.le_refl _,
      hwriting, hopened⟩
  next hspare =>
    refine ⟨h.positive, Table.pairwise_keys_insert h.ascending _ _, ?_,
      fun stamp hstamp => ?_, Nat.le_succ_of_le h.cleared, hwriting, hopened⟩
    · -- a new stamp needs room, a later stamp of the same name does not
      by_cases hstamped : cache.stamps.contains name = true
      · show (cache.stamps.insert name _).length ≤ cache.capacity
        rw [Table.length_insert_of_contains h.ascending hstamped]
        exact h.room
      · have hlt : cache.stamps.length < cache.capacity :=
          Nat.lt_of_not_le fun hle => hspare ⟨hle, by simpa using hstamped⟩
        exact Nat.le_trans (Table.length_insert_le _ _ _) hlt
    · rcases Table.mem_insert hstamp with rfl | hold
      · exact Nat.le_refl _
      · exact Nat.le_succ_of_le (h.stamped stamp hold)

/-- **Every step** keeps it so. -/
theorem Kempt.step (h : cache.Kempt events)
    (hstep : cache.Step operation left) :
    left.Kempt (events ++ [⟨cache, operation⟩]) := by
  have hopened (name : String) :
      ((operation.writersAfter cache.writers).get? name).getD 0 =
      openWrites name (events ++ [⟨cache, operation⟩]) := by
    rw [getD_writersAfter, h.opened, openWrites_append_singleton]
  rcases (hstep.change h.positive).stamping with
    ⟨hquiet, entries, rfl⟩ | ⟨other, -, rfl⟩ | ⟨rfl, rfl⟩
  · have hwriters : operation.writersAfter cache.writers = cache.writers := by
      cases operation with
      | beginWrite other => exact (hquiet other (Or.inl rfl)).elim
      | endWrite other => exact (hquiet other (Or.inl rfl)).elim
      | _ => rfl
    rw [hwriters] at hopened
    exact ⟨h.positive, h.ascending, h.room, h.stamped, h.cleared, h.writing,
      hopened⟩
  · exact h.invalidate (fun writer => pos_of_mem_writersAfter h.writing)
      hopened other
  · exact ⟨h.positive, List.Pairwise.nil,
      Nat.zero_le _, by simp [invalidateAll], Nat.le_refl _, h.writing, hopened⟩

/-- What holds before a run holds after it. -/
theorem Kempt.run {before : List (CacheEvent α)} (h : start.Kempt before)
    (run : start.Run events cache) : cache.Kempt (before ++ events) := by
  induction run with
  | refl => simpa using h
  | step _ hstep ih =>
      rw [← List.append_assoc]
      exact ih.step hstep

/-- A ticket that is taken now is not refused by any stamp. -/
theorem Kempt.admits_ticket (h : cache.Kempt events) (name : String) :
    cache.Admits name cache.ticket :=
  ⟨h.cleared, fun _ hstamp => h.stamped _ (Table.mem_of_get? hstamp)⟩

/-- A name without a writer is one on which no write is in flight. -/
theorem Kempt.contains_writers_iff (h : cache.Kempt events) :
    cache.writers.contains name = false ↔ openWrites name events = 0 := by
  rw [← h.opened, Table.contains]
  cases hcount : cache.writers.get? name with
  | none => simp
  | some count =>
      have hpositive : 0 < count := h.writing _ (Table.mem_of_get? hcount)
      simp only [Option.isSome_some, Option.getD_some, Bool.true_eq_false,
        false_iff]
      omega

/-- Stamps are never taken back. -/
theorem Change.clock_le (h : cache.Change operation left) :
    cache.clock ≤ left.clock := by
  rcases h.stamping with ⟨-, entries, rfl⟩ | ⟨other, -, rfl⟩ | ⟨-, rfl⟩
  · exact Nat.le_refl _
  · rw [clock_invalidate]
    exact Nat.le_succ _
  · exact Nat.le_succ _

/-- **A run** refuses a ticket that was taken at its start exactly if one of its
events does. -/
theorem Run.admits_iff {before : List (CacheEvent α)} (h : start.Kempt before)
    (run : start.Run events cache) (name : String) :
    start.ticket ≤ cache.clock ∧ (cache.Admits name start.ticket ↔
      ∀ event ∈ events, ¬ event.operation.Invalidates name ∧
        ¬ event.GivesUpStamps) := by
  induction run with
  | refl => exact ⟨Nat.le_refl _, by simpa using h.admits_ticket name⟩
  | @step events cache left operation run hstep ih =>
      obtain ⟨hticket, hbefore⟩ := ih
      have hkempt := h.run run
      have hchange := hstep.change hkempt.positive
      refine ⟨Nat.le_trans hticket hchange.clock_le, ?_⟩
      rw [hchange.admits_iff hkempt.room hticket, hbefore,
        List.forall_mem_append, List.forall_mem_singleton]

/-- **Tickets.**  Take any run of a cache, and a ticket at any point of it.  A
value that comes with the ticket is kept exactly if since that point its name
was not invalidated and the stamps were not given up, and no write on the name
is in flight.  At every point each counted writer is there, and there are no
more stamps than there is room for, none of them beyond the clock. -/
theorem ticket_counts_iff_undisturbed (timeToLive : Duration) (capacity : Nat)
    {before since : List (CacheEvent α)} {taken cache : Cache α}
    (htaken : (Cache.empty timeToLive capacity).Run before taken)
    (hsince : taken.Run since cache) (now : Nat) (name : String) (value : α) :
    ((cache.insertIfCurrent now name value taken.ticket).1 = true ↔
      (∀ event ∈ since, ¬ event.operation.Invalidates name ∧
          ¬ event.GivesUpStamps) ∧
        openWrites name (before ++ since) = 0) ∧
    (∀ writer ∈ cache.writers, 0 < writer.2) ∧
    cache.stamps.length ≤ max capacity 1 ∧
    ∀ stamp ∈ cache.stamps, stamp.2 ≤ cache.clock := by
  have hstart : taken.Kempt before :=
    (kempt_empty timeToLive capacity).run htaken
  have hkempt : cache.Kempt (before ++ since) := hstart.run hsince
  have hcapacity : cache.capacity = max capacity 1 :=
    (hsince.settings hstart.positive).2.trans
      (htaken.settings (Nat.le_max_right capacity 1)).2
  have hkept : (cache.insertIfCurrent now name value taken.ticket).1 =
      cache.isCurrent name taken.ticket := by
    unfold insertIfCurrent
    cases cache.isCurrent name taken.ticket <;> rfl
  refine ⟨?_, hkempt.writing, hcapacity ▸ hkempt.room, hkempt.stamped⟩
  rw [hkept, isCurrent_iff, hkempt.contains_writers_iff,
    (hsince.admits_iff hstart name).2, and_comm]

/-- An end of a write that never began, and a write that begins. -/
def untidyWrites : List (CacheOperation Nat) :=
  [.endWrite "greeting", .beginWrite "thanks"]

/-- A ticket taken while another name is written counts when that write has
ended, and no longer when a third name is invalidated with room for two
stamps. -/
theorem ticket_counts_until_stamps_are_given_up :
    let start : Cache Nat := .empty ⟨60⟩ 2
    let taken := start.afterAll untidyWrites
    let ended := taken.afterAll [.endWrite "thanks"]
    let crowded := taken.afterAll [.endWrite "thanks", .invalidate "farewell"]
    start.Run (start.history untidyWrites) taken ∧
      taken.Run (taken.history [.endWrite "thanks"]) ended ∧
      (ended.insertIfCurrent 1 "greeting" 7 taken.ticket).1 = true ∧
      (crowded.insertIfCurrent 1 "greeting" 7 taken.ticket).1 = false := by
  intro start taken ended crowded
  have htaken : start.Run (start.history untidyWrites) taken :=
    run_history start untidyWrites
  have hended : taken.Run (taken.history [.endWrite "thanks"]) ended :=
    run_history taken _
  have hcrowded :
      taken.Run (taken.history [.endWrite "thanks", .invalidate "farewell"])
        crowded :=
    run_history taken _
  refine ⟨htaken, hended, ?_, ?_⟩
  · refine (ticket_counts_iff_undisturbed ⟨60⟩ 2 htaken hended 1
      "greeting" 7).1.mpr ⟨?_, by decide⟩
    intro event hevent
    rw [List.mem_singleton.mp hevent]
    refine ⟨by simp [CacheOperation.Invalidates, CacheOperation.target?], ?_⟩
    rintro ⟨-, name, htarget, habsent⟩
    obtain rfl : "thanks" = name := Option.some.inj htarget
    exact absurd habsent (by decide)
  · rw [Bool.eq_false_iff]
    intro hkept
    have hundisturbed :=
      ((ticket_counts_iff_undisturbed ⟨60⟩ 2 htaken hcrowded 1
        "greeting" 7).1.mp hkept).1
    exact (hundisturbed ⟨ended, .invalidate "farewell"⟩
        (by simp [history, ended, afterAll])).2
      ⟨by decide, "farewell", rfl, by decide⟩

end Cache

end TemplateRegistry
