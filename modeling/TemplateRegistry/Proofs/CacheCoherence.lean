import TemplateRegistry.Cache
import TemplateRegistry.Proofs.Tables
/-!
# What is in a cache is current

A cache is coherent with a truth that changes only under announced writes: each
entry agrees with the truth, no write is in flight on its name, and the writes
in flight are counted.  Every operation keeps it so; a value that was loaded may
be kept if its ticket still counts, and then nothing has been written since.

* `Coherent` — the invariant;
* `coherent_get`, `coherent_insertIfCurrent`, `coherent_beginWrite`,
  `coherent_endWrite` — the operations;
* `isCurrent_beginWrite`, `isCurrent_endWrite` — a write refuses every ticket
  on its name that was taken before.
-/

namespace TemplateRegistry.Cache

variable {α : Type} {cache : Cache α}

/-- The entries agree with a truth, and the writes in flight are the given
ones. -/
structure Coherent (cache : Cache α) (holds : String → α → Prop)
    (writing : String → Nat) :
    Prop where
  entries : ∀ entry ∈ cache.entries, holds entry.1 entry.2.value
  idle : ∀ entry ∈ cache.entries, writing entry.1 = 0
  writers : ∀ name, cache.writers.get? name =
    if writing name = 0 then none else some (writing name)

variable {holds : String → α → Prop} {writing : String → Nat}

/-- An empty cache is coherent with any store. -/
theorem coherent_empty (timeToLive : Duration) (capacity : Nat)
    (holds : String → α → Prop) :
    Coherent (.empty timeToLive capacity) holds fun _ => 0 := by
  refine ⟨?_, ?_, fun _ => rfl⟩
  · intro entry hentry
    cases hentry
  · intro entry hentry
    cases hentry

/-- Dropping entries keeps a cache coherent. -/
theorem Coherent.of_subset (h : cache.Coherent holds writing)
    {entries : Table (CacheEntry α)}
    (hsub : ∀ entry ∈ entries, entry ∈ cache.entries) :
    Coherent { cache with entries } holds writing :=
  ⟨fun entry hentry => h.entries entry (hsub entry hentry),
    fun entry hentry => h.idle entry (hsub entry hentry), h.writers⟩

/-- The truth may change where a write is in flight. -/
theorem Coherent.of_write (h : cache.Coherent holds writing)
    {after : String → α → Prop}
    (hother : ∀ name value, writing name = 0 → holds name value →
      after name value) :
    cache.Coherent after writing :=
  ⟨fun entry hentry => hother _ _ (h.idle entry hentry)
    (h.entries entry hentry), h.idle,
    h.writers⟩

/-! ### Looking up and keeping values -/

/-- A value that is found is one that was kept; otherwise entries may be
dropped. -/
theorem get_cases (now : Nat) (name : String) (cache : Cache α) :
    (∃ entry, (name, entry) ∈ cache.entries ∧
      cache.get now name = (some entry.value, cache)) ∨
    (∃ entries, (∀ entry ∈ entries, entry ∈ cache.entries) ∧
      cache.get now name = (none, { cache with entries })) := by
  unfold get
  cases hget : cache.entries.get? name with
  | none => exact Or.inr ⟨cache.entries, fun _ hentry => hentry, rfl⟩
  | some entry =>
      by_cases hfresh : now < entry.expiresAt
      · exact Or.inl ⟨entry, Table.mem_of_get? hget, by simp [hfresh]⟩
      · refine Or.inr ⟨cache.entries.erase name,
          fun _ hentry => (Table.mem_erase.mp hentry).1, ?_⟩
        simp [hfresh]

/-- Looking up a name finds only what is true. -/
theorem coherent_get (h : cache.Coherent holds writing) (now : Nat)
    (name : String) :
    (cache.get now name).2.Coherent holds writing ∧
      ∀ value, (cache.get now name).1 = some value → holds name value := by
  rcases get_cases now name cache with ⟨entry, hmem, heq⟩ | ⟨entries, hsub, heq⟩
  · rw [heq]
    refine ⟨h, fun value hvalue => ?_⟩
    obtain rfl := Option.some.inj hvalue
    exact h.entries _ hmem
  · rw [heq]
    exact ⟨h.of_subset hsub, fun value hvalue => by cases hvalue⟩

/-- Looking up a name changes nothing about tickets. -/
theorem tickets_get (now : Nat) (name : String) (cache : Cache α) :
    (cache.get now name).2.clock = cache.clock ∧
      ∀ other ticket, (cache.get now name).2.isCurrent other ticket =
        cache.isCurrent other ticket := by
  rcases get_cases now name cache with ⟨entry, -, heq⟩ | ⟨entries, -, heq⟩
  · rw [heq]
    exact ⟨rfl, fun _ _ => rfl⟩
  · rw [heq]
    exact ⟨rfl, fun _ _ => rfl⟩

/-- Making room only drops entries. -/
theorem mem_makeRoom {now capacity : Nat} {entries : Table (CacheEntry α)}
    {entry : String × CacheEntry α}
    (h : entry ∈ makeRoom now capacity entries) :
    entry ∈ entries := by
  unfold makeRoom at h
  split at h
  · exact h
  · dsimp only at h
    split at h
    · exact (List.mem_filter.mp h).1
    · split at h
      · exact (List.mem_filter.mp (Table.mem_erase.mp h).1).1
      · exact (List.mem_filter.mp h).1

/-- A value that is kept is the only entry that may be new. -/
theorem insert_cases (now : Nat) (name : String) (value : α) (cache : Cache α) :
    ∃ entries, cache.insert now name value = { cache with entries } ∧
      ∀ entry ∈ entries, entry ∈ cache.entries ∨
        entry.1 = name ∧ entry.2.value = value := by
  unfold insert
  by_cases henabled : cache.isEnabled
  · rw [if_pos henabled]
    refine ⟨_, rfl, fun entry hentry => ?_⟩
    rcases Table.mem_insert hentry with rfl | hold
    · exact Or.inr ⟨rfl, rfl⟩
    · left
      split at hold
      · exact hold
      · exact mem_makeRoom hold
  · rw [if_neg henabled]
    exact ⟨cache.entries, rfl, fun _ hentry => Or.inl hentry⟩

/-- No ticket counts on a name while a write on it is in flight. -/
theorem Coherent.idle_of_isCurrent (h : cache.Coherent holds writing)
    {name : String} {ticket : Nat}
    (hcurrent : cache.isCurrent name ticket = true) : writing name = 0 := by
  have hwriters := h.writers name
  by_cases hzero : writing name = 0
  · exact hzero
  · rw [if_neg hzero] at hwriters
    simp [isCurrent, Table.contains, hwriters] at hcurrent

/-- A value is kept only while it is true. -/
theorem coherent_insertIfCurrent (h : cache.Coherent holds writing) (now : Nat)
    {name : String} {value : α} {ticket : Nat}
    (htrue : cache.isCurrent name ticket = true → holds name value) :
    (cache.insertIfCurrent now name value ticket).2.Coherent holds writing := by
  unfold insertIfCurrent
  by_cases hcurrent : cache.isCurrent name ticket = true
  · rw [if_pos hcurrent]
    obtain ⟨entries, heq, hentries⟩ := insert_cases now name value cache
    show (cache.insert now name value).Coherent holds writing
    rw [heq]
    refine ⟨fun entry hentry => ?_, fun entry hentry => ?_, h.writers⟩
    · rcases hentries entry hentry with hold | ⟨hname, hvalue⟩
      · exact h.entries entry hold
      · rw [hname, hvalue]
        exact htrue hcurrent
    · rcases hentries entry hentry with hold | ⟨hname, -⟩
      · exact h.idle entry hold
      · rw [hname]
        exact h.idle_of_isCurrent hcurrent
  · rw [if_neg hcurrent]
    exact h

/-- Keeping a value changes nothing about tickets. -/
theorem tickets_insertIfCurrent (now : Nat) (name : String) (value : α)
    (taken : Nat) (cache : Cache α) :
    (cache.insertIfCurrent now name value taken).2.clock = cache.clock ∧
      ∀ other ticket,
        (cache.insertIfCurrent now name value taken).2.isCurrent other ticket =
        cache.isCurrent other ticket := by
  unfold insertIfCurrent
  split
  · obtain ⟨entries, heq, -⟩ := insert_cases now name value cache
    show (cache.insert now name value).clock = _ ∧
      ∀ other ticket, (cache.insert now name value).isCurrent other ticket = _
    rw [heq]
    exact ⟨rfl, fun _ _ => rfl⟩
  · exact ⟨rfl, fun _ _ => rfl⟩

/-! ### Writes -/

/-- Invalidating a name drops its entry. -/
theorem entries_invalidate (name : String) (cache : Cache α) :
    (cache.invalidate name).2.entries = cache.entries.erase name := rfl

theorem writers_invalidate (name : String) (cache : Cache α) :
    (cache.invalidate name).2.writers = cache.writers := by
  unfold invalidate
  dsimp only
  split <;> rfl

/-- Invalidating a name takes a stamp. -/
theorem clock_invalidate (name : String) (cache : Cache α) :
    (cache.invalidate name).2.clock = cache.clock + 1 := by
  unfold invalidate
  dsimp only
  split <;> rfl

/-- **Refused tickets.**  A ticket that counts after a name was invalidated is
on another name, or was taken since. -/
theorem isCurrent_invalidate (cache : Cache α) {name other : String}
    {ticket : Nat} (hticket : ticket ≤ cache.clock)
    (hcurrent : (cache.invalidate other).2.isCurrent name ticket = true) :
    name ≠ other ∧ cache.isCurrent name ticket = true := by
  unfold invalidate isCurrent at hcurrent
  dsimp only at hcurrent
  split at hcurrent
  · -- all stamps were given up, and the mark that stands for them is beyond the
    -- ticket
    simp only [Bool.and_eq_true, decide_eq_true_eq] at hcurrent
    omega
  · by_cases hname : name = other
    · subst hname
      simp only [Table.get?_insert_self, Bool.and_eq_true, decide_eq_true_eq]
        at hcurrent
      omega
    · simp only [Table.get?_insert_ne _ _ hname] at hcurrent
      exact ⟨hname, hcurrent⟩

/-- An invalidated name has no entries; only that much changes. -/
theorem Coherent.invalidate (h : cache.Coherent holds writing) {name : String}
    {writers : Table Nat} {after : String → Nat}
    (hafter : ∀ n, n ≠ name → after n = writing n)
    (hwriters : ∀ n,
      writers.get? n = if after n = 0 then none else some (after n)) :
    ({ cache with writers }.invalidate name).2.Coherent holds after := by
  refine ⟨fun entry hentry => ?_, fun entry hentry => ?_, fun n => ?_⟩
  · rw [entries_invalidate] at hentry
    exact h.entries entry (Table.mem_erase.mp hentry).1
  · rw [entries_invalidate] at hentry
    obtain ⟨hold, hne⟩ := Table.mem_erase.mp hentry
    rw [hafter entry.1 hne]
    exact h.idle entry hold
  · rw [writers_invalidate]
    exact hwriters n

/-- A write starts. -/
theorem coherent_beginWrite (h : cache.Coherent holds writing) (name : String) :
    (cache.beginWrite name).Coherent holds fun n =>
      if n = name then writing n + 1 else writing n := by
  apply h.invalidate
  · intro n hn
    simp [hn]
  · intro n
    by_cases hn : n = name
    · subst hn
      rw [Table.get?_insert_self, h.writers]
      by_cases hzero : writing n = 0
      · simp [hzero]
      · simp [hzero]
    · rw [Table.get?_insert_ne _ _ hn, h.writers]
      simp [hn]

/-- A write ends. -/
theorem coherent_endWrite (h : cache.Coherent holds writing) {name : String}
    (hwriting : writing name ≠ 0) :
    (cache.endWrite name).Coherent holds fun n =>
      if n = name then writing n - 1 else writing n := by
  apply h.invalidate
  · intro n hn
    simp [hn]
  · intro n
    have hcount := h.writers name
    rw [if_neg hwriting] at hcount
    unfold withoutWriter
    rw [hcount]
    dsimp only
    by_cases hn : n = name
    · subst hn
      by_cases hlast : writing n - 1 = 0
      · simp [hlast, Table.get?_erase_self]
      · simp [hlast, Table.get?_insert_self]
    · rw [if_neg hn, ← h.writers]
      split
      · exact Table.get?_erase_ne _ hn
      · exact Table.get?_insert_ne _ _ hn

theorem clock_beginWrite (name : String) (cache : Cache α) :
    (cache.beginWrite name).clock = cache.clock + 1 :=
  clock_invalidate name _

theorem clock_endWrite (name : String) (cache : Cache α) :
    (cache.endWrite name).clock = cache.clock + 1 :=
  clock_invalidate name _

/-- Whether a ticket counts on a name depends on the writers of that name. -/
theorem isCurrent_congr {writers : Table Nat} {name : String}
    (h : writers.get? name = cache.writers.get? name) (ticket : Nat) :
    { cache with writers }.isCurrent name ticket =
      cache.isCurrent name ticket := by
  simp [isCurrent, Table.contains, h]

/-- A writer less of one name is none less of another. -/
theorem get?_withoutWriter_of_ne {name other : String} (hne : name ≠ other)
    (writers : Table Nat) :
    (withoutWriter other writers).get? name = writers.get? name := by
  unfold withoutWriter
  split
  · rfl
  · split
    · exact Table.get?_erase_ne _ hne
    · exact Table.get?_insert_ne _ _ hne

/-- A write that starts refuses the tickets taken before on its name. -/
theorem isCurrent_beginWrite {name other : String} {ticket : Nat}
    (hticket : ticket ≤ cache.clock)
    (hcurrent : (cache.beginWrite other).isCurrent name ticket = true) :
    name ≠ other ∧ cache.isCurrent name ticket = true := by
  obtain ⟨hne, hbefore⟩ := isCurrent_invalidate
    { cache with
      writers :=
        cache.writers.insert other ((cache.writers.get? other).getD 0 + 1) }
    hticket hcurrent
  refine ⟨hne, ?_⟩
  rwa [isCurrent_congr (Table.get?_insert_ne _ _ hne)] at hbefore

/-- A write that ends refuses the tickets taken before on its name. -/
theorem isCurrent_endWrite {name other : String} {ticket : Nat}
    (hticket : ticket ≤ cache.clock)
    (hcurrent : (cache.endWrite other).isCurrent name ticket = true) :
    name ≠ other ∧ cache.isCurrent name ticket = true := by
  obtain ⟨hne, hbefore⟩ := isCurrent_invalidate { cache with
    writers := withoutWriter other cache.writers } hticket hcurrent
  refine ⟨hne, ?_⟩
  rwa [isCurrent_congr (get?_withoutWriter_of_ne hne _)] at hbefore

end TemplateRegistry.Cache
