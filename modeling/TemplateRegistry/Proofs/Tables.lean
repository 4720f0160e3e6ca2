import TemplateRegistry.Table
/-!
# Looking into tables

What storing, removing and building from a list do to the entries of a table and
to the value under a key, and the order that ascending lists of names are in.  A
table whose keys ascend has one entry for each of its keys.
-/

namespace TemplateRegistry.Table

variable {α : Type}

/-- Looking up a key as in a list of pairs. -/
theorem lookup_eq_get? (key : String) (table : Table α) :
    table.lookup key = get? key table := by
  induction table with
  | nil => rfl
  | cons entry rest ih =>
      obtain ⟨k, v⟩ := entry
      by_cases hk : k = key
      · simp [get?, hk]
      · have hbeq : (key == k) = false := by simpa using Ne.symm hk
        simp [List.lookup_cons, get?, hk, hbeq, ih]

/-- What is found is in the table. -/
theorem mem_of_get? {key : String} {value : α} {table : Table α}
    (h : get? key table = some value) : (key, value) ∈ table := by
  rw [← lookup_eq_get?] at h
  obtain ⟨before, after, rfl, -⟩ := List.lookup_eq_some_iff.mp h
  simp

/-- A key without an entry has no value. -/
theorem get?_eq_none_of_not_mem {key : String} {table : Table α}
    (h : ∀ value, (key, value) ∉ table) : get? key table = none := by
  cases hget : get? key table with
  | none => rfl
  | some value => exact (h value (mem_of_get? hget)).elim

/-- An entry after storing is the new one or was there. -/
theorem mem_insert {key : String} {value : α} {entry : String × α}
    {table : Table α} (h : entry ∈ insert key value table) :
    entry = (key, value) ∨ entry ∈ table := by
  induction table with
  | nil => simpa [insert] using h
  | cons first rest ih =>
      obtain ⟨k, v⟩ := first
      unfold insert at h
      split at h
      · rcases List.mem_cons.mp h with rfl | hrest
        · exact Or.inl rfl
        · exact Or.inr (List.mem_cons_of_mem _ hrest)
      · split at h
        · rcases List.mem_cons.mp h with rfl | hold
          · exact Or.inl rfl
          · exact Or.inr hold
        · rcases List.mem_cons.mp h with rfl | hrest
          · exact Or.inr List.mem_cons_self
          · exact (ih hrest).imp_right (List.mem_cons_of_mem _)

/-- An entry is added only where there is none. -/
theorem get?_insertNew (key other : String) (value : α) (table : Table α) :
    get? other (insertNew key value table) =
      (get? other table).or (if key = other then some value else none) := by
  unfold insertNew contains
  by_cases hkey : key = other
  · subst hkey
    cases hget : get? key table with
    | none => simp [get?_insert_self]
    | some old => simp [hget]
  · rw [if_neg hkey, Option.or_none]
    split
    · rfl
    · exact get?_insert_ne value table (Ne.symm hkey)

/-- Only the entries of the key are erased. -/
theorem mem_erase {key : String} {entry : String × α} {table : Table α} :
    entry ∈ erase key table ↔ entry ∈ table ∧ entry.1 ≠ key := by
  simp [erase]

/-- An erased key has no value. -/
theorem get?_erase_self (key : String) (table : Table α) :
    get? key (erase key table) = none :=
  get?_eq_none_of_not_mem fun _ hmem => (mem_erase.mp hmem).2 rfl

/-- Any other key keeps its value. -/
theorem get?_erase_ne {key other : String} (table : Table α) (h : other ≠ key) :
    get? other (erase key table) = get? other table := by
  induction table with
  | nil => rfl
  | cons entry rest ih =>
      obtain ⟨k, v⟩ := entry
      by_cases hk : k = key
      · subst hk
        have herase : erase k ((k, v) :: rest) = erase k rest := by simp [erase]
        rw [herase, ih]
        simp [get?, Ne.symm h]
      · have herase :
            erase key ((k, v) :: rest) = (k, v) :: erase key rest := by
          simp [erase, hk]
        rw [herase]
        by_cases hother : k = other
        · simp [get?, hother]
        · simp [get?, hother, ih]

/-- Storing under a key behind all others. -/
theorem insert_of_gt {key : String} (value : α) {table : Table α}
    (h : ∀ entry ∈ table, entry.1 < key) :
    insert key value table = table ++ [(key, value)] := by
  induction table with
  | nil => rfl
  | cons first rest ih =>
      obtain ⟨k, v⟩ := first
      have hlt : k < key := h (k, v) List.mem_cons_self
      have hne : key ≠ k := fun heq => String.lt_irrefl k (heq ▸ hlt)
      have hnot : ¬ key < k :=
        fun hgt => String.lt_irrefl k (String.lt_trans hlt hgt)
      rw [insert, if_neg hne, if_neg hnot,
        ih fun entry hentry => h entry (List.mem_cons_of_mem _ hentry)]
      rfl

/-- Entries are put into a table from the first to the last. -/
theorem ofList_append_singleton (entries : List (String × α)) (key : String)
    (value : α) :
    ofList (entries ++ [(key, value)]) = insert key value (ofList entries) := by
  simp [ofList, List.foldl_append]

/-- An entry of the table of a list is one of the list. -/
theorem mem_of_mem_ofList {entry : String × α} {entries : List (String × α)}
    (h : entry ∈ ofList entries) : entry ∈ entries := by
  rw [← List.reverse_reverse entries] at h ⊢
  revert h
  induction entries.reverse with
  | nil => exact id
  | cons first rest ih =>
      intro h
      rw [List.reverse_cons] at h ⊢
      rw [ofList_append_singleton] at h
      rcases mem_insert h with rfl | hrest
      · exact List.mem_append_right _ List.mem_cons_self
      · exact List.mem_append_left _ (ih hrest)

/-- A value more is one entry more at most. -/
theorem length_insert_le (key : String) (value : α) (table : Table α) :
    (insert key value table).length ≤ table.length + 1 := by
  induction table with
  | nil => simp [insert]
  | cons first rest ih =>
      obtain ⟨k, v⟩ := first
      rw [insert]
      split
      · simp
      · split
        · simp
        · simpa using ih

/-- The table of a list has no more entries than the list. -/
theorem length_ofList_le (entries : List (String × α)) :
    (ofList entries).length ≤ entries.length := by
  rw [← List.reverse_reverse entries]
  induction entries.reverse with
  | nil => exact Nat.le_refl 0
  | cons entry rest ih =>
      rw [List.reverse_cons, ofList_append_singleton, List.length_append]
      exact Nat.le_trans (length_insert_le _ _ _) (Nat.succ_le_succ ih)

/-- The table of a list has the last value of each key. -/
theorem get?_ofList (key : String) (entries : List (String × α)) :
    get? key (ofList entries) =
      ((entries.filter fun entry => entry.1 = key).getLast?).map Prod.snd := by
  rw [← List.reverse_reverse entries]
  induction entries.reverse with
  | nil => rfl
  | cons entry rest ih =>
      obtain ⟨k, v⟩ := entry
      rw [List.reverse_cons, ofList_append_singleton, List.filter_append]
      by_cases hk : k = key
      · subst hk
        simp [get?_insert_self]
      · rw [get?_insert_ne v _ (Ne.symm hk), ih]
        simp [hk]

end TemplateRegistry.Table

namespace TemplateRegistry.Ascending

variable {name : String} {names : List String}

theorem lt_of_ne_of_not_lt {other : String} (hne : name ≠ other)
    (hlt : ¬ name < other) :
    other < name :=
  String.not_le.mp fun hle =>
    hne (String.le_antisymm hle (String.not_lt.mp hlt))

/-- Names stay ascending. -/
theorem pairwise_insert (h : names.Pairwise (· < ·)) :
    (insert name names).Pairwise (· < ·) := by
  induction names with
  | nil => simp [insert]
  | cons first rest ih =>
      obtain ⟨hfirst, hrest⟩ := List.pairwise_cons.mp h
      by_cases heq : name = first
      · simpa [insert, heq] using h
      · by_cases hlt : name < first
        · rw [insert, if_neg heq, if_pos hlt]
          refine List.pairwise_cons.mpr ⟨fun other hother => ?_, h⟩
          rcases List.mem_cons.mp hother with rfl | hlater
          · exact hlt
          · exact String.lt_trans hlt (hfirst other hlater)
        · rw [insert, if_neg heq, if_neg hlt]
          refine List.pairwise_cons.mpr ⟨fun other hother => ?_, ih hrest⟩
          rcases mem_insert.mp hother with rfl | hlater
          · exact lt_of_ne_of_not_lt heq hlt
          · exact hfirst other hlater

/-- Sorted names are strictly ascending. -/
theorem pairwise_ofList (names : List String) :
    (ofList names).Pairwise (· < ·) := by
  induction names with
  | nil => exact List.Pairwise.nil
  | cons first rest ih => exact pairwise_insert ih

/-- A name below all others comes first. -/
theorem insert_of_lt (h : ∀ other ∈ names, name < other) :
    insert name names = name :: names := by
  cases names with
  | nil => rfl
  | cons first rest =>
      have hlt := h first List.mem_cons_self
      have hne : name ≠ first := fun heq => String.lt_irrefl first (heq ▸ hlt)
      rw [insert, if_neg hne, if_pos hlt]

/-- Names that are strictly ascending are sorted already. -/
theorem ofList_eq_self (h : names.Pairwise (· < ·)) : ofList names = names := by
  induction names with
  | nil => rfl
  | cons first rest ih =>
      obtain ⟨hfirst, hrest⟩ := List.pairwise_cons.mp h
      show insert first (ofList rest) = first :: rest
      rw [ih hrest, insert_of_lt hfirst]

/-- A name that is there already is not put in again. -/
theorem insert_of_mem (hascending : names.Pairwise (· < ·)) (h : name ∈ names) :
    insert name names = names := by
  induction names with
  | nil => cases h
  | cons first rest ih =>
      obtain ⟨hfirst, hrest⟩ := List.pairwise_cons.mp hascending
      rw [insert]
      by_cases heq : name = first
      · rw [if_pos heq]
      · have hmem : name ∈ rest := (List.mem_cons.mp h).resolve_left heq
        have hnot : ¬ name < first := fun hlt =>
          String.lt_irrefl first (String.lt_trans (hfirst name hmem) hlt)
        rw [if_neg heq, if_neg hnot, ih hrest hmem]

/-- A name more is one more at most. -/
theorem length_insert_le (name : String) (names : List String) :
    (insert name names).length ≤ names.length + 1 := by
  induction names with
  | nil => simp [insert]
  | cons first rest ih =>
      rw [insert]
      split
      · simp
      · split
        · simp
        · simpa using ih

/-- Sorting adds no names. -/
theorem length_ofList_le (names : List String) :
    (ofList names).length ≤ names.length := by
  induction names with
  | nil => simp [ofList]
  | cons first rest ih =>
      calc (insert first (ofList rest)).length
          ≤ (ofList rest).length + 1 := length_insert_le _ _
        _ ≤ rest.length + 1 := Nat.succ_le_succ ih

end TemplateRegistry.Ascending

namespace TemplateRegistry.Table

/-! ### Ascending keys -/

variable {α : Type} {key : String} {value : α} {table : Table α}

/-- The new entry is in the table. -/
theorem mem_insert_self (key : String) (value : α) (table : Table α) :
    (key, value) ∈ insert key value table :=
  mem_of_get? (get?_insert_self key value table)

theorem mem_insert_of_ne {entry : String × α} (hne : entry.1 ≠ key)
    (h : entry ∈ table) :
    entry ∈ insert key value table := by
  induction table with
  | nil => cases h
  | cons first rest ih =>
      obtain ⟨k, v⟩ := first
      rw [insert]
      by_cases hkey : key = k
      · rw [if_pos hkey]
        rcases List.mem_cons.mp h with rfl | hrest
        · exact (hne hkey.symm).elim
        · exact List.mem_cons_of_mem _ hrest
      · rw [if_neg hkey]
        split
        · exact List.mem_cons_of_mem _ h
        · rcases List.mem_cons.mp h with rfl | hrest
          · exact List.mem_cons_self
          · exact List.mem_cons_of_mem _ (ih hrest)

/-- A table contains the keys of its entries. -/
theorem mem_keys_iff_contains :
    key ∈ keys table ↔ contains key table = true := by
  rw [contains, ← lookup_eq_get?, List.lookup_isSome_iff]
  constructor
  · intro h
    obtain ⟨entry, hentry, rfl⟩ := List.mem_map.mp h
    exact ⟨entry, hentry, beq_self_eq_true entry.1⟩
  · rintro ⟨entry, hentry, hkey⟩
    exact List.mem_map.mpr ⟨entry, hentry, (eq_of_beq hkey).symm⟩

/-- Keys are stored in the order of names. -/
theorem keys_insert (key : String) (value : α) (table : Table α) :
    keys (insert key value table) = Ascending.insert key (keys table) := by
  induction table with
  | nil => rfl
  | cons entry rest ih =>
      obtain ⟨k, v⟩ := entry
      rw [insert, show keys ((k, v) :: rest) = k :: keys rest from rfl,
        Ascending.insert]
      by_cases hkey : key = k
      · rw [if_pos hkey, if_pos hkey, hkey]
        rfl
      · rw [if_neg hkey, if_neg hkey]
        split
        · rfl
        · rw [← ih]
          rfl

/-- Storing keeps a table ascending. -/
theorem pairwise_keys_insert (h : (keys table).Pairwise (· < ·)) (key : String)
    (value : α) :
    (keys (insert key value table)).Pairwise (· < ·) := by
  rw [keys_insert]
  exact Ascending.pairwise_insert h

/-- Removing entries keeps a table ascending. -/
theorem pairwise_keys_of_sublist {fewer : Table α}
    (h : (keys table).Pairwise (· < ·)) (hfewer : fewer.Sublist table) :
    (keys fewer).Pairwise (· < ·) :=
  h.sublist (hfewer.map Prod.fst)

/-- Storing under a key of an ascending table replaces its one entry. -/
theorem length_insert_of_contains (hascending : (keys table).Pairwise (· < ·))
    (h : contains key table = true) (value : α) :
    (insert key value table).length = table.length := by
  have hkeys : keys (insert key value table) = keys table := by
    rw [keys_insert,
      Ascending.insert_of_mem hascending (mem_keys_iff_contains.mpr h)]
  simpa only [keys, List.length_map] using congrArg List.length hkeys

/-- A key of an ascending table has the value of its one entry. -/
theorem get?_of_mem (hascending : (keys table).Pairwise (· < ·))
    (h : (key, value) ∈ table) :
    get? key table = some value := by
  induction table with
  | nil => cases h
  | cons entry rest ih =>
      obtain ⟨k, v⟩ := entry
      obtain ⟨hfirst, hrest⟩ := List.pairwise_cons.mp hascending
      rcases List.mem_cons.mp h with heq | hmem
      · cases heq
        simp [get?]
      · have hlt : k < key := hfirst key (List.mem_map_of_mem hmem)
        have hne : k ≠ key := by
          rintro rfl
          exact String.lt_irrefl k hlt
        rw [get?, if_neg hne, ih hrest hmem]

/-- An entry of an ascending table after storing is the new one, or was there
under another key. -/
theorem eq_or_ne_of_mem_insert (hascending : (keys table).Pairwise (· < ·))
    {entry : String × α} (h : entry ∈ insert key value table) :
    entry = (key, value) ∨ entry ∈ table ∧ entry.1 ≠ key := by
  obtain ⟨other, stored⟩ := entry
  by_cases hkey : other = key
  · subst hkey
    have hget := get?_of_mem (pairwise_keys_insert hascending other value) h
    rw [get?_insert_self] at hget
    exact Or.inl (by rw [Option.some.inj hget])
  · refine Or.inr ⟨(mem_insert h).resolve_left ?_, hkey⟩
    rintro ⟨⟩
    exact hkey rfl

/-- Storing under a new key adds an entry. -/
theorem perm_insert (h : key ∉ keys table) (value : α) :
    (insert key value table).Perm ((key, value) :: table) := by
  induction table with
  | nil => exact List.Perm.refl _
  | cons entry rest ih =>
      obtain ⟨k, v⟩ := entry
      obtain ⟨hne, hrest⟩ : key ≠ k ∧ key ∉ keys rest := by
        rwa [keys, List.map_cons, List.mem_cons, not_or] at h
      rw [insert, if_neg hne]
      split
      · exact List.Perm.refl _
      · exact ((ih hrest).cons (k, v)).trans (List.Perm.swap _ _ _)

/-- Removing a key that is not there changes nothing. -/
theorem erase_eq_self (h : key ∉ keys table) : erase key table = table := by
  refine List.filter_eq_self.mpr fun entry hentry => ?_
  have hne : entry.1 ≠ key := by
    intro heq
    exact h (heq ▸ List.mem_map_of_mem hentry)
  simpa using hne

/-- Removing the key of an entry leaves fewer entries. -/
theorem length_erase_lt {entry : String × α} (h : entry ∈ table) :
    (erase entry.1 table).length < table.length :=
  List.length_filter_lt_length_iff_exists.mpr ⟨entry, h, by simp⟩

end TemplateRegistry.Table
