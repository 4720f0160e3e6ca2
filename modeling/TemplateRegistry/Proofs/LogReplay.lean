import TemplateRegistry.Proofs.VersionChronicles
/-!
# The version log is a faithful history

Managers that use a store one after another keep a log of every template that
tells what became of it, and the versions themselves lead back, each to one
before it, to the first.

* `Linked`, `Descends` — versions that lead back to the first;
* `Ascending`, `Counted` — the order of ids;
* `faithful_change`, `faithful_of_managed` — what one call keeps, and what holds
  of every state;
* `version_log_faithful` — all of this for the log of a name, with the numbers
  in its metadata.
-/

namespace TemplateRegistry

namespace Memory

variable {s after : Memory}

/-! ### Where versions lead back to -/

/-- A version is the first of its name, or was made after an earlier one. -/
def Linked (s : Memory) (t : TemplateVersion) : Prop :=
  t.version = 1 ∧ t.previousId = none ∨
    ∃ u ∈ s.family t.name, t.previousId = some u.id ∧ u.version < t.version

/-- The version before, the one before that, and so on, are versions of the same
name with ever smaller numbers, down to the first. -/
inductive Descends (s : Memory) : TemplateVersion → Prop
  | first {t : TemplateVersion} (hversion : t.version = 1)
      (hprevious : t.previousId = none) :
      Descends s t
  | before {t u : TemplateVersion} (hu : u ∈ s.family t.name)
      (hprevious : t.previousId = some u.id)
      (hless : u.version < t.version) (hrest : Descends s u) : Descends s t

/-- A version whose name keeps its versions keeps the one before it. -/
theorem Linked.of_kept {t : TemplateVersion} (h : s.Linked t)
    (hkept : ∀ u ∈ s.family t.name, u ∈ after.family t.name) :
    after.Linked t := by
  rcases h with hfirst | ⟨u, hu, hprevious, hless⟩
  · exact Or.inl hfirst
  · exact Or.inr ⟨u, hkept u hu, hprevious, hless⟩

/-- A version stays in its family when another version is inserted. -/
theorem mem_family_inserted {u : TemplateVersion} {name : String}
    (hu : u ∈ s.family name) (added : TemplateVersion) (now : Timestamp)
    (entry : NewLogEntry) :
    u ∈ ((s.addVersion added).appendLog now entry).family name := by
  obtain ⟨hmem, heq⟩ := mem_family.mp hu
  exact mem_family.mpr ⟨List.mem_append_left _ hmem, heq⟩

/-- **One call.**  Every version was made after an earlier one of its name, or
is the first. -/
theorem linked_change (h : s.Consistent)
    (hlinked : ∀ t ∈ s.templates, s.Linked t) (hchange : s.Change after) :
    ∀ t ∈ after.templates, after.Linked t := by
  cases hchange with
  | nothing => exact hlinked
  | @started now new entry hfirst hfree hversion hactive hprevious hname hentry
      haction =>
      intro t ht
      rcases List.mem_append.mp ht with hold | hnew
      · exact (hlinked t hold).of_kept fun u hu =>
          mem_family_inserted hu _ now entry
      · obtain rfl := List.mem_singleton.mp hnew
        exact Or.inl ⟨hversion, hprevious⟩
  | @added now new entry u hversion hinactive hu hprevious hname hentry
      haction =>
      intro t ht
      rcases List.mem_append.mp ht with hold | hnew
      · exact (hlinked t hold).of_kept fun u hu =>
          mem_family_inserted hu _ now entry
      · obtain rfl := List.mem_singleton.mp hnew
        refine Or.inr ⟨u, mem_family_inserted hu _ now entry, hprevious, ?_⟩
        have hlast := (h.version_bounds hu).2
        rw [← h.maxVersion_family] at hlast
        show u.version < new.version
        omega
  | @swapped now target htarget hinactive author notes =>
      intro t ht
      rw [templates_swapped] at ht
      obtain ⟨old, hold, rfl⟩ := List.mem_map.mp ht
      rcases hlinked old hold with hfirst | ⟨u, hu, hprevious, hless⟩
      · exact Or.inl (by simpa using hfirst)
      · refine Or.inr ⟨swappedRow now target (s.otherActive? target) u,
          ?_, ?_, ?_⟩
        · rw [swappedRow_name, family_swapped]
          exact List.mem_map_of_mem hu
        · simpa using hprevious
        · simpa using hless
  | deleted gone =>
      intro t ht
      rw [templates_withoutFamily h] at ht
      obtain ⟨hold, hname⟩ := List.mem_filter.mp ht
      refine (hlinked t hold).of_kept fun u hu => ?_
      rw [family_withoutFamily h, if_neg (by simpa using hname)]
      exact hu

/-- Every version leads back to the first of its name. -/
theorem descends_of_linked (h : s.Consistent)
    (hlinked : ∀ t ∈ s.templates, s.Linked t) {t : TemplateVersion}
    (ht : t ∈ s.templates) : s.Descends t := by
  generalize hn : t.version.toNat = n
  induction n using Nat.strongRecOn generalizing t with
  | ind n ih =>
      rcases hlinked t ht with ⟨hversion, hprevious⟩ | ⟨u, hu, hprevious, hless⟩
      · exact .first hversion hprevious
      · -- versions are numbered from 1, so there is no going down for ever
        have hpositive := (h.version_bounds hu).1
        exact .before hu hprevious hless
          (ih _ (by omega) (mem_family.mp hu).1 rfl)

/-! ### Ids -/

/-- The log is in the order of its ids, none of which the counter has yet to
give. -/
structure Ascending (s : Memory) : Prop where
  ordered : (s.log.map LogEntry.id).Pairwise (· < ·)
  given : ∀ e ∈ s.log, e.id ≤ s.lastId

/-- The log stays ascending. -/
theorem Ascending.appendLog (h : s.Ascending) (now : Timestamp)
    (entry : NewLogEntry) :
    (s.appendLog now entry).Ascending := by
  refine ⟨?_, fun e he => ?_⟩
  · show ((s.log ++ [entry.withId (s.lastId + 1) now]).map LogEntry.id).Pairwise
      (· < ·)
    rw [List.map_append, List.pairwise_append]
    refine ⟨h.ordered, List.pairwise_singleton _ _, fun id hid last hlast => ?_⟩
    obtain ⟨e, he, rfl⟩ := List.mem_map.mp hid
    obtain rfl := List.mem_singleton.mp hlast
    exact Int.lt_add_one_of_le (h.given e he)
  · show e.id ≤ s.lastId + 1
    rcases List.mem_append.mp he with hold | hnew
    · exact Int.le_add_one (h.given e hold)
    · obtain rfl := List.mem_singleton.mp hnew
      exact Int.le_refl _

/-- Versions stay ascending. -/
theorem Ascending.addVersion (h : s.Ascending) {t : TemplateVersion}
    (hid : s.lastId < t.id) :
    (s.addVersion t).Ascending :=
  ⟨h.ordered, fun e he => Int.le_trans (h.given e he) (Int.le_of_lt hid)⟩

/-- Every change keeps the order. -/
theorem ascending_change (h : s.Ascending) (hchange : s.Change after) :
    after.Ascending := by
  cases hchange with
  | nothing => exact h
  | started now => exact (h.addVersion (Int.lt_succ _)).appendLog now _
  | added now => exact (h.addVersion (Int.lt_succ _)).appendLog now _
  | @swapped now target htarget hinactive author notes =>
      have haside :
          (s.stepAside now target author notes
            (s.otherActive? target)).Ascending := by
        cases s.otherActive? target with
        | none => exact h
        | some old =>
            have hinactivated : (s.setActive now old.id false).Ascending :=
              ⟨h.ordered, h.given⟩
            exact hinactivated.appendLog now _
      have hactivated : ((s.stepAside now target author notes
          (s.otherActive? target)).setActive now target.id true).Ascending :=
        ⟨haside.ordered, haside.given⟩
      exact hactivated.appendLog now _
  | deleted gone =>
      have hsub : (s.withoutFamily gone).log.Sublist s.log :=
        List.filter_sublist
      exact ⟨(h.ordered.sublist (hsub.map _)), fun e he =>
        h.given e (hsub.subset he)⟩

/-- No version has a number beyond its id. -/
def Counted (s : Memory) : Prop :=
  0 ≤ s.lastId ∧ ∀ t ∈ s.templates, t.version ≤ t.id

/-- The highest version of a name is below the next id. -/
theorem Counted.maxVersion_le (h : s.Counted) (hs : s.Consistent)
    (name : String) :
    s.maxVersion name ≤ s.lastId := by
  rw [hs.maxVersion_family]
  by_cases hzero : (s.family name).length = 0
  · rw [hzero]
    exact h.1
  · have hmem :
        ((s.family name).length : Int) ∈
          (s.family name).map TemplateVersion.version := by
      rw [hs.versions_family]
      exact mem_firstVersions.mpr ⟨by omega, Int.le_refl _⟩
    obtain ⟨t, ht, hversion⟩ := List.mem_map.mp hmem
    have hbelow := h.2 t (mem_family.mp ht).1
    have hgiven := hs.id_le (template_mem_records.mpr (mem_family.mp ht).1)
    simp only [StoredRecord.id] at hgiven
    omega

/-- Every change keeps the count. -/
theorem counted_change (h : s.Counted) (hs : s.Consistent)
    (hchange : s.Change after) :
    after.Counted := by
  obtain ⟨now, call, heffect⟩ := hchange.effect
  refine ⟨Int.le_trans h.1 (keeps_effect heffect).counter, ?_⟩
  cases heffect with
  | inserted new entry hnext hfree =>
      intro t ht
      rcases List.mem_append.mp ht with hold | hnew
      · exact h.2 t hold
      · obtain rfl := List.mem_singleton.mp hnew
        have hbelow := h.maxVersion_le hs new.name
        show new.version ≤ s.lastId + 1
        omega
  | @swapped target htarget author notes =>
      intro t ht
      rw [templates_swapped] at ht
      obtain ⟨old, hold, rfl⟩ := List.mem_map.mp ht
      simpa using h.2 old hold
  | familyDeleted gone => exact fun t ht => h.2 t (List.mem_filter.mp ht).1
  | @put new prepared hprepared hcheck =>
      show ∀ t ∈ (s.retired now prepared.name).templates, _
      rw [templates_retired]
      exact h.2
  | retired gone =>
      rw [templates_retired]
      exact h.2
  | _ => exact h.2

/-! ### Every state -/

/-- The log of every name is a faithful history of its versions. -/
structure Faithful (s : Memory) : Prop where
  consistent : s.Consistent
  ascending : s.Ascending
  counted : s.Counted
  chronicles : ∀ name, s.Chronicle name
  linked : ∀ t ∈ s.templates, s.Linked t

/-- An empty log is faithful to an empty store. -/
theorem faithful_empty : Memory.empty.Faithful where
  consistent := consistent_empty
  ascending := ⟨List.Pairwise.nil, by simp [Memory.empty]⟩
  counted := ⟨Int.le_refl 0, by simp [Memory.empty]⟩
  chronicles _ := ⟨rfl, fun _ => rfl, .nil⟩
  linked := by simp [Memory.empty]

/-- **One call** keeps the history faithful. -/
theorem faithful_change (h : s.Faithful) (hchange : s.Change after) :
    after.Faithful := by
  obtain ⟨now, call, heffect⟩ := hchange.effect
  exact ⟨consistent_effect h.consistent heffect,
    ascending_change h.ascending hchange,
    counted_change h.counted h.consistent hchange,
    chronicle_change h.consistent h.chronicles hchange,
    linked_change h.consistent h.linked hchange⟩

end Memory

namespace Lifecycle

/-- **Every state.**  However managers have used the store, one after another,
the history is faithful. -/
theorem faithful_of_managed {s : Memory} (h : Managed s) : s.Faithful :=
  h.invariant Memory.faithful_empty fun _ _ => Memory.faithful_change

/-- **The version log is a faithful history.**  Whatever managers have done to a
store, one call after another, failed ones included: the log of every name,
replayed in the order of its ids, is legal at every entry and ends with the
number of versions that are stored and with the active one, and it is empty if
there are none; every deactivation is followed by the activation of the version
that took over, each with the id and the number of the other one in its
metadata; and from every version the previous ones lead back, among the versions
of its name and to ever smaller numbers, to the first. -/
theorem version_log_faithful {s : Memory} (h : Managed s)
    (hids : s.lastId < 9007199254740992) (name : String) :
    ((s.logOf name).map LogEntry.id).Pairwise (· < ·) ∧
    Account.replay (s.logOf name) =
      some ⟨(s.family name).length,
        (s.active? name).map TemplateVersion.version⟩ ∧
    (s.family name = [] → s.logOf name = []) ∧
    (∀ before d after, s.logOf name = before ++ d :: after →
      d.action? = some .deactivated →
      ∃ a rest, after = a :: rest ∧ a.action? = some .activated ∧
        ∃ old ∈ s.family name, ∃ new ∈ s.family name,
          d.version = old.version ∧ a.version = new.version ∧
          d.number? "replaced_by_id" = some new.id ∧
          d.number? "replaced_by_version" = some new.version ∧
          a.number? "replaces_id" = some old.id ∧
          a.number? "replaces_version" = some old.version) ∧
    ∀ t ∈ s.family name, s.Descends t := by
  have hfaithful := faithful_of_managed h
  obtain ⟨hreplayed, hbegun, hpaired⟩ := hfaithful.chronicles name
  refine ⟨?_, hreplayed, hbegun, fun before d after hlog hd => ?_, fun t ht =>
    Memory.descends_of_linked hfaithful.consistent hfaithful.linked
      (Memory.mem_family.mp ht).1⟩
  · exact hfaithful.ascending.ordered.sublist (List.filter_sublist.map _)
  · have hsmall : ∀ t ∈ s.family name,
        t.id.natAbs < 9007199254740992 ∧
        t.version.natAbs < 9007199254740992 := by
      intro t ht
      have hmem := (Memory.mem_family.mp ht).1
      have hgiven :=
        hfaithful.consistent.id_le (Memory.template_mem_records.mpr hmem)
      have hbelow := hfaithful.counted.2 t hmem
      have hpositive := (hfaithful.consistent.version_bounds ht).1
      simp only [StoredRecord.id] at hgiven
      omega
    obtain ⟨a, rest, rfl, old, hold, new, hnew, hhandover⟩ :=
      hpaired.next hlog hd
    obtain ⟨u, hu, rfl⟩ := List.mem_map.mp hold
    obtain ⟨v, hv, rfl⟩ := List.mem_map.mp hnew
    exact ⟨a, rest, rfl, hhandover.activated, u, hu, v, hv, hhandover.left,
      hhandover.taken, hhandover.numbers (hsmall u hu) (hsmall v hv)⟩

/-- The store after some calls of managers, one after another. -/
def afterCalls (calls : List ManagerCall) : Memory :=
  calls.foldl (fun s call =>
    ((call.service .default).run.run (Memory.reply ⟨0, 0⟩) s).2) .empty

/-- Calls lead to managed states. -/
theorem managed_afterCalls (calls : List ManagerCall) :
    Managed (afterCalls calls) := by
  have hfold : ∀ s, Managed s → Managed (calls.foldl
      (fun s call =>
        ((call.service .default).run.run (Memory.reply ⟨0, 0⟩) s).2) s) := by
    induction calls with
    | nil => exact fun s h => h
    | cons call rest ih =>
        intro s h
        exact ih _ (h.write .default call
          (Program.runs_run (fun _ _ => Memory.Ends.carriedOut ⟨0, 0⟩) _ s))
  exact hfold _ .empty

/-- A greeting that is created and deleted, created again and changed,
activated, left as it is, and rolled back. -/
def greetingCalls : List ManagerCall :=
  [.createTemplate ⟨"greeting", ⟨"Hello", defaultCategory, [], []⟩, "ann"⟩,
    .deleteFamily 1,
    .createTemplate ⟨"greeting", ⟨"Hi", defaultCategory, [], []⟩, "bob"⟩,
    .createTemplate ⟨"greeting", ⟨"Hey", defaultCategory, [], []⟩, "eve"⟩,
    .newVersion 3 ⟨"Good day", defaultCategory, [], []⟩ "bob" none,
    .activate 5 "bob" none, .activate 5 "bob" none, .rollback 5 1 "ann"]

/-- The log of the greeting accounts for three versions, the second of them
active. -/
theorem version_log_faithful_greeting :
    Managed (afterCalls greetingCalls) ∧
    (afterCalls greetingCalls).lastId < 9007199254740992 ∧
    Account.replay ((afterCalls greetingCalls).logOf "greeting") =
      some ⟨3, some 2⟩ ∧
    ∀ t ∈ (afterCalls greetingCalls).family "greeting",
      (afterCalls greetingCalls).Descends t := by
  have hmanaged := managed_afterCalls greetingCalls
  have hids : (afterCalls greetingCalls).lastId < 9007199254740992 := by
    decide +kernel
  obtain ⟨-, hreplayed, -, -, hdescends⟩ :=
    version_log_faithful hmanaged hids "greeting"
  refine ⟨hmanaged, hids, hreplayed.trans ?_, hdescends⟩
  decide +kernel

end Lifecycle

end TemplateRegistry
