import TemplateRegistry.Store.Memory
/-!
# Series of versions

Templates and components are kept alike: rows of one list, each a version of
some name, and at most one version of a name active.  `Standing` is the part of
a row that this is about, so that both kinds share one set of lemmas.

* `Orderly` — the versions of every name are 1, 2, …, in the order of the list,
  and no two versions of a name are active;
* `Orderly.append`, `Orderly.deactivate`, `Orderly.activate`,
  `Orderly.withoutName` — the four things that ever happen to such a list.
-/

namespace TemplateRegistry

/-- Which version of which name a row is, and whether it is the active one. -/
structure Standing where
  id : Int
  name : String
  version : Int
  isActive : Bool

/-- The standing of a version of a template. -/
def TemplateVersion.standing (t : TemplateVersion) : Standing :=
  ⟨t.id, t.name, t.version, t.isActive⟩

/-- The standing of a version of a component. -/
def Component.standing (c : Component) : Standing :=
  ⟨c.id, c.name, c.version, c.isActive⟩

/-- The numbers 1, 2, …, as many as given. -/
def firstVersions (n : Nat) : List Int :=
  (List.range n).map fun i : Nat => (i : Int) + 1

theorem firstVersions_succ (n : Nat) :
    firstVersions (n + 1) = firstVersions n ++ [(n : Int) + 1] := by
  simp [firstVersions, List.range_succ]

theorem length_firstVersions (n : Nat) : (firstVersions n).length = n := by
  simp [firstVersions]

/-- A number at the end of some others is the greatest if it is at least as
great as they are. -/
theorem highestVersion_append_singleton (versions : List Int) (v : Int) :
    highestVersion (versions ++ [v]) =
      if versions = [] then v else max (highestVersion versions) v := by
  cases versions with
  | nil => rfl
  | cons first rest => simp [highestVersion, List.foldl_append]

/-- The highest of the first `n` versions is the `n`th. -/
theorem highestVersion_firstVersions (n : Nat) :
    highestVersion (firstVersions n) = n := by
  induction n with
  | zero => rfl
  | succ n ih =>
      rw [firstVersions_succ, highestVersion_append_singleton, ih]
      split
      · have hlength := length_firstVersions n
        simp_all
      · omega

namespace Standing

/-- The rows with one of them made active or inactive. -/
def setActive (id : Int) (isActive : Bool) (row : Standing) : Standing :=
  if row.id = id then { row with isActive } else row

@[simp] theorem setActive_id (id : Int) (b : Bool) (row : Standing) :
    (row.setActive id b).id = row.id := by
  unfold setActive
  split <;> rfl

@[simp] theorem setActive_name (id : Int) (b : Bool) (row : Standing) :
    (row.setActive id b).name = row.name := by
  unfold setActive
  split <;> rfl

@[simp] theorem setActive_version (id : Int) (b : Bool) (row : Standing) :
    (row.setActive id b).version = row.version := by
  unfold setActive
  split <;> rfl

end Standing

/-- The version numbers of a name, in the order of the rows. -/
def versionsOf (name : String) (rows : List Standing) : List Int :=
  (rows.filter fun row => row.name = name).map Standing.version

/-- The versions of more rows come after those of the first ones. -/
theorem versionsOf_append (name : String) (rows more : List Standing) :
    versionsOf name (rows ++ more) =
      versionsOf name rows ++ versionsOf name more := by
  simp [versionsOf]

/-- Changing rows without changing names or versions changes no series. -/
theorem versionsOf_map {f : Standing → Standing}
    (hname : ∀ row, (f row).name = row.name)
    (hversion : ∀ row, (f row).version = row.version) (name : String)
    (rows : List Standing) :
    versionsOf name (rows.map f) = versionsOf name rows := by
  have hfilter : (fun row => decide ((f row).name = name)) =
      fun row : Standing => decide (row.name = name) := by
    funext row
    rw [hname]
  have hversions : Standing.version ∘ f = Standing.version := funext hversion
  simp only [versionsOf, List.filter_map, List.map_map, Function.comp_def] at *
  rw [hfilter, hversions]

/-- Rows in which every name has the versions 1, 2, …, and one active version at
most. -/
structure Orderly (rows : List Standing) : Prop where
  numbered : ∀ name, ∃ n, versionsOf name rows = firstVersions n
  oneActive : ∀ a ∈ rows, ∀ b ∈ rows, a.name = b.name →
    a.isActive = true → b.isActive = true → a.id = b.id

namespace Orderly

variable {rows : List Standing}

theorem nil : Orderly [] :=
  ⟨fun _ => ⟨0, rfl⟩, by simp⟩

/-- A name has no versions exactly when the highest of them is 0. -/
theorem highest_eq_zero_iff (h : Orderly rows) (name : String) :
    highestVersion (versionsOf name rows) = 0 ↔ versionsOf name rows = [] := by
  obtain ⟨n, hn⟩ := h.numbered name
  rw [hn, highestVersion_firstVersions]
  cases n with
  | zero => simp [firstVersions]
  | succ n => simp [firstVersions_succ]; omega

/-- The highest version is not negative. -/
theorem highest_nonneg (h : Orderly rows) (name : String) :
    0 ≤ highestVersion (versionsOf name rows) := by
  obtain ⟨n, hn⟩ := h.numbered name
  rw [hn, highestVersion_firstVersions]
  omega

/-- The next version of a name may follow, active only if no other is. -/
theorem append (h : Orderly rows) {row : Standing}
    (hversion : row.version = highestVersion (versionsOf row.name rows) + 1)
    (hactive : row.isActive = true → ∀ a ∈ rows, a.name = row.name →
      a.isActive = false) :
    Orderly (rows ++ [row]) := by
  refine ⟨fun name => ?_, ?_⟩
  · obtain ⟨n, hn⟩ := h.numbered name
    by_cases hname : row.name = name
    · refine ⟨n + 1, ?_⟩
      subst hname
      rw [hn, highestVersion_firstVersions] at hversion
      rw [versionsOf_append, hn, firstVersions_succ]
      simp [versionsOf, hversion]
    · refine ⟨n, ?_⟩
      rw [versionsOf_append, hn]
      simp [versionsOf, hname]
  · intro a ha b hb hname hactiveA hactiveB
    simp only [List.mem_append, List.mem_singleton] at ha hb
    rcases ha with ha | rfl <;> rcases hb with hb | rfl
    · exact h.oneActive a ha b hb hname hactiveA hactiveB
    · have hinactive := hactive hactiveB a ha hname
      simp [hinactive] at hactiveA
    · have hinactive := hactive hactiveA b hb hname.symm
      simp [hinactive] at hactiveB
    · rfl

/-- A row may be marked as long as no name gets two active rows. -/
theorem setActive (h : Orderly rows) {id : Int} {isActive : Bool}
    (hone : ∀ a ∈ rows, ∀ b ∈ rows, a.name = b.name →
      (a.setActive id isActive).isActive = true →
      (b.setActive id isActive).isActive = true → a.id = b.id) :
    Orderly (rows.map (Standing.setActive id isActive)) := by
  refine ⟨fun name => ?_, ?_⟩
  · rw [versionsOf_map (Standing.setActive_name id isActive)
      (Standing.setActive_version id isActive)]
    exact h.numbered name
  · intro a ha b hb hname hactiveA hactiveB
    obtain ⟨a, hmemA, rfl⟩ := List.mem_map.mp ha
    obtain ⟨b, hmemB, rfl⟩ := List.mem_map.mp hb
    simp only [Standing.setActive_name, Standing.setActive_id] at hname ⊢
    exact hone a hmemA b hmemB hname hactiveA hactiveB

/-- Any row may be made inactive. -/
theorem deactivate (h : Orderly rows) (id : Int) :
    Orderly (rows.map (Standing.setActive id false)) := by
  refine h.setActive fun a ha b hb hname hactiveA hactiveB => ?_
  apply h.oneActive a ha b hb hname
  · grind [Standing.setActive]
  · grind [Standing.setActive]

/-- A row may be made active when no other row of its name is. -/
theorem activate (h : Orderly rows) {id : Int}
    (hother : ∀ a ∈ rows, ∀ b ∈ rows, b.id = id → a.name = b.name →
      a.isActive = true → a.id = id) :
    Orderly (rows.map (Standing.setActive id true)) := by
  refine h.setActive fun a ha b hb hname hactiveA hactiveB => ?_
  by_cases hidA : a.id = id <;> by_cases hidB : b.id = id
  · rw [hidA, hidB]
  · simp only [Standing.setActive, hidB, if_false] at hactiveB
    exact (hidB (hother b hb a ha hidA hname.symm hactiveB)).elim
  · simp only [Standing.setActive, hidA, if_false] at hactiveA
    exact (hidA (hother a ha b hb hidB hname hactiveA)).elim
  · simp only [Standing.setActive, hidA, hidB, if_false] at hactiveA hactiveB
    exact h.oneActive a ha b hb hname hactiveA hactiveB

/-- All rows of a name may go together. -/
theorem withoutName (h : Orderly rows) (gone : String) :
    Orderly (rows.filter fun row => row.name ≠ gone) := by
  refine ⟨fun name => ?_, ?_⟩
  · by_cases hname : name = gone
    · refine ⟨0, ?_⟩
      subst hname
      simp [versionsOf, firstVersions, List.filter_filter]
    · obtain ⟨n, hn⟩ := h.numbered name
      refine ⟨n, ?_⟩
      rw [← hn]
      simp only [versionsOf, List.filter_filter]
      congr 1
      apply List.filter_congr
      intro row _
      by_cases hrow : row.name = name <;> simp [hrow, hname]
  · intro a ha b hb
    exact h.oneActive a (List.mem_filter.mp ha).1 b (List.mem_filter.mp hb).1

/-- Rows that all have one id are at most one row, if ids are distinct. -/
theorem length_le_one_of_same_id {same : List Standing}
    (hids : (same.map Standing.id).Nodup)
    (hsame : ∀ a ∈ same, ∀ b ∈ same, a.id = b.id) : same.length ≤ 1 := by
  match same with
  | [] => exact Nat.zero_le 1
  | [_] => exact Nat.le_refl 1
  | a :: b :: rest =>
      have hab : a.id = b.id := hsame a (by simp) b (by simp)
      simp [hab] at hids

/-- Rows with distinct ids hold at most one active row of a name. -/
theorem length_active_le_one (h : Orderly rows)
    (hids : (rows.map Standing.id).Nodup) (name : String) :
    ((rows.filter fun row => row.name = name).filter Standing.isActive).length ≤
      1 := by
  have hsub :
      ((rows.filter fun row => row.name = name).filter
        Standing.isActive).Sublist rows :=
    List.filter_sublist.trans List.filter_sublist
  apply length_le_one_of_same_id ((hsub.map Standing.id).nodup hids)
  intro a ha b hb
  simp only [List.mem_filter, decide_eq_true_eq] at ha hb
  exact h.oneActive a ha.1.1 b hb.1.1 (ha.1.2.trans hb.1.2.symm) ha.2 hb.2

end Orderly

end TemplateRegistry
