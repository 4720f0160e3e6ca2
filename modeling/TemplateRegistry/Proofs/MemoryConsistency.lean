import Mathlib.Data.List.Nodup
import TemplateRegistry.Proofs.MemoryEffects
/-!
# The records of a store belong together

Whatever calls reach a store in memory, with whatever arguments and in whatever
order, failed ones included: the versions of every name are numbered 1, 2, …
without a gap, at most one of them is active, no id is given to two records of
any kind, and every record of a render is about a version that is there.

`Consistent` states this of one state; `consistent_effect` is the step from one
call to the next, `consistent_of_reachable` the run.
-/

namespace TemplateRegistry.Memory

variable {s : Memory}

/-- The standings of the versions of templates. -/
def templateRows (s : Memory) : List Standing :=
  s.templates.map TemplateVersion.standing

/-- The standings of the versions of components. -/
def componentRows (s : Memory) : List Standing :=
  s.components.map Component.standing

/-- The ids of all records. -/
def ids (s : Memory) : List Int :=
  s.templates.map TemplateVersion.id ++ (s.components.map Component.id ++
    (s.log.map LogEntry.id ++ s.usage.map UsageRecord.id))

/-- The records of a store belong together. -/
structure Consistent (s : Memory) : Prop where
  templates : Orderly s.templateRows
  components : Orderly s.componentRows
  idsDistinct : s.ids.Nodup
  idsBounded : ∀ id ∈ s.ids, id ≤ s.lastId
  usageKnown : ∀ u ∈ s.usage, ∃ t ∈ s.templates, t.id = u.templateId

/-- Versions of templates with one id are one. -/
theorem Consistent.template_eq (h : s.Consistent) {t u : TemplateVersion}
    (ht : t ∈ s.templates) (hu : u ∈ s.templates) (hid : t.id = u.id) : t = u :=
  List.inj_on_of_nodup_map (List.nodup_append.mp h.idsDistinct).1 ht hu hid

/-- Versions of components with one id are one. -/
theorem Consistent.component_eq (h : s.Consistent) {c d : Component}
    (hc : c ∈ s.components) (hd : d ∈ s.components) (hid : c.id = d.id) :
    c = d :=
  List.inj_on_of_nodup_map
    (List.nodup_append.mp (List.nodup_append.mp h.idsDistinct).2.1).1 hc hd hid

/-- Two active versions of one template are one. -/
theorem Consistent.active_eq (h : s.Consistent) {t u : TemplateVersion}
    (ht : t ∈ s.templates) (hu : u ∈ s.templates) (hname : t.name = u.name)
    (hactive : t.isActive = true) (hactive' : u.isActive = true) : t = u :=
  h.template_eq ht hu (h.templates.oneActive t.standing (List.mem_map_of_mem ht)
    u.standing (List.mem_map_of_mem hu) hname hactive hactive')

/-- Two active versions of one component are one. -/
theorem Consistent.activeComponent_eq (h : s.Consistent) {c d : Component}
    (hc : c ∈ s.components) (hd : d ∈ s.components) (hname : c.name = d.name)
    (hactive : c.isActive = true) (hactive' : d.isActive = true) : c = d :=
  h.component_eq hc hd (h.components.oneActive c.standing
    (List.mem_map_of_mem hc) d.standing
    (List.mem_map_of_mem hd) hname hactive hactive')

/-! ### The rows of a state -/

/-- Every version has a standing, under its own id. -/
theorem map_id_templateRows (s : Memory) :
    s.templateRows.map Standing.id = s.templates.map TemplateVersion.id := by
  simp [templateRows, TemplateVersion.standing]

/-- Every component has a standing, under its own id. -/
theorem map_id_componentRows (s : Memory) :
    s.componentRows.map Standing.id = s.components.map Component.id := by
  simp [componentRows, Component.standing]

/-- The standings under a name are those of its family. -/
theorem filter_templateRows (name : String) (s : Memory) :
    (s.templateRows.filter fun row => row.name = name) =
      (s.family name).map TemplateVersion.standing := by
  simp only [templateRows, family, List.filter_map]
  rfl

/-- The versions of a name are those of its family. -/
theorem versionsOf_templateRows (name : String) (s : Memory) :
    versionsOf name s.templateRows =
      (s.family name).map TemplateVersion.version := by
  simp [versionsOf, filter_templateRows, TemplateVersion.standing]

/-- The versions of a component are those of the rows with its name. -/
theorem versionsOf_componentRows (name : String) (s : Memory) :
    versionsOf name s.componentRows =
      (s.components.filter fun c => c.name = name).map Component.version := by
  simp only [versionsOf, componentRows, List.filter_map, List.map_map]
  rfl

/-- The highest version that the store answers with is the highest of the
family. -/
theorem maxVersion_eq (name : String) (s : Memory) :
    s.maxVersion name = highestVersion (versionsOf name s.templateRows) := by
  rw [versionsOf_templateRows]
  rfl

/-- Switching a version changes its standing and no other. -/
theorem templateRows_setActive (now : Timestamp) (id : Int) (b : Bool)
    (s : Memory) :
    (s.setActive now id b).templateRows =
      s.templateRows.map (Standing.setActive id b) := by
  simp only [templateRows, setActive, List.map_map]
  apply List.map_congr_left
  intro t _
  by_cases hid : t.id = id <;>
    simp [Standing.setActive, TemplateVersion.standing, hid]

/-- Switching a version gives out no id and takes none back. -/
theorem ids_setActive (now : Timestamp) (id : Int) (b : Bool) (s : Memory) :
    (s.setActive now id b).ids = s.ids := by
  simp only [ids, setActive, List.map_map]
  congr 1
  apply List.map_congr_left
  intro t _
  simp only [Function.comp]
  split <;> rfl

/-- Neither does changing a component but for its id. -/
theorem ids_updateComponent (change : Component → Component)
    (hid : ∀ c, (change c).id = c.id) (id : Int) (s : Memory) :
    (s.updateComponent id change).ids = s.ids := by
  simp only [ids, updateComponent, List.map_map]
  congr 2
  apply List.map_congr_left
  intro c _
  simp only [Function.comp]
  split
  · exact hid c
  · rfl

/-- Switching a component off changes its standing and no other. -/
theorem componentRows_deactivated (now : Timestamp) (id : Int) (s : Memory) :
    (s.updateComponent id (Component.deactivated now)).componentRows =
      s.componentRows.map (Standing.setActive id false) := by
  simp only [componentRows, updateComponent, List.map_map]
  apply List.map_congr_left
  intro c _
  by_cases hid : c.id = id <;>
    simp [Standing.setActive, Component.standing, Component.deactivated, hid]

/-- How often a component was used is not part of its standing. -/
theorem componentRows_usedOnceMore (id : Int) (s : Memory) :
    (s.updateComponent id Component.usedOnceMore).componentRows =
      s.componentRows := by
  simp only [componentRows, updateComponent, List.map_map]
  apply List.map_congr_left
  intro c _
  simp only [Function.comp, Component.standing]
  split <;> rfl

/-! ### Ids -/

theorem ids_addVersion (t : TemplateVersion) (s : Memory) :
    (s.addVersion t).ids.Perm (t.id :: s.ids) := by
  simp only [ids, addVersion, List.map_append, List.map_cons, List.map_nil,
    List.append_assoc, List.singleton_append]
  exact List.perm_middle

theorem ids_addComponent (c : Component) (s : Memory) :
    (s.addComponent c).ids.Perm (c.id :: s.ids) := by
  simp only [ids, addComponent, List.map_append, List.map_cons, List.map_nil,
    List.append_assoc, List.singleton_append]
  exact (List.perm_middle.append_left _).trans List.perm_middle

/-- A new entry of the log adds the next id. -/
theorem ids_appendLog (now : Timestamp) (entry : NewLogEntry) (s : Memory) :
    (s.appendLog now entry).ids.Perm ((s.lastId + 1) :: s.ids) := by
  simp only [ids, appendLog, List.map_append, List.map_cons, List.map_nil,
    List.append_assoc, List.singleton_append, NewLogEntry.withId]
  exact ((List.perm_middle.append_left _).append_left _).trans
    ((List.perm_middle.append_left _).trans List.perm_middle)

theorem ids_addUsage (u : UsageRecord) (s : Memory) :
    (s.addUsage u).ids.Perm (u.id :: s.ids) := by
  simp only [ids, addUsage, List.map_append, List.map_cons, List.map_nil]
  rw [← List.append_assoc, ← List.append_assoc, ← List.append_assoc]
  simpa only [List.append_assoc] using
    (List.perm_append_singleton u.id (s.templates.map TemplateVersion.id ++
      (s.components.map Component.id ++
        (s.log.map LogEntry.id ++ s.usage.map UsageRecord.id))))

/-- An id beyond the last one keeps ids distinct and bounded. -/
theorem ids_fresh (h : s.Consistent) {after : List Int} {id : Int}
    (hperm : after.Perm (id :: s.ids)) (hid : id = s.lastId + 1) :
    after.Nodup ∧ ∀ other ∈ after, other ≤ id := by
  have hbound : ∀ other ∈ s.ids, other < id := by
    intro other hother
    have hle := h.idsBounded other hother
    omega
  refine ⟨hperm.nodup_iff.mpr (List.nodup_cons.mpr ⟨?_, h.idsDistinct⟩), ?_⟩
  · intro hmem
    exact Int.lt_irrefl id (hbound id hmem)
  · intro other hother
    rcases List.mem_cons.mp (hperm.mem_iff.mp hother) with rfl | hold
    · exact Int.le_refl _
    · exact Int.le_of_lt (hbound other hold)

/-! ### The steps that calls are made of -/

/-- An empty store is consistent. -/
theorem consistent_empty : Memory.empty.Consistent :=
  ⟨Orderly.nil, Orderly.nil,
    List.nodup_nil, by simp [ids, Memory.empty], by simp [Memory.empty]⟩

/-- The log may grow at any time. -/
theorem Consistent.appendLog (h : s.Consistent) (now : Timestamp)
    (entry : NewLogEntry) :
    (s.appendLog now entry).Consistent := by
  obtain ⟨hdistinct, hbounded⟩ := ids_fresh h (ids_appendLog now entry s) rfl
  exact ⟨h.templates, h.components, hdistinct, hbounded, h.usageKnown⟩

/-- A version can be added under the next id, as the next of its family, and
active only if no other version is. -/
theorem Consistent.addVersion (h : s.Consistent) {t : TemplateVersion}
    (hid : t.id = s.lastId + 1) (hversion : t.version = s.maxVersion t.name + 1)
    (hactive : t.isActive = true → s.active? t.name = none) :
    (s.addVersion t).Consistent := by
  obtain ⟨hdistinct, hbounded⟩ := ids_fresh h (ids_addVersion t s) hid
  refine ⟨?_, h.components, hdistinct, hbounded, ?_⟩
  · have hrows :
        (s.addVersion t).templateRows = s.templateRows ++ [t.standing] := by
      simp [templateRows, Memory.addVersion]
    rw [hrows]
    apply h.templates.append
    · rw [maxVersion_eq] at hversion
      exact hversion
    · intro hstanding row hrow hname
      obtain ⟨other, hother, rfl⟩ := List.mem_map.mp hrow
      exact active?_eq_none.mp (hactive hstanding) other hother hname
  · intro u hu
    obtain ⟨known, hknown, heq⟩ := h.usageKnown u hu
    exact ⟨known, List.mem_append_left _ hknown, heq⟩

/-- The use of a known version can be recorded. -/
theorem Consistent.addUsage (h : s.Consistent) {u : UsageRecord}
    (hid : u.id = s.lastId + 1)
    (hknown : ∃ t ∈ s.templates, t.id = u.templateId) :
    (s.addUsage u).Consistent := by
  obtain ⟨hdistinct, hbounded⟩ := ids_fresh h (ids_addUsage u s) hid
  refine ⟨h.templates, h.components, hdistinct, hbounded, ?_⟩
  intro other hother
  rcases List.mem_append.mp hother with hold | hnew
  · exact h.usageKnown other hold
  · obtain rfl := List.mem_singleton.mp hnew
    exact hknown

/-- A component can be added under the next id, as the next version, once no
other version is active. -/
theorem Consistent.addComponent (h : s.Consistent) {c : Component}
    (hid : c.id = s.lastId + 1)
    (hversion :
      c.version = highestVersion (versionsOf c.name s.componentRows) + 1)
    (hactive : s.activeComponent? c.name = none) :
    (s.addComponent c).Consistent := by
  obtain ⟨hdistinct, hbounded⟩ := ids_fresh h (ids_addComponent c s) hid
  refine ⟨h.templates, ?_, hdistinct, hbounded, h.usageKnown⟩
  have hrows :
      (s.addComponent c).componentRows = s.componentRows ++ [c.standing] := by
    simp [componentRows, Memory.addComponent]
  rw [hrows]
  apply h.components.append hversion
  intro _ row hrow hname
  obtain ⟨other, hother, rfl⟩ := List.mem_map.mp hrow
  exact activeComponent?_eq_none.mp hactive other hother hname

/-- A record of a render stays about a version that is there when versions keep
their ids. -/
theorem usageKnown_setActive (h : s.Consistent) (now : Timestamp) (id : Int)
    (b : Bool) :
    ∀ u ∈ s.usage, ∃ t ∈ (s.setActive now id b).templates,
      t.id = u.templateId := by
  intro u hu
  obtain ⟨t, ht, heq⟩ := h.usageKnown u hu
  refine ⟨_, List.mem_map.mpr ⟨t, ht, rfl⟩, ?_⟩
  split <;> exact heq

/-- A version can be switched off at any time. -/
theorem Consistent.deactivate (h : s.Consistent) (now : Timestamp) (id : Int) :
    (s.setActive now id false).Consistent := by
  refine ⟨?_, h.components, ?_, ?_, usageKnown_setActive h now id false⟩
  · rw [templateRows_setActive]
    exact h.templates.deactivate id
  · rw [ids_setActive]
    exact h.idsDistinct
  · rw [ids_setActive]
    exact h.idsBounded

/-- A version can be switched on if no other of its family is active. -/
theorem Consistent.activate (h : s.Consistent) (now : Timestamp)
    {target : TemplateVersion} (htarget : target ∈ s.templates)
    (hother : ∀ t ∈ s.templates, t.name = target.name → t.isActive = true →
      t.id = target.id) :
    (s.setActive now target.id true).Consistent := by
  refine ⟨?_, h.components, ?_, ?_, usageKnown_setActive h now target.id true⟩
  · rw [templateRows_setActive]
    apply h.templates.activate
    intro a ha b hb hid hname hactive
    obtain ⟨t, ht, rfl⟩ := List.mem_map.mp ha
    obtain ⟨u, hu, rfl⟩ := List.mem_map.mp hb
    obtain rfl := h.template_eq hu htarget hid
    exact hother t ht hname hactive
  · rw [ids_setActive]
    exact h.idsDistinct
  · rw [ids_setActive]
    exact h.idsBounded

/-- All active versions of a component can be switched off. -/
theorem Consistent.retired (h : s.Consistent) (now : Timestamp)
    (name : String) :
    (s.retired now name).Consistent := by
  unfold Memory.retired
  split
  · exact h
  · rename_i previous _
    have hids :
        (s.updateComponent previous.id (Component.deactivated now)).ids =
          s.ids :=
      ids_updateComponent (Component.deactivated now)
        (fun _ => rfl) previous.id s
    refine ⟨h.templates, ?_, ?_, ?_, h.usageKnown⟩
    · rw [componentRows_deactivated]
      exact h.components.deactivate previous.id
    · rw [hids]
      exact h.idsDistinct
    · rw [hids]
      exact h.idsBounded

/-- Once the active version of a component is made inactive there is none. -/
theorem activeComponent?_retired (h : s.Consistent) (now : Timestamp)
    (name : String) :
    (s.retired now name).activeComponent? name = none := by
  unfold Memory.retired
  cases hactive : s.activeComponent? name with
  | none => exact hactive
  | some previous =>
      obtain ⟨hmem, hname, hisActive⟩ := activeComponent?_mem hactive
      rw [activeComponent?_eq_none]
      intro c hc hcname
      obtain ⟨old, hold, rfl⟩ := List.mem_map.mp hc
      by_cases hid : old.id = previous.id
      · simp [hid, Component.deactivated]
      · simp only [hid, if_false] at hcname ⊢
        by_contra hactiveOld
        exact hid (congrArg Component.id (h.activeComponent_eq hold hmem
          (hcname.trans hname.symm)
          (Bool.not_eq_false _ ▸ hactiveOld) hisActive))

/-- Switching versions of a component off takes none away. -/
theorem versionsOf_retired (now : Timestamp) (name other : String)
    (s : Memory) :
    versionsOf other (s.retired now name).componentRows =
      versionsOf other s.componentRows := by
  unfold Memory.retired
  split
  · rfl
  · rw [componentRows_deactivated]
    exact versionsOf_map (Standing.setActive_name _ false)
      (Standing.setActive_version _ false) other s.componentRows

/-- A use can be counted. -/
theorem Consistent.usedOnceMore (h : s.Consistent) (id : Int) :
    (s.updateComponent id Component.usedOnceMore).Consistent := by
  have hids : (s.updateComponent id Component.usedOnceMore).ids = s.ids :=
    ids_updateComponent Component.usedOnceMore (fun _ => rfl) id s
  refine ⟨h.templates, ?_, ?_, ?_, h.usageKnown⟩
  · rw [componentRows_usedOnceMore]
    exact h.components
  · rw [hids]
    exact h.idsDistinct
  · rw [hids]
    exact h.idsBounded

/-- Taking the versions of a name by their ids takes no other version. -/
theorem templates_withoutFamily (h : s.Consistent) (name : String) :
    (s.withoutFamily name).templates = s.templates.filter fun t =>
      t.name ≠ name := by
  apply List.filter_congr
  intro t ht
  have hmem : t.id ∈ (s.family name).map TemplateVersion.id ↔
      t.name = name := by
    constructor
    · intro hid
      obtain ⟨u, hu, heq⟩ := List.mem_map.mp hid
      obtain ⟨hmemU, hname⟩ := mem_family.mp hu
      rwa [← h.template_eq hmemU ht heq]
    · intro hname
      exact List.mem_map_of_mem (mem_family.mpr ⟨ht, hname⟩)
  simp [hmem]

/-- A family can be deleted; its uses are deleted with it. -/
theorem Consistent.withoutFamily (h : s.Consistent) (name : String) :
    (s.withoutFamily name).Consistent := by
  have hsub : (s.withoutFamily name).ids.Sublist s.ids :=
    (List.filter_sublist.map _).append ((List.Sublist.refl _).append
      ((List.filter_sublist.map _).append (List.filter_sublist.map _)))
  refine ⟨?_, h.components, hsub.nodup h.idsDistinct,
    fun id hid => h.idsBounded id (hsub.subset hid), ?_⟩
  · have hrows : (s.withoutFamily name).templateRows =
        s.templateRows.filter fun row => row.name ≠ name := by
      simp only [templateRows, templates_withoutFamily h, List.filter_map]
      rfl
    rw [hrows]
    exact h.templates.withoutName name
  · intro u hu
    obtain ⟨hold, hid⟩ := List.mem_filter.mp hu
    obtain ⟨t, ht, heq⟩ := h.usageKnown u hold
    exact ⟨t, List.mem_filter.mpr ⟨ht, by rw [heq]; exact hid⟩, heq⟩

/-- The active version can be changed: the other one is switched off first. -/
theorem Consistent.swapped (h : s.Consistent) (now : Timestamp)
    {target : TemplateVersion} (htarget : s.template? target.id = some target)
    (author : String) (notes : Option String) :
    (s.swapped now target author notes).Consistent := by
  apply Consistent.appendLog
  have haside := template?_stepAside htarget now author notes
  have hmem := (template?_mem haside).1
  cases hother : s.otherActive? target with
  | none =>
      rw [hother] at hmem
      exact h.activate now hmem (otherActive?_eq_none hother)
  | some old =>
      obtain ⟨hold, holdName, holdActive, -⟩ := otherActive?_mem hother
      rw [hother] at hmem
      -- the version that was active is the only one that could be, and it steps
      -- aside first
      apply ((h.deactivate now old.id).appendLog now _).activate now hmem
      intro t ht hname hactive
      obtain ⟨u, hu, rfl⟩ := List.mem_map.mp ht
      by_cases hid : u.id = old.id
      · simp [hid] at hactive
      · simp only [hid, if_false] at hname hactive ⊢
        exact (hid (congrArg TemplateVersion.id
          (h.active_eq hu hold (hname.trans holdName.symm) hactive
            holdActive))).elim

/-! ### Calls and runs -/

/-- **One call.**  No call, whatever its arguments and whether it succeeds,
takes apart what belongs together. -/
theorem consistent_effect (h : s.Consistent) {now : Timestamp}
    {call : StoreCall} {after : Memory} (heffect : Effect now s call after) :
    after.Consistent := by
  cases heffect with
  | nothing => exact h
  | inserted new entry hnext hfree =>
      exact (h.addVersion rfl hnext hfree).appendLog now entry
  | swapped htarget author notes => exact h.swapped now htarget author notes
  | familyDeleted name => exact h.withoutFamily name
  | rendered ht unresolvedCount => exact h.addUsage rfl ⟨_, ht, rfl⟩
  | @put new prepared hprepared hcheck =>
      apply (h.retired now prepared.name).addComponent
      · simp [NewComponent.withId, lastId_retired]
      · rw [versionsOf_retired, versionsOf_componentRows]
        rfl
      · exact activeComponent?_retired h now prepared.name
  | retired name => exact h.retired now name
  | used id => exact h.usedOnceMore id

/-- **Every run.**  The records belong together in every state that calls lead
to. -/
theorem consistent_of_reachable (h : Reachable s) : s.Consistent := by
  induction h with
  | empty => exact consistent_empty
  | call _ now call ih => exact consistent_effect ih (effect_answer now call _)

/-- At most one version of a family is active. -/
theorem length_active_family_le_one (h : s.Consistent) (name : String) :
    ((s.family name).filter TemplateVersion.isActive).length ≤ 1 := by
  have hids : (s.templateRows.map Standing.id).Nodup := by
    rw [map_id_templateRows]
    exact (List.nodup_append.mp h.idsDistinct).1
  have hle := h.templates.length_active_le_one hids name
  rw [filter_templateRows, List.filter_map, List.length_map] at hle
  exact hle

/-- At most one version of a component is active. -/
theorem length_active_components_le_one (h : s.Consistent) (name : String) :
    ((s.components.filter fun c => c.name = name).filter
      Component.isActive).length ≤ 1 := by
  have hids : (s.componentRows.map Standing.id).Nodup := by
    rw [map_id_componentRows]
    exact (List.nodup_append.mp (List.nodup_append.mp h.idsDistinct).2.1).1
  have hle := h.components.length_active_le_one hids name
  rw [componentRows, List.filter_map, List.filter_map, List.length_map] at hle
  exact hle

/-- **The records of a store belong together.**  In every state that calls lead
to, the versions of a template are 1, 2, …, each once, with one of them active
at most, and so are those of a component; no two records of any kind share an
id, every id was given by the counter, and every record of a render is about a
version that is there. -/
theorem reachable_records_consistent (h : Reachable s) :
    (∀ name, (∃ n, (s.family name).map TemplateVersion.version =
        firstVersions n) ∧
      ((s.family name).filter TemplateVersion.isActive).length ≤ 1) ∧
    (∀ name,
      (∃ n, (s.components.filter fun c => c.name = name).map Component.version =
        firstVersions n) ∧
      ((s.components.filter fun c => c.name = name).filter
        Component.isActive).length ≤ 1) ∧
    s.ids.Nodup ∧ (∀ id ∈ s.ids, id ≤ s.lastId) ∧
    ∀ u ∈ s.usage, ∃ t ∈ s.templates, t.id = u.templateId := by
  have hs := consistent_of_reachable h
  refine ⟨fun name => ⟨?_, length_active_family_le_one hs name⟩,
    fun name => ⟨?_, length_active_components_le_one hs name⟩,
    hs.idsDistinct, hs.idsBounded, hs.usageKnown⟩
  · rw [← versionsOf_templateRows]
    exact hs.templates.numbered name
  · rw [← versionsOf_componentRows]
    exact hs.components.numbered name

/-- The state after some calls, one after another. -/
def after (now : Timestamp) (calls : List StoreCall) (s : Memory) : Memory :=
  calls.foldl (fun s call => (answer now call s).2) s

/-- Store calls lead from reachable stores to reachable ones. -/
theorem Reachable.after (h : Reachable s) (now : Timestamp)
    (calls : List StoreCall) :
    Reachable (s.after now calls) := by
  induction calls generalizing s with
  | nil => exact h
  | cons call rest ih => exact ih (h.call now call)

/-- A greeting, as a version to be written. -/
def greeting (version : Int) (isActive : Bool) : NewVersion where
  name := "greeting"
  version := version
  fields := ⟨"Hello", defaultCategory, [], []⟩
  isActive := isActive
  createdBy := "ann"
  previousId := none

/-- The log entry of a greeting. -/
def greetingEntry (version : Int) : NewLogEntry where
  templateName := "greeting"
  version := version
  action := .created
  author := "ann"
  notes := none
  metadata := createdMetadata none

/-- A footer, as a component to be written. -/
def footer : NewComponent where
  name := "footer"
  content := "Bye"
  category := defaultCategory
  tags := []

/-- A greeting that was written, refused once, activated, rendered, deleted and
written again, and a footer that was put twice and made inactive. -/
theorem records_consistent_after_recreation :
    let s := Memory.empty.after ⟨0, 0⟩
      [.insertVersion (greeting 1 true) (greetingEntry 1),
        .insertVersion (greeting 1 true) (greetingEntry 1),
        .insertVersion (greeting 2 false) (greetingEntry 2),
        .swapActive 3 "ann" none, .recordTemplateUsage 3 1,
        .deleteFamily "greeting",
        .insertVersion (greeting 1 false) (greetingEntry 1),
        .recordTemplateUsage 8 0, .putComponent footer, .putComponent footer,
        .deactivateComponent "footer"]
    Reachable s ∧
    (∃ n, (s.family "greeting").map TemplateVersion.version = firstVersions n) ∧
    ((s.family "greeting").filter TemplateVersion.isActive).length ≤ 1 ∧
    (∃ n, (s.components.filter fun c => c.name =
        "footer").map Component.version =
      firstVersions n) ∧
    s.ids.Nodup ∧ ∀ u ∈ s.usage, ∃ t ∈ s.templates, t.id = u.templateId := by
  intro s
  have hs : Reachable s := Reachable.empty.after _ _
  obtain ⟨htemplates, hcomponents, hdistinct, -, husage⟩ :=
    reachable_records_consistent hs
  exact ⟨hs, (htemplates "greeting").1, (htemplates "greeting").2,
    (hcomponents "footer").1, hdistinct, husage⟩

end TemplateRegistry.Memory
