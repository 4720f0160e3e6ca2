import TemplateRegistry.Proofs.MemoryConsistency
/-!
# What a call leaves alone

A call writes one name at most.  The versions of every other template and the
active version of every other component stay as they are, except that a use of a
component may be counted.  No call gives an id that was given before, or moves
one to another name.

* `family_effect` — templates other than the one that is written;
* `activeComponent?_effect` — components other than the one that is written;
* `Owned`, `owned_effect` — an id stays with its name.
-/

namespace TemplateRegistry

/-- The templates that a call writes in a state. -/
def StoreCall.WritesTemplate (s : Memory) : StoreCall → String → Prop
  | insertVersion new _, name => new.name = name
  | swapActive id _ _, name => ∃ t ∈ s.templates, t.id = id ∧ t.name = name
  | deleteFamily gone, name => gone = name
  | _, _ => False

/-- The components that a call writes. -/
def StoreCall.WritesComponent : StoreCall → String → Prop
  | putComponent new, name => new.name = name
  | deactivateComponent gone, name => gone = name
  | _, _ => False

/-- A component as if it had never been used. -/
def Component.withoutUses (c : Component) : Component :=
  { c with usageCount := 0 }

namespace Memory

variable {s after : Memory} {now : Timestamp} {call : StoreCall}

/-- Records that a change neither selects otherwise nor, once selected, changes
stay the selected ones. -/
theorem filter_map_of_fixed {α : Type} {f : α → α} {p : α → Bool} {l : List α}
    (hselected : ∀ a, p (f a) = p a) (hfixed : ∀ a ∈ l, p a = true → f a = a) :
    (l.map f).filter p = l.filter p := by
  have hsame : p ∘ f = p := funext hselected
  rw [List.filter_map, hsame]
  apply (List.map_congr_left ?_).trans (List.map_id _)
  intro a ha
  obtain ⟨hmem, hp⟩ := List.mem_filter.mp ha
  exact hfixed a hmem hp

/-! ### Versions that are swapped -/

/-- A version after another was made active in place of the one that was. -/
def swappedRow (now : Timestamp) (target : TemplateVersion)
    (previous : Option TemplateVersion) (t : TemplateVersion) :
    TemplateVersion :=
  if t.id = target.id then { t with isActive := true, updatedAt := now }
  else if previous.map TemplateVersion.id = some t.id then
    { t with isActive := false, updatedAt := now }
  else t

/-- A swap changes of a version whether it is active, and when it was
updated. -/
theorem swappedRow_eq (now : Timestamp) (target : TemplateVersion)
    (previous : Option TemplateVersion) (t : TemplateVersion) :
    ∃ isActive updatedAt,
      swappedRow now target previous t = { t with isActive, updatedAt } := by
  unfold swappedRow
  split
  · exact ⟨true, now, rfl⟩
  · split
    · exact ⟨false, now, rfl⟩
    · exact ⟨t.isActive, t.updatedAt, rfl⟩

@[simp] theorem swappedRow_id (now : Timestamp) (target : TemplateVersion)
    (previous : Option TemplateVersion) (t : TemplateVersion) :
    (swappedRow now target previous t).id = t.id := by
  obtain ⟨_, _, hrow⟩ := swappedRow_eq now target previous t
  rw [hrow]

@[simp] theorem swappedRow_name (now : Timestamp) (target : TemplateVersion)
    (previous : Option TemplateVersion) (t : TemplateVersion) :
    (swappedRow now target previous t).name = t.name := by
  obtain ⟨_, _, hrow⟩ := swappedRow_eq now target previous t
  rw [hrow]

@[simp] theorem swappedRow_version (now : Timestamp) (target : TemplateVersion)
    (previous : Option TemplateVersion) (t : TemplateVersion) :
    (swappedRow now target previous t).version = t.version := by
  obtain ⟨_, _, hrow⟩ := swappedRow_eq now target previous t
  rw [hrow]

@[simp] theorem swappedRow_previousId (now : Timestamp)
    (target : TemplateVersion) (previous : Option TemplateVersion)
    (t : TemplateVersion) :
    (swappedRow now target previous t).previousId = t.previousId := by
  obtain ⟨_, _, hrow⟩ := swappedRow_eq now target previous t
  rw [hrow]

/-- A swap changes each version on its own. -/
theorem templates_swapped (now : Timestamp) (target : TemplateVersion)
    (author : String) (notes : Option String) (s : Memory) :
    (s.swapped now target author notes).templates =
      s.templates.map (swappedRow now target (s.otherActive? target)) := by
  show ((s.stepAside now target author notes (s.otherActive? target)).setActive
    now target.id true).templates = _
  cases hother : s.otherActive? target with
  | none =>
      apply List.map_congr_left
      intro t _
      simp [swappedRow]
  | some old =>
      have hne : old.id ≠ target.id := (otherActive?_mem hother).2.2.2
      simp only [stepAside, setActive, appendLog, List.map_map]
      apply List.map_congr_left
      intro t _
      by_cases htarget : t.id = target.id
      · have hold : t.id ≠ old.id := fun h => hne (h.symm.trans htarget)
        simp [swappedRow, htarget, hne.symm]
      · by_cases hold : t.id = old.id
        · simp [swappedRow, hold, hne]
        · have hold' : ¬ old.id = t.id := fun h => hold h.symm
          simp [swappedRow, htarget, hold, hold']

/-- A swap leaves the versions of other names as they are. -/
theorem swappedRow_of_name_ne (h : s.Consistent) {target t : TemplateVersion}
    (htarget : target ∈ s.templates) (ht : t ∈ s.templates)
    (hname : t.name ≠ target.name) :
    swappedRow now target (s.otherActive? target) t = t := by
  have hid : t.id ≠ target.id :=
    fun heq => hname (by rw [h.template_eq ht htarget heq])
  have hprevious :
      (s.otherActive? target).map TemplateVersion.id ≠ some t.id := by
    intro heq
    obtain ⟨old, hold, hold'⟩ := Option.map_eq_some_iff.mp heq
    obtain ⟨hmem, holdName, -⟩ := otherActive?_mem hold
    exact hname (by rw [← h.template_eq hmem ht hold', holdName])
  unfold swappedRow
  rw [if_neg hid, if_neg hprevious]

/-! ### Templates -/

/-- **Other templates.**  A call leaves the versions of every name alone that it
does not write. -/
theorem family_effect (h : s.Consistent) (heffect : Effect now s call after)
    {name : String} (hother : ¬ call.WritesTemplate s name) :
    after.family name = s.family name := by
  cases heffect with
  | inserted new entry hnext hfree =>
      have hne : ¬ new.name = name := hother
      simp [family, addVersion, appendLog, NewVersion.withId, hne]
  | @swapped target htarget author notes =>
      have hmem := (template?_mem htarget).1
      have hne : ¬ target.name = name :=
        fun heq => hother ⟨target, hmem, rfl, heq⟩
      unfold family
      rw [templates_swapped]
      apply filter_map_of_fixed
      · intro t
        rw [swappedRow_name]
      · intro t ht hname
        obtain rfl : t.name = name := by simpa using hname
        exact swappedRow_of_name_ne h hmem ht (Ne.symm hne)
  | familyDeleted gone =>
      have hne : ¬ gone = name := hother
      unfold family
      rw [templates_withoutFamily h, List.filter_filter]
      apply List.filter_congr
      intro t _
      by_cases hname : t.name = name
      · simp [hname, Ne.symm hne]
      · simp [hname]
  | @put new prepared hprepared hcheck =>
      show (s.retired now prepared.name).family name = s.family name
      unfold family
      rw [templates_retired]
  | retired gone =>
      unfold family
      rw [templates_retired]
  | _ => rfl

/-! ### Components -/

/-- The active version of a component is searched among those of its name. -/
theorem activeComponent?_eq (name : String) (s : Memory) :
    s.activeComponent? name =
      (s.components.filter fun c => c.name = name).find?
        Component.isActive := by
  simp [activeComponent?, List.find?_filter]

/-- Making the active version of a component inactive leaves other components
alone. -/
theorem activeComponent?_retired_of_ne {gone name : String} (h : s.Consistent)
    (hne : gone ≠ name) :
    (s.retired now gone).activeComponent? name = s.activeComponent? name := by
  unfold Memory.retired
  cases hactive : s.activeComponent? gone with
  | none => rfl
  | some previous =>
      obtain ⟨hprevious, hname, -⟩ := activeComponent?_mem hactive
      rw [activeComponent?_eq, activeComponent?_eq]
      congr 1
      apply filter_map_of_fixed
      · intro c
        split <;> rfl
      · intro c hc hcname
        have hid : c.id ≠ previous.id := by
          intro heq
          rw [h.component_eq hc hprevious heq, hname] at hcname
          exact hne (by simpa using hcname)
        rw [if_neg hid]

/-- Counting a use changes an active component in nothing else. -/
theorem activeComponent?_used (id : Int) (name : String) (s : Memory) :
    ((s.updateComponent id Component.usedOnceMore).activeComponent? name).map
        Component.withoutUses =
      (s.activeComponent? name).map Component.withoutUses := by
  have hfind : ((fun c : Component => decide (c.name = name) && c.isActive) ∘
      fun c : Component => if c.id = id then c.usedOnceMore else c) =
      fun c => decide (c.name = name) && c.isActive := by
    funext c
    simp only [Function.comp]
    split <;> rfl
  simp only [activeComponent?, updateComponent, List.find?_map, hfind,
    Option.map_map]
  congr 1
  funext c
  simp only [Function.comp]
  split <;> rfl

/-- **Other components.**  A call leaves the active version of every name alone
that it does not write, but for its uses. -/
theorem activeComponent?_effect (h : s.Consistent)
    (heffect : Effect now s call after) {name : String}
    (hother : ¬ call.WritesComponent name) :
    (after.activeComponent? name).map Component.withoutUses =
      (s.activeComponent? name).map Component.withoutUses := by
  cases heffect with
  | @swapped target htarget author notes =>
      unfold activeComponent?
      rw [components_swapped]
  | @put new prepared hprepared hcheck =>
      have hname := (NewComponent.prepared_eq_ok hprepared).1
      have hne : prepared.name ≠ name :=
        fun heq => hother (hname.symm.trans heq)
      have hadded : ∀ c : Component, c.name ≠ name →
          (s.retired now prepared.name |>.addComponent c).activeComponent? name =
            (s.retired now prepared.name).activeComponent? name := by
        intro c hc
        simp [activeComponent?, addComponent, List.find?_append, hc]
      rw [hadded _ hne, activeComponent?_retired_of_ne h hne]
  | retired gone => rw [activeComponent?_retired_of_ne h hother]
  | used id => exact activeComponent?_used id name s
  | _ => rfl

/-! ### Ids -/

/-- An id was given, and no version of another name has it. -/
def Owned (s : Memory) (id : Int) (name : String) : Prop :=
  id ≤ s.lastId ∧ ∀ t ∈ s.templates, t.id = id → t.name = name

/-- A stored version owns its id. -/
theorem owned_of_mem (h : s.Consistent) {t : TemplateVersion}
    (ht : t ∈ s.templates) :
    s.Owned t.id t.name := by
  refine ⟨h.idsBounded t.id
    (List.mem_append_left _ (List.mem_map_of_mem ht)), ?_⟩
  intro u hu hid
  rw [h.template_eq hu ht hid]

/-- **Ids stay.**  An id that was given goes to no other name. -/
theorem owned_effect (heffect : Effect now s call after) {id : Int}
    {name : String} (howned : s.Owned id name) : after.Owned id name := by
  obtain ⟨hbound, hname⟩ := howned
  cases heffect with
  | nothing => exact ⟨hbound, hname⟩
  | inserted new entry hnext hfree =>
      refine ⟨?_, fun t ht hid => ?_⟩
      · show id ≤ s.lastId + 1 + 1
        omega
      · rcases List.mem_append.mp ht with hold | hnew
        · exact hname t hold hid
        · obtain rfl := List.mem_singleton.mp hnew
          simp only [NewVersion.withId] at hid
          omega
  | @swapped target htarget author notes =>
      refine ⟨?_, fun t ht hid => ?_⟩
      · show id ≤
          (s.stepAside now target author notes (s.otherActive? target)).lastId +
          1
        cases s.otherActive? target with
        | none =>
            show id ≤ s.lastId + 1
            omega
        | some old =>
            show id ≤ s.lastId + 1 + 1
            omega
      · rw [templates_swapped] at ht
        obtain ⟨u, hu, rfl⟩ := List.mem_map.mp ht
        rw [swappedRow_id] at hid
        rw [swappedRow_name]
        exact hname u hu hid
  | familyDeleted gone =>
      exact ⟨hbound, fun t ht => hname t (List.mem_filter.mp ht).1⟩
  | rendered ht unresolvedCount =>
      refine ⟨?_, hname⟩
      show id ≤ s.lastId + 1
      omega
  | @put new prepared hprepared hcheck =>
      refine ⟨?_, ?_⟩
      · show id ≤ s.lastId + 1
        omega
      · show ∀ t ∈ (s.retired now prepared.name).templates, t.id = id →
          t.name = name
        rw [templates_retired]
        exact hname
  | retired gone =>
      unfold Owned
      rw [templates_retired, lastId_retired]
      exact ⟨hbound, hname⟩
  | used other => exact ⟨hbound, hname⟩

end Memory

end TemplateRegistry
