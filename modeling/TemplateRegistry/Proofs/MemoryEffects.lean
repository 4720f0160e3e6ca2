import TemplateRegistry.Proofs.VersionSeries
/-!
# What each call does to a store in memory

A call of the store either fails and leaves the state alone, or does one of a
few things to it.  The lemmas named `…_cases` say for each writing call which,
and with what result; `Effect` says it of all calls.  Everything about the
states of a store is derived from them, so that no other proof opens the calls
themselves.

* `insertVersion_cases`, `swapActive_cases`, `deleteFamily_cases`,
  `recordTemplateUsage_cases` — the calls on templates;
* `putComponent_cases`, `deactivateComponent_cases`,
  `incrementComponentUsage_cases` — the calls on components;
* `Effect`, `effect_answer` — what any call can do to a state;
* `Reachable` — the states that calls lead to from the empty store.
-/

namespace TemplateRegistry

/-- A component made inactive. -/
def Component.deactivated (now : Timestamp) (c : Component) : Component :=
  { c with isActive := false, updatedAt := now }

/-- A component with one more use. -/
def Component.usedOnceMore (c : Component) : Component :=
  { c with usageCount := c.usageCount + 1 }

/-- Preparing a component keeps its name and its text. -/
theorem NewComponent.prepared_eq_ok {new prepared : NewComponent}
    (h : new.prepared = .ok prepared) :
    prepared.name = new.name ∧ prepared.content = new.content := by
  unfold NewComponent.prepared at h
  cases hname : validateName new.name with
  | error error => simp [hname, bind, Except.bind] at h
  | ok _ =>
      cases hcontent : validateContent new.content with
      | error error => simp [hname, hcontent, bind, Except.bind] at h
      | ok _ =>
          simp only [hname, hcontent, bind, Except.bind] at h
          split at h
          · simp at h
          · split at h
            · simp at h
            · simp only [pure, Except.pure, Except.ok.injEq] at h
              subst h
              exact ⟨rfl, rfl⟩

namespace Memory

variable {s : Memory}

/-- The state with a version more, under the id given last. -/
def addVersion (t : TemplateVersion) (s : Memory) : Memory :=
  { s with lastId := t.id, templates := s.templates ++ [t] }

/-- The state with a version of a component more, under the id given last. -/
def addComponent (c : Component) (s : Memory) : Memory :=
  { s with lastId := c.id, components := s.components ++ [c] }

/-- The state with the record of a render more, under the id given last. -/
def addUsage (record : UsageRecord) (s : Memory) : Memory :=
  { s with lastId := record.id, usage := s.usage ++ [record] }

/-- The state with a version made inactive and logged, to make place for
another. -/
def stepAside (now : Timestamp) (target : TemplateVersion) (author : String)
    (notes : Option String) (previous : Option TemplateVersion) (s : Memory) :
    Memory :=
  match previous with
  | none => s
  | some old =>
    (s.setActive now old.id false).appendLog now
      (.deactivated target.name old.ref target.ref author notes)

/-- The active version of a name besides a given one. -/
def otherActive? (target : TemplateVersion) (s : Memory) :
    Option TemplateVersion :=
  (s.family target.name).find? fun t => t.isActive && t.id ≠ target.id

/-- The state with a version active in place of the one that was. -/
def swapped (now : Timestamp) (target : TemplateVersion) (author : String)
    (notes : Option String) (s : Memory) : Memory :=
  let previous := s.otherActive? target
  ((s.stepAside now target author notes previous).setActive now
    target.id true).appendLog now
    (.activated target.name target.ref (previous.map TemplateVersion.ref)
      author notes)

/-- The state without the versions of a name, their usage records and the log of
the name. -/
def withoutFamily (name : String) (s : Memory) : Memory :=
  let ids := (s.family name).map TemplateVersion.id
  { s with
    templates := s.templates.filter fun t => t.id ∉ ids
    usage := s.usage.filter fun u => u.templateId ∉ ids
    log := s.log.filter fun e => e.templateName ≠ name }

/-- The state with the active version of a component made inactive. -/
def retired (now : Timestamp) (name : String) (s : Memory) : Memory :=
  match s.activeComponent? name with
  | none => s
  | some previous => s.updateComponent previous.id (Component.deactivated now)

/-- Calls on components leave the templates alone. -/
theorem templates_retired (now : Timestamp) (name : String) (s : Memory) :
    (s.retired now name).templates = s.templates := by
  unfold retired
  split <;> rfl

/-- Switching versions of a component off gives out no id. -/
theorem lastId_retired (now : Timestamp) (name : String) (s : Memory) :
    (s.retired now name).lastId = s.lastId := by
  unfold retired
  split <;> rfl

/-- Calls on templates leave the components alone. -/
theorem components_swapped (now : Timestamp) (target : TemplateVersion)
    (author : String) (notes : Option String) (s : Memory) :
    (s.swapped now target author notes).components = s.components := by
  show
    (s.stepAside now target author notes (s.otherActive? target)).components =
      s.components
  cases s.otherActive? target <;> rfl

/-! ### Looking up versions -/

/-- What was found was there. -/
theorem found_eq_ok {α : Type} {error : RegistryError} {o : Option α}
    {value : α} (h : found error o = .ok value) : o = some value := by
  cases o with
  | none => cases h
  | some other => rw [Except.ok.inj h]

/-- A version found by its id is stored with that id. -/
theorem template?_mem {id : Int} {t : TemplateVersion}
    (h : s.template? id = some t) :
    t ∈ s.templates ∧ t.id = id := by
  have hid := List.find?_some h
  exact ⟨List.mem_of_find?_eq_some h, by simpa using hid⟩

/-- The family of a name is the versions that have it. -/
theorem mem_family {name : String} {t : TemplateVersion} :
    t ∈ s.family name ↔ t ∈ s.templates ∧ t.name = name := by
  simp [family]

/-- The active version of a name is an active one of its family. -/
theorem active?_mem {name : String} {t : TemplateVersion}
    (h : s.active? name = some t) :
    t ∈ s.templates ∧ t.name = name ∧ t.isActive = true := by
  have hmem := mem_family.mp (List.mem_of_find?_eq_some h)
  exact ⟨hmem.1, hmem.2, List.find?_some h⟩

/-- A name without an active version has inactive ones only. -/
theorem active?_eq_none {name : String} :
    s.active? name = none ↔
      ∀ t ∈ s.templates, t.name = name → t.isActive = false := by
  simp only [active?, List.find?_eq_none, mem_family, Bool.not_eq_true]
  exact ⟨fun h t ht hname => h t ⟨ht, hname⟩, fun h t ht => h t ht.1 ht.2⟩

/-- Another active version is one of the same name and under another id. -/
theorem otherActive?_mem {target t : TemplateVersion}
    (h : s.otherActive? target = some t) :
    t ∈ s.templates ∧ t.name = target.name ∧ t.isActive = true ∧
    t.id ≠ target.id := by
  have hmem := mem_family.mp (List.mem_of_find?_eq_some h)
  have hactive := List.find?_some h
  simp only [ne_eq, Bool.and_eq_true, decide_eq_true_eq] at hactive
  exact ⟨hmem.1, hmem.2, hactive.1, by simpa using hactive.2⟩

/-- Without another active version, the target is the only one that can be
active. -/
theorem otherActive?_eq_none {target : TemplateVersion}
    (h : s.otherActive? target = none) :
    ∀ t ∈ s.templates, t.name = target.name → t.isActive = true →
      t.id = target.id := by
  intro t ht hname hactive
  have hnot := List.find?_eq_none.mp h t (mem_family.mpr ⟨ht, hname⟩)
  simpa [hactive] using hnot

/-- The active version of a component is an active one of its name. -/
theorem activeComponent?_mem {name : String} {c : Component}
    (h : s.activeComponent? name = some c) :
    c ∈ s.components ∧ c.name = name ∧ c.isActive = true := by
  have hc := List.find?_some h
  simp only [Bool.and_eq_true, decide_eq_true_eq] at hc
  exact ⟨List.mem_of_find?_eq_some h, hc.1, hc.2⟩

/-- A component without an active version has inactive ones only. -/
theorem activeComponent?_eq_none {name : String} :
    s.activeComponent? name = none ↔
      ∀ c ∈ s.components, c.name = name → c.isActive = false := by
  simp [activeComponent?]

/-- Looking up a version after one was made active or inactive. -/
theorem template?_setActive (now : Timestamp) (id other : Int) (b : Bool)
    (s : Memory) :
    (s.setActive now id b).template? other = (s.template? other).map fun t =>
      if t.id = id then { t with isActive := b, updatedAt := now } else t := by
  have hid : ((fun t : TemplateVersion => decide (t.id = other)) ∘ fun t :
    TemplateVersion =>
      if t.id = id then { t with isActive := b, updatedAt := now } else t) =
      fun t => decide (t.id = other) := by
    funext t
    simp only [Function.comp]
    split <;> rfl
  simp only [template?, setActive, List.find?_map, hid]

/-- Making place for a version leaves that version as it is. -/
theorem template?_stepAside {target : TemplateVersion}
    (h : s.template? target.id = some target) (now : Timestamp)
    (author : String) (notes : Option String) :
    (s.stepAside now target author notes (s.otherActive? target)).template?
      target.id =
      some target := by
  cases hother : s.otherActive? target with
  | none => exact h
  | some old =>
      have hne : target.id ≠ old.id := (otherActive?_mem hother).2.2.2.symm
      have hset := template?_setActive now old.id target.id false s
      simp only [h, Option.map_some, hne, if_false] at hset
      exact hset

/-! ### The writing calls -/

/-- A version that follows the highest one is the next. -/
theorem checkSequence_eq_ok {name : String} {highest expected : Int}
    (h : checkSequence name highest expected = .ok ()) :
    highest + 1 = expected := by
  unfold checkSequence at h
  split at h
  · assumption
  · split at h <;> simp at h

/-- A version that passes the checks is written. -/
theorem insertVersion_of_checked {new : NewVersion}
    (hcheck :
      checkSequence new.name (s.maxVersion new.name) new.version = .ok ())
    (hfree : new.isActive = true → s.active? new.name = none) (now : Timestamp)
    (entry : NewLogEntry) :
    insertVersion now new entry s =
      (.ok (new.withId (s.lastId + 1) now),
        (s.addVersion (new.withId (s.lastId + 1) now)).appendLog now
          entry) := by
  rw [insertVersion, hcheck]
  cases hactive : new.isActive with
  | true =>
      simp only [if_true, hfree hactive]
      rfl
  | false =>
      simp only [if_false, Bool.false_eq_true]
      rfl

/-- A new version is refused, or it is the next of its family, and is stored
together with its entry of the log. -/
theorem insertVersion_cases (now : Timestamp) (new : NewVersion)
    (entry : NewLogEntry) (s : Memory) :
    (∃ error, insertVersion now new entry s = (.error error, s)) ∨
    (new.version = s.maxVersion new.name + 1 ∧
      (new.isActive = true → s.active? new.name = none) ∧
      insertVersion now new entry s =
        (.ok (new.withId (s.lastId + 1) now),
          (s.addVersion (new.withId (s.lastId + 1) now)).appendLog now
            entry)) := by
  cases hcheck : checkSequence new.name (s.maxVersion new.name) new.version with
  | error error => exact Or.inl ⟨error, by simp [insertVersion, hcheck]⟩
  | ok _ =>
      by_cases hactive : new.isActive = true
      · cases htaken : s.active? new.name with
        | some active =>
            exact Or.inl ⟨.alreadyActive new.name active.version,
              by simp [insertVersion, hcheck, hactive, htaken]⟩
        | none =>
            exact Or.inr ⟨(checkSequence_eq_ok hcheck).symm, fun _ => rfl,
              insertVersion_of_checked hcheck (fun _ => htaken) now entry⟩
      · exact Or.inr ⟨(checkSequence_eq_ok hcheck).symm,
          fun h => (hactive h).elim,
          insertVersion_of_checked hcheck (fun h => (hactive h).elim) now entry⟩

/-- A version that is not active takes over. -/
theorem swapActive_of_inactive {target : TemplateVersion}
    (htarget : s.template? target.id = some target)
    (hinactive : target.isActive = false) (now : Timestamp) (author : String)
    (notes : Option String) :
    swapActive now target.id author notes s =
      (.ok { target with isActive := true, updatedAt := now },
        s.swapped now target author notes) := by
  have haside := template?_stepAside htarget now author notes
  have hfound := template?_setActive now target.id target.id true
    (s.stepAside now target author notes (s.otherActive? target))
  rw [haside] at hfound
  simp only [Option.map_some, if_true] at hfound
  simp only [swapActive, htarget, hinactive, if_false, Bool.false_eq_true]
  unfold stepAside otherActive? at hfound
  unfold swapped stepAside otherActive?
  split
  · rename_i hnone
    exact absurd (hnone.symm.trans hfound) (by simp)
  · rename_i activated hsome
    obtain rfl := Option.some.inj (hsome.symm.trans hfound)
    rfl

/-- A version is not made active, or it was already, or the other active version
and it change places. -/
theorem swapActive_cases (now : Timestamp) (id : Int) (author : String)
    (notes : Option String) (s : Memory) :
    (∃ error, swapActive now id author notes s = (.error error, s)) ∨
    (∃ target, s.template? id = some target ∧ target.isActive = true ∧
      swapActive now id author notes s = (.ok target, s)) ∨
    (∃ target, s.template? id = some target ∧ target.isActive = false ∧
      swapActive now id author notes s =
        (.ok { target with isActive := true, updatedAt := now },
          s.swapped now target author notes)) := by
  cases htarget : s.template? id with
  | none => exact Or.inl ⟨_, by rw [swapActive, htarget]⟩
  | some target =>
      obtain ⟨-, rfl⟩ := template?_mem htarget
      cases hactive : target.isActive with
      | true => exact Or.inr (Or.inl ⟨target, rfl, hactive, by
          simp [swapActive, htarget, hactive]⟩)
      | false =>
          exact Or.inr (Or.inr ⟨target, rfl, hactive,
            swapActive_of_inactive htarget hactive now author notes⟩)

/-- There is nothing to delete, or the whole family is deleted. -/
theorem deleteFamily_cases (name : String) (s : Memory) :
    (s.family name = [] ∧ ∃ error, deleteFamily name s = (.error error, s)) ∨
    (s.family name ≠ [] ∧
      deleteFamily name s = (.ok (s.family name).length,
        s.withoutFamily name)) := by
  unfold deleteFamily
  cases hfamily : s.family name with
  | nil => exact Or.inl ⟨rfl, _, rfl⟩
  | cons t rest =>
      refine Or.inr ⟨by simp, ?_⟩
      simp [withoutFamily, hfamily]

/-- A use is refused, or recorded under the next id. -/
theorem recordTemplateUsage_cases (now : Timestamp) (id unresolvedCount : Int)
    (s : Memory) :
    (∃ error, recordTemplateUsage now id unresolvedCount s =
      (.error error, s)) ∨
    (∃ t, s.template? id = some t ∧
      recordTemplateUsage now id unresolvedCount s =
        (.ok (), s.addUsage ⟨s.lastId + 1, id, unresolvedCount, now⟩)) := by
  unfold recordTemplateUsage
  cases htarget : s.template? id with
  | none => exact Or.inl ⟨_, rfl⟩
  | some t => exact Or.inr ⟨t, rfl, rfl⟩

/-- A component that passes the checks is written in place of the active one. -/
theorem putComponent_of_checked {new prepared : NewComponent}
    (hprepared : new.prepared = .ok prepared)
    (hcycle : checkCycle prepared.name prepared.content
      (componentTexts s.activeComponents) = .ok ()) (now : Timestamp)
    {c : Component} (hc : c = prepared.withId (s.lastId + 1) (highestVersion
      ((s.components.filter fun c =>
        c.name = prepared.name).map Component.version) + 1) now) :
    putComponent now new s =
      (.ok c, (s.retired now prepared.name).addComponent c) := by
  subst hc
  simp only [putComponent, hprepared, hcycle]
  cases hactive : s.activeComponent? prepared.name with
  | none => simp [retired, hactive, addComponent, NewComponent.withId]
  | some previous =>
      simp [retired, hactive, addComponent, NewComponent.withId,
        updateComponent, Component.deactivated]

/-- A component is refused, or it closes no cycle and takes the place of the
versions before it. -/
theorem putComponent_cases (now : Timestamp) (new : NewComponent) (s : Memory) :
    (∃ error, putComponent now new s = (.error error, s)) ∨
    (∃ prepared c, new.prepared = .ok prepared ∧
      checkCycle prepared.name prepared.content
        (componentTexts s.activeComponents) = .ok () ∧
      c = prepared.withId (s.lastId + 1) (highestVersion
        ((s.components.filter fun c =>
          c.name = prepared.name).map Component.version) + 1) now ∧
      putComponent now new s =
        (.ok c, (s.retired now prepared.name).addComponent c)) := by
  cases hprepared : new.prepared with
  | error error => exact Or.inl ⟨error, by rw [putComponent, hprepared]⟩
  | ok prepared =>
      cases hcycle : checkCycle prepared.name prepared.content
          (componentTexts s.activeComponents) with
      | error error =>
          exact Or.inl ⟨error, by simp [putComponent, hprepared, hcycle]⟩
      | ok _ =>
          exact Or.inr ⟨prepared, _, rfl, hcycle, rfl,
            putComponent_of_checked hprepared hcycle now rfl⟩

/-- A component is not switched off, or it was not used and is. -/
theorem deactivateComponent_cases (now : Timestamp) (name : String)
    (s : Memory) :
    (∃ error, deactivateComponent now name s = (.error error, s)) ∨
    (∃ c, s.activeComponent? name = some c ∧ c.usageCount ≤ 0 ∧
      deactivateComponent now name s = (.ok (c.deactivated now),
        s.retired now name)) := by
  unfold deactivateComponent retired
  cases hactive : s.activeComponent? name with
  | none => exact Or.inl ⟨_, rfl⟩
  | some c =>
      by_cases hused : 0 < c.usageCount
      · exact Or.inl ⟨_, by simp [hused]; rfl⟩
      · refine Or.inr ⟨c, rfl, by omega, ?_⟩
        simp only [hused, if_false]
        rfl

/-- A use is refused, or counted. -/
theorem incrementComponentUsage_cases (id : Int) (s : Memory) :
    (∃ error, incrementComponentUsage id s = (.error error, s)) ∨
    incrementComponentUsage id s =
      (.ok (), s.updateComponent id Component.usedOnceMore) := by
  unfold incrementComponentUsage
  split
  · exact Or.inr rfl
  · exact Or.inl ⟨_, rfl⟩

/-- What a call at an instant can do to a state. -/
inductive Effect (now : Timestamp) (s : Memory) : StoreCall → Memory → Prop
  /-- A read, a call that fails, or one that finds nothing to do. -/
  | nothing (call : StoreCall) : Effect now s call s
  | inserted (new : NewVersion) (entry : NewLogEntry)
      (hnext : new.version = s.maxVersion new.name + 1)
      (hfree : new.isActive = true → s.active? new.name = none) :
      Effect now s (.insertVersion new entry)
        ((s.addVersion (new.withId (s.lastId + 1) now)).appendLog now entry)
  | swapped {target : TemplateVersion}
      (htarget : s.template? target.id = some target)
      (author : String) (notes : Option String) :
      Effect now s (.swapActive target.id author notes)
        (s.swapped now target author notes)
  | familyDeleted (name : String) :
      Effect now s (.deleteFamily name) (s.withoutFamily name)
  | rendered {t : TemplateVersion} (ht : t ∈ s.templates)
      (unresolvedCount : Int) :
      Effect now s (.recordTemplateUsage t.id unresolvedCount)
        (s.addUsage ⟨s.lastId + 1, t.id, unresolvedCount, now⟩)
  | put (new : NewComponent) {prepared : NewComponent}
      (hprepared : new.prepared = .ok prepared)
      (hcheck : checkCycle prepared.name prepared.content
        (componentTexts s.activeComponents) = .ok ()) :
      Effect now s (.putComponent new)
        ((s.retired now prepared.name).addComponent (prepared.withId
          (s.lastId + 1) (highestVersion ((s.components.filter fun c =>
              c.name = prepared.name).map
            Component.version) + 1) now))
  | retired (name : String) :
      Effect now s (.deactivateComponent name) (s.retired now name)
  | used (id : Int) :
      Effect now s (.incrementComponentUsage id)
        (s.updateComponent id Component.usedOnceMore)

/-- **Every call** does one of these things. -/
theorem effect_answer (now : Timestamp) (call : StoreCall) (s : Memory) :
    Effect now s call (answer now call s).2 := by
  cases call with
  | insertVersion new entry =>
      show Effect now s _ (insertVersion now new entry s).2
      rcases insertVersion_cases now new entry s with ⟨error, heq⟩ |
        ⟨hnext, hfree, heq⟩
      · rw [heq]
        exact .nothing _
      · rw [heq]
        exact .inserted new entry hnext hfree
  | swapActive id author notes =>
      show Effect now s _ (swapActive now id author notes s).2
      rcases swapActive_cases now id author notes s with
        ⟨error, heq⟩ | ⟨target, -, -, heq⟩ | ⟨target, htarget, -, heq⟩
      · rw [heq]
        exact .nothing _
      · rw [heq]
        exact .nothing _
      · rw [heq]
        obtain ⟨-, rfl⟩ := template?_mem htarget
        exact .swapped htarget author notes
  | deleteFamily name =>
      show Effect now s _ (deleteFamily name s).2
      rcases deleteFamily_cases name s with ⟨-, error, heq⟩ | ⟨-, heq⟩
      · rw [heq]
        exact .nothing _
      · rw [heq]
        exact .familyDeleted name
  | recordTemplateUsage id unresolvedCount =>
      show Effect now s _ (recordTemplateUsage now id unresolvedCount s).2
      rcases recordTemplateUsage_cases now id unresolvedCount s
        with ⟨error, heq⟩ | ⟨t, ht, heq⟩
      · rw [heq]
        exact .nothing _
      · rw [heq]
        obtain ⟨hmem, rfl⟩ := template?_mem ht
        exact .rendered hmem unresolvedCount
  | putComponent new =>
      show Effect now s _ (putComponent now new s).2
      rcases putComponent_cases now new s with
        ⟨error, heq⟩ | ⟨prepared, c, hprepared, hcheck, rfl, heq⟩
      · rw [heq]
        exact .nothing _
      · rw [heq]
        exact .put new hprepared hcheck
  | deactivateComponent name =>
      show Effect now s _ (deactivateComponent now name s).2
      rcases deactivateComponent_cases now name s with ⟨error, heq⟩ |
        ⟨c, -, -, heq⟩
      · rw [heq]
        exact .nothing _
      · rw [heq]
        exact .retired name
  | incrementComponentUsage id =>
      show Effect now s _ (incrementComponentUsage id s).2
      rcases incrementComponentUsage_cases id s with ⟨error, heq⟩ | heq
      · rw [heq]
        exact .nothing _
      · rw [heq]
        exact .used id
  | _ => exact .nothing _

/-- The states that calls lead to from the empty store, failed calls
included. -/
inductive Reachable : Memory → Prop
  | empty : Reachable Memory.empty
  | call {s : Memory} (h : Reachable s) (now : Timestamp) (call : StoreCall) :
      Reachable (answer now call s).2

end Memory

end TemplateRegistry
