import TemplateRegistry.Proofs.DatabaseReads
/-!
# Writing components in the database

A component is put in place of the active one, made inactive, or counted once
more.  The row that is active is the only one of its id and the only active one
of its name, so a statement about it by its id is one about the active version.

* `carryOut_deactivateComponent`, `written_retireWrites` — the active version
  made inactive, in both stores;
* `putComponent_agrees`, `deactivateComponent_agrees`,
  `incrementComponentUsage_agrees` — the calls.
-/

namespace TemplateRegistry.Database

open Dialogue

variable {s : Memory}

/-- The active one of the versions of a component. -/
theorem find?_componentFamily (name : String) (s : Memory) :
    (s.components.filter fun c => c.name = name).find? Component.isActive =
      s.activeComponent? name := by
  rw [Memory.activeComponent?, List.find?_filter]
  congr 1
  funext c
  simp

/-- The statements that make a component inactive. -/
def retireWrites : Option Component → List Statement
  | none => []
  | some previous => [.deactivateComponent previous.id]

/-- Making the active version of a component inactive touches no other. -/
theorem carryOut_deactivateComponent {name : String} {c : Component}
    (hc : s.activeComponent? name = some c)
    (hone : ∀ d ∈ s.components, d.id = c.id → d = c) (id : Int)
    (now : Timestamp) :
    (Statement.deactivateComponent c.id).carryOut id now s =
      s.retired now name := by
  obtain ⟨-, -, hactive⟩ := Memory.activeComponent?_mem hc
  have hcomponents : (s.components.map fun d =>
      if d.id = c.id ∧ d.isActive = true then d.deactivated now else d) =
      s.components.map fun d =>
        if d.id = c.id then d.deactivated now else d := by
    refine List.map_congr_left fun d hd => ?_
    by_cases hid : d.id = c.id
    · obtain rfl := hone d hd hid
      simp [hactive]
    · simp [hid]
  rw [Memory.retired, hc, Statement.carryOut_deactivateComponent, hcomponents]
  rfl

/-- No other version of a component has the id of an active one. -/
theorem eq_activeComponent (h : s.Consistent) {name : String} {c : Component}
    (hc : s.activeComponent? name = some c) : ∀ d ∈ s.components, d.id = c.id →
      d = c :=
  fun _ hd hid => h.component_eq hd (Memory.activeComponent?_mem hc).1 hid

/-- What makes a component inactive does as the store in memory does. -/
theorem written_retireWrites {name : String}
    (hone : ∀ c, s.activeComponent? name = some c →
      ∀ d ∈ s.components, d.id = c.id → d = c)
    (now : Timestamp) :
    s.written now (retireWrites (s.activeComponent? name)) =
      s.retired now name := by
  cases hactive : s.activeComponent? name with
  | none => rw [Memory.retired, hactive, retireWrites, Memory.written]
  | some c =>
      rw [retireWrites, Memory.written, Memory.written,
        carryOut_deactivateComponent hactive (hone c hactive)]

/-- The active version of a component is switched off, and the journal has the
statement. -/
theorem ensures_deactivateActive (h : s.Consistent) {name : String}
    {Q : Except EngineError Unit → Session → Prop}
    (hQ : ∀ now, Q (.ok ()) ⟨s.retired now name,
      [], some (retireWrites (s.activeComponent? name))⟩) :
    Ensures (deactivateActive (s.components.filter fun c => c.name = name)) Q
      ⟨s, [], some []⟩ := by
  rw [deactivateActive, find?_componentFamily]
  cases hactive : s.activeComponent? name with
  | none =>
      have hend := hQ ⟨0, 0⟩
      rw [Memory.retired, hactive] at hend
      exact hend
  | some previous =>
      rw [hactive] at hQ
      refine ensures_sendOr_bind fun id now _ after _ hafter => ?_
      obtain rfl : after =
          (Statement.deactivateComponent previous.id).carryOut id now s :=
        hafter
      rw [carryOut_deactivateComponent hactive (eq_activeComponent h hactive)]
      exact hQ now

/-- A session that stored the component agrees. -/
theorem agrees_of_put (h : s.Consistent) {new prepared : NewComponent}
    (hprepared : new.prepared = .ok prepared)
    (hcycle : checkCycle prepared.name prepared.content
      (componentTexts s.activeComponents) = .ok ()) {version : Int}
    (hversion : version = highestVersion
      ((s.components.filter fun c =>
        c.name = prepared.name).map Component.version) + 1)
    (id : Int) (now : Timestamp) (after : Memory) :
    Agrees s (.putComponent new) (.ok (prepared.withId id version now))
      ⟨after, retireWrites (s.activeComponent? prepared.name) ++
        [.insertComponent prepared version],
        none⟩ := by
  have hid : id - 1 + 1 = id := Int.sub_add_cancel id 1
  have hc : prepared.withId id version now =
    prepared.withId (id - 1 + 1) (highestVersion
      ((s.components.filter fun c =>
        c.name = prepared.name).map Component.version) + 1) now := by
    rw [hid, hversion]
  have hanswer :
      Memory.answer now (.putComponent new) { s with lastId := id - 1 } = _ :=
    Memory.putComponent_of_checked (s := { s with lastId := id - 1 }) hprepared
      hcycle now hc
  have hretired :
      Memory.written now (retireWrites (s.activeComponent? prepared.name))
      { s with lastId := id - 1 } =
        Memory.retired now prepared.name { s with lastId := id - 1 } :=
    written_retireWrites (s := { s with lastId := id - 1 })
      (fun _ => eq_activeComponent h) now
  have hlast :
      (Memory.retired now prepared.name { s with lastId := id - 1 }).lastId +
      1 = id := by
    rw [Memory.lastId_retired, hid]
  refine agrees_of_answer _ hanswer ?_ (fun _ => ?_) after
  · rw [Memory.written_append, hretired, Memory.written, Memory.written,
      Statement.carryOut_insertComponent, hlast]
  · cases hactive : s.activeComponent? prepared.name with
    | none => exact ⟨trivial, trivial⟩
    | some previous =>
        obtain ⟨hmem, -, hisActive⟩ := Memory.activeComponent?_mem hactive
        exact ⟨⟨previous, hmem, rfl, hisActive⟩, trivial, trivial⟩

/-- Storing a component does what the store in memory does. -/
theorem putComponent_agrees (h : s.Consistent) (new : NewComponent) :
    Ensures (putComponent new) (Agrees s (.putComponent new)) ⟨s, .empty⟩ := by
  refine ensures_ofExcept_bind (fun error herror => ?_)
    fun prepared hprepared => ?_
  · refine agrees_of_unchanged (.putComponent new) ⟨0, 0⟩ (.error error) ?_ _
    rw [Memory.answer, Memory.putComponent, herror]
  · refine ensures_transaction
      (ensures_query_bind rfl fun _ now family hfamily => ?_)
    obtain rfl := Memory.componentFamily_of_reply h hfamily
    refine ensures_query_bind rfl fun _ _ active hactive => ?_
    obtain rfl := Memory.activeComponents_of_reply h hactive
    rw [Memory.componentTexts_sortByName h]
    refine ensures_ofExcept_bind (fun error herror after => ?_)
      fun _ hcycle => ?_
    · refine agrees_of_unchanged (.putComponent new) now (.error error) ?_ _
      simp [Memory.answer, Memory.putComponent, hprepared, herror]
    · refine ensures_bind (ensures_deactivateActive h fun _ => ?_)
      refine ensures_sendOr fun id now c after hc _ => ?_
      obtain ⟨rfl, -⟩ := hc
      exact agrees_of_put h hprepared hcycle rfl id now after

/-- A version of a component is found again after it was made inactive. -/
theorem find?_retired (h : s.Consistent) {name : String} {c : Component}
    (hc : s.activeComponent? name = some c) (now : Timestamp) :
    (s.retired now name).components.find? (fun d => d.id = c.id) =
      some (c.deactivated now) := by
  have hmem := (Memory.activeComponent?_mem hc).1
  have hstored : c.deactivated now ∈ (s.retired now name).components := by
    rw [Memory.retired, hc]
    exact List.mem_map.mpr ⟨c, hmem, by simp⟩
  cases hfind : (s.retired now name).components.find? fun d => d.id = c.id with
  | none => simpa [Component.deactivated]
      using List.find?_eq_none.mp hfind _ hstored
  | some d =>
      have hid : d.id = c.id := by simpa using List.find?_some hfind
      rw [(h.retired now name).component_eq (List.mem_of_find?_eq_some hfind)
        hstored hid]

/-- Switching a component off does what the store in memory does. -/
theorem deactivateComponent_agrees (h : s.Consistent) (name : String) :
    Ensures (deactivateComponent name) (Agrees s (.deactivateComponent name))
      ⟨s, .empty⟩ := by
  refine ensures_transaction
    (ensures_query_bind rfl fun _ now family hfamily => ?_)
  obtain rfl := Memory.componentFamily_of_reply h hfamily
  rw [find?_componentFamily]
  cases hactive : s.activeComponent? name with
  | none =>
      refine ensures_found_bind (fun _ after => ?_) fun c hc => by simp at hc
      refine agrees_of_unchanged (.deactivateComponent name) now (.error _) ?_ _
      rw [Memory.answer, Memory.deactivateComponent, hactive]
  | some c =>
      refine ensures_found_bind (fun hnone => by simp at hnone) fun c' hc => ?_
      obtain rfl := Option.some.inj hc
      by_cases hused : 0 < c.usageCount
      · rw [if_pos hused]
        refine ensures_fail fun after => ?_
        refine agrees_of_unchanged (.deactivateComponent name) now
          (.error _) ?_ _
        simp [Memory.answer, Memory.deactivateComponent, hactive, hused]
      · rw [if_neg hused]
        refine ensures_sendOr_bind fun id now _ after _ hafter => ?_
        obtain rfl : after =
            (Statement.deactivateComponent c.id).carryOut id now s :=
          hafter
        rw [carryOut_deactivateComponent hactive (eq_activeComponent h hactive)]
        refine ensures_query_bind rfl fun _ _ row hrow => ?_
        obtain rfl := Memory.component_of_reply (h.retired now name) hrow
        rw [find?_retired h hactive now]
        refine ensures_found ?_
        have hanswer : Memory.answer now (.deactivateComponent name) s =
            (.ok (c.deactivated now), s.retired now name) := by
          simp only [Memory.answer, Memory.deactivateComponent, Memory.retired,
            hactive, if_neg hused]
          rfl
        obtain ⟨hmem, -, hisActive⟩ := Memory.activeComponent?_mem hactive
        refine agrees_of_answer [.deactivateComponent c.id] hanswer ?_
          (fun _ => ⟨⟨c, hmem, rfl, hisActive⟩, trivial⟩) _
        rw [← carryOut_deactivateComponent hactive
          (eq_activeComponent h hactive) (s.lastId + 1)]
        rfl

/-- Changing a component that is not there changes nothing. -/
theorem updateComponent_of_absent {id : Int}
    (hnone : ∀ c ∈ s.components, c.id ≠ id) (change : Component → Component) :
    s.updateComponent id change = s := by
  have hcomponents :
      (s.components.map fun c => if c.id = id then change c else c) =
      s.components := by
    conv_rhs => rw [← List.map_id s.components]
    exact List.map_congr_left fun c hc => if_neg (hnone c hc)
  rw [Memory.updateComponent, hcomponents]

/-- Whether a use counts as a change is a matter of time only. -/
theorem withoutTimes_usedOnceMore (now : Timestamp) (id : Int) (s : Memory) :
    ((Statement.incrementUsage id).carryOut (s.lastId + 1) now s).withoutTimes =
      (s.updateComponent id Component.usedOnceMore).withoutTimes := by
  simp only [Statement.carryOut_incrementUsage, Memory.withoutTimes,
    Memory.updateComponent, List.map_map]
  congr 1
  refine List.map_congr_left fun c _ => ?_
  simp only [Function.comp]
  split <;> rfl

/-- Counting a use does what the store in memory does. -/
theorem incrementComponentUsage_agrees (id : Int) :
    Ensures (incrementComponentUsage id)
      (Agrees s (.incrementComponentUsage id)) ⟨s, .empty⟩ := by
  refine ensures_sendOr_bind fun _ now count after hcount _ => ?_
  cases hany : s.components.any fun c => c.id = id with
  | false =>
      have hnone : ∀ c ∈ s.components, c.id ≠ id := by simpa using hany
      have hzero : count = 0 := by
        rw [hcount, List.length_eq_zero_iff, List.filter_eq_nil_iff]
        exact fun c hc => by simpa using hnone c hc
      have hanswer : Memory.answer now (.incrementComponentUsage id) s =
          (.error (.componentNotFound (toString id)), s) := by
        rw [Memory.answer, Memory.incrementComponentUsage,
          if_neg (by simp [hany])]
      rw [if_pos hzero]
      refine ensures_fail
        (agrees_of_answer [.incrementUsage id] hanswer ?_ (fun hok => ?_) after)
      · exact congrArg Memory.withoutTimes (updateComponent_of_absent hnone _)
      · simp [Except.isOk, Except.toBool] at hok
  | true =>
      obtain ⟨c, hc, hid⟩ := List.any_eq_true.mp hany
      have hid : c.id = id := by simpa using hid
      have hne : count ≠ 0 := by
        rw [hcount]
        exact List.length_pos_iff.mpr
          (List.ne_nil_of_mem (List.mem_filter.mpr ⟨hc, by simpa using hid⟩))
          |>.ne'
      have hanswer : Memory.answer now (.incrementComponentUsage id) s =
          (.ok (), s.updateComponent id Component.usedOnceMore) := by
        rw [Memory.answer, Memory.incrementComponentUsage, if_pos hany]
        rfl
      rw [if_neg hne]
      refine ensures_pure (agrees_of_answer [.incrementUsage id] hanswer ?_
        (fun _ => ⟨⟨c, hc, hid⟩, trivial⟩) after)
      exact withoutTimes_usedOnceMore now id s

end TemplateRegistry.Database
