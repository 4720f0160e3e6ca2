import TemplateRegistry.Proofs.IncludeGraph
import TemplateRegistry.Proofs.MemoryConsistency
import TemplateRegistry.Proofs.PrefetchedComponents
import TemplateRegistry.Proofs.ServicePrograms
/-!
# Active components never include each other in a cycle

A component is checked when it is put, against the components that are active
then.  An include of a name that no component has yet is let through, and a
later component of that name may close a cycle over it.  That cycle passes
through the later component, so the check of its own text finds it: no state of
a store has a cycle among its active components, and no render reports one.

* `Includes` — the graph of the active components;
* `acyclic_putComponent` — a component that is put closes no cycle;
* `acyclic_of_reachable` — the run of any calls.
-/

namespace TemplateRegistry.Memory

open Relation (TransGen ReflTransGen)

variable {s : Memory}

/-- An active component includes a name. -/
def Includes (s : Memory) (a b : String) : Prop :=
  ∃ c ∈ s.activeComponents, c.name = a ∧ b ∈ Markup.includesOf c.content.toList

/-- No active component includes itself, directly or over others. -/
def Acyclic (s : Memory) : Prop :=
  ∀ name, ¬ TransGen s.Includes name name

/-- The active components are the components that are active. -/
theorem mem_activeComponents {c : Component} :
    c ∈ s.activeComponents ↔ c ∈ s.components ∧ c.isActive = true := by
  simp [activeComponents]

/-! ### The graph as the renderer sees it -/

/-- A text stands under the name of a component that has it. -/
theorem component_of_text? {components : List Component} {name content : String}
    (h : Markup.Components.text? (componentTexts components) name =
      some content) :
    ∃ c ∈ components, c.name = name ∧ c.content = content := by
  unfold Markup.Components.text? componentTexts at h
  rw [Table.lookup_eq_get?, Table.get?_ofList] at h
  obtain ⟨entry, hlast, rfl⟩ := Option.map_eq_some_iff.mp h
  have hmem := List.mem_of_getLast? hlast
  obtain ⟨hentry, hname⟩ := List.mem_filter.mp hmem
  obtain ⟨c, hc, rfl⟩ := List.mem_map.mp hentry
  exact ⟨c, hc, by simpa using hname, rfl⟩

/-- The active component of a name is the one whose text is taken. -/
theorem text?_of_activeComponent (h : s.Consistent) {c : Component}
    (hc : c ∈ s.activeComponents) :
    Markup.Components.text? (componentTexts s.activeComponents) c.name =
      some c.content := by
  have hcomponent := mem_activeComponents.mp hc
  cases htext :
    Markup.Components.text? (componentTexts s.activeComponents) c.name with
  | none =>
      unfold Markup.Components.text? componentTexts at htext
      rw [Table.lookup_eq_get?, Table.get?_ofList, Option.map_eq_none_iff,
        List.getLast?_eq_none_iff, List.filter_eq_nil_iff] at htext
      exact (htext (c.name, c.content) (List.mem_map.mpr ⟨c, hc, rfl⟩)
        (by simp)).elim
  | some content =>
      obtain ⟨other, hother, hname, rfl⟩ := component_of_text? htext
      obtain ⟨hmem, hactive⟩ := mem_activeComponents.mp hother
      rw [h.activeComponent_eq hmem hcomponent.1 hname hactive hcomponent.2]

/-- The renderer sees the graph of the active components. -/
theorem includes_componentTexts (h : s.Consistent) {a b : String} :
    Markup.Includes (componentTexts s.activeComponents) a b ↔
      s.Includes a b := by
  constructor
  · rintro ⟨content, htext, hb⟩
    obtain ⟨c, hc, hname, rfl⟩ := component_of_text? htext
    exact ⟨c, hc, hname, hb⟩
  · rintro ⟨c, hc, rfl, hb⟩
    exact ⟨c.content, text?_of_activeComponent h hc, hb⟩

/-! ### What calls do to the graph -/

/-- Where nothing new is included, no cycle comes up. -/
theorem Acyclic.of_includes {after : Memory} (h : s.Acyclic)
    (hsub : ∀ a b, after.Includes a b → s.Includes a b) : after.Acyclic :=
  fun name hcycle => h name (TransGen.mono hsub _ _ hcycle)

/-- What is not about components closes no cycle. -/
theorem Acyclic.of_components_eq {after : Memory} (h : s.Acyclic)
    (hcomponents : after.components = s.components) : after.Acyclic := by
  apply h.of_includes
  rintro a b ⟨c, hc, hname, hb⟩
  rw [mem_activeComponents, hcomponents] at hc
  exact ⟨c, mem_activeComponents.mpr hc, hname, hb⟩

/-- Once the active version of a component is made inactive, the active
components are those of other names. -/
theorem mem_activeComponents_retired (h : s.Consistent) {now : Timestamp}
    {name : String} {c : Component}
    (hc : c ∈ (s.retired now name).activeComponents) :
    c ∈ s.activeComponents ∧ c.name ≠ name := by
  obtain ⟨hmem, hactive⟩ := mem_activeComponents.mp hc
  have hnone :=
    activeComponent?_eq_none.mp (activeComponent?_retired h now name)
  refine ⟨?_, fun hname => by simp [hnone c hmem hname] at hactive⟩
  unfold retired at hmem
  split at hmem
  · exact mem_activeComponents.mpr ⟨hmem, hactive⟩
  · rename_i previous _
    obtain ⟨old, hold, rfl⟩ := List.mem_map.mp hmem
    by_cases hid : old.id = previous.id
    · simp [hid, Component.deactivated] at hactive
    · simp only [hid, if_false] at hactive ⊢
      exact mem_activeComponents.mpr ⟨hold, hactive⟩

/-- Switching a component off closes no cycle. -/
theorem Acyclic.retired (h : s.Acyclic) (hs : s.Consistent) (now : Timestamp)
    (name : String) :
    (s.retired now name).Acyclic := by
  apply h.of_includes
  rintro a b ⟨c, hc, hname, hb⟩
  exact ⟨c, (mem_activeComponents_retired hs hc).1, hname, hb⟩

/-- Counting a use closes no cycle. -/
theorem Acyclic.usedOnceMore (h : s.Acyclic) (id : Int) :
    (s.updateComponent id Component.usedOnceMore).Acyclic := by
  apply h.of_includes
  rintro a b ⟨c, hc, hname, hb⟩
  obtain ⟨hmem, hactive⟩ := mem_activeComponents.mp hc
  obtain ⟨old, hold, rfl⟩ := List.mem_map.mp hmem
  refine ⟨old, mem_activeComponents.mpr ⟨hold, ?_⟩, ?_, ?_⟩
  · split at hactive <;> exact hactive
  · split at hname <;> exact hname
  · split at hb <;> exact hb

/-- **A component that is put closes no cycle.**  Every new edge starts at the
component, so a new cycle would pass through it, and then its text would lead
into a cycle, which the check has ruled out. -/
theorem acyclic_putComponent (h : s.Acyclic) (hs : s.Consistent)
    (now : Timestamp) {new : Component} (hactive : new.isActive = true)
    (hcheck :
      checkCycle new.name new.content
      (componentTexts s.activeComponents) = .ok ()) :
    ((s.retired now new.name).addComponent new).Acyclic := by
  let after := (s.retired now new.name).addComponent new
  have hnone :
      Markup.findCycle ((componentTexts s.activeComponents).length + 2) new.name
      new.content (componentTexts s.activeComponents) = none := by
    unfold checkCycle at hcheck
    split at hcheck
    · simp at hcheck
    · assumption
  have hedge : ∀ a b, after.Includes a b →
      (a = new.name ∧ b ∈ Markup.includesOf new.content.toList) ∨
        (a ≠ new.name ∧ s.Includes a b) := by
    rintro a b ⟨c, hc, rfl, hb⟩
    obtain ⟨hmem, hcActive⟩ := mem_activeComponents.mp hc
    rcases List.mem_append.mp hmem with hold | hnew
    · obtain ⟨hkept, hname⟩ :=
        mem_activeComponents_retired hs
          (mem_activeComponents.mpr ⟨hold, hcActive⟩)
      exact Or.inr ⟨hname, c, hkept, rfl, hb⟩
    · obtain rfl := List.mem_singleton.mp hnew
      exact Or.inl ⟨rfl, hb⟩
  -- the check looked at the graph in which the new text already stands under
  -- its name
  have hchecked : ∀ a b, after.Includes a b →
      Markup.Includes
        ((new.name, new.content) :: componentTexts s.activeComponents) a b := by
    intro a b hab
    rcases hedge a b hab with ⟨rfl, hb⟩ | ⟨hne, hold⟩
    · exact ⟨new.content, List.lookup_cons_self, hb⟩
    · obtain ⟨content, htext, hb⟩ := (includes_componentTexts hs).mpr hold
      refine ⟨content, ?_, hb⟩
      unfold Markup.Components.text? at htext ⊢
      rwa [List.lookup_cons, beq_eq_false_iff_ne.mpr hne]
  intro name hcycle
  rcases transGen_old_or_through
      (fun a b hab => (hedge a b hab).imp And.left And.right) hcycle with
    hold | ⟨hto, hfrom⟩
  · exact h name hold
  · have hloop : TransGen after.Includes new.name new.name :=
      hfrom.trans_left hto
    exact Markup.not_looping_of_findCycle hnone
      ⟨new.name, .refl, TransGen.mono hchecked _ _ hloop⟩

/-- An empty store has no cycle. -/
theorem acyclic_empty : Memory.empty.Acyclic := by
  intro name hcycle
  obtain ⟨b, ⟨c, hc, -⟩, -⟩ := TransGen.head'_iff.mp hcycle
  simp [activeComponents, Memory.empty] at hc

/-- **One call.**  No call closes a cycle. -/
theorem acyclic_effect (h : s.Acyclic) (hs : s.Consistent) {now : Timestamp}
    {call : StoreCall} {after : Memory} (heffect : Effect now s call after) :
    after.Acyclic := by
  cases heffect with
  | nothing => exact h
  | inserted new entry hnext hfree => exact h.of_components_eq rfl
  | @swapped target htarget author notes =>
      exact h.of_components_eq (components_swapped now target author notes s)
  | familyDeleted name => exact h.of_components_eq rfl
  | rendered ht unresolvedCount => exact h.of_components_eq rfl
  | put new hprepared hcheck => exact acyclic_putComponent h hs now rfl hcheck
  | retired name => exact h.retired hs now name
  | used id => exact h.usedOnceMore id

/-- **Every run.**  No state that calls lead to has a cycle. -/
theorem acyclic_of_reachable (h : Reachable s) : s.Acyclic := by
  induction h with
  | empty => exact acyclic_empty
  | call hbefore now call ih =>
      exact acyclic_effect ih (consistent_of_reachable hbefore)
        (effect_answer now call _)

/-! ### Rendering -/

/-- Rendering over the active components reports no cycle. -/
theorem cycles_render_eq_nil (h : Reachable s) (depth : Nat) (content : String)
    (params : Parameters) :
    (Markup.render depth content params
      (componentTexts s.activeComponents)).cycles = [] := by
  apply Markup.cycles_expand_of_acyclic
  intro name hcycle
  exact acyclic_of_reachable h name
    (TransGen.mono
      (fun _ _ => (includes_componentTexts (consistent_of_reachable h)).mp)
      _ _ hcycle)

/-- Rendering over what is loaded from a store reports no cycle. -/
theorem cycles_render_loaded_eq_nil (h : Reachable s)
    {loaded : Rendering.Prefetched} (hloaded : loaded.Faithful s) (depth : Nat)
    (content : String) (params : Parameters) :
    (Markup.render depth content params loaded.texts).cycles = [] := by
  apply Markup.cycles_expand_of_acyclic
  intro name hcycle
  refine acyclic_of_reachable h name (TransGen.mono ?_ _ _ hcycle)
  rintro a b ⟨text, htext, hb⟩
  obtain ⟨c, hc, rfl⟩ := hloaded.text? htext
  obtain ⟨hmem, hname, hactive⟩ := activeComponent?_mem hc
  exact ⟨c, mem_activeComponents.mpr ⟨hmem, hactive⟩, hname, hb⟩

/-- A checked render loads, renders what was loaded, and counts the uses. -/
theorem run_renderChecked (config : Config) (content : String)
    (params : Parameters) :
    (Rendering.renderChecked config content params).run =
      Rendering.prefetch config content >>= fun loaded =>
        match Markup.renderChecked config.maxIncludeDepth content params
          loaded.texts with
        | .error error => .done (.error (.registry error))
        | .ok output =>
          Rendering.recordComponentUsage loaded output.included >>= fun _ =>
            .done (.ok output) := by
  unfold Rendering.renderChecked
  rw [Service.run_lift_bind]
  congr 1
  funext loaded
  rw [Service.run_ofExcept_bind]
  cases Markup.renderChecked config.maxIncludeDepth content params
    loaded.texts with
  | error error => rfl
  | ok output => exact Service.run_lift_bind _ _

/-- A checked render that no write comes between succeeds. -/
theorem renderChecked_succeeds (h : Reachable s) (now : Timestamp)
    (config : Config) (content : String) (params : Parameters) :
    ∃ output,
      (s.perform now (Rendering.renderChecked config content params).run).1 =
      .ok output := by
  obtain ⟨-, hfaithful⟩ := Rendering.perform_prefetch now config content s
  have hcycles :=
    cycles_render_loaded_eq_nil h hfaithful config.maxIncludeDepth
      content params
  have hrendered : ∀ loaded : Rendering.Prefetched,
      (Markup.render config.maxIncludeDepth content params
          loaded.texts).cycles = [] →
        Markup.renderChecked config.maxIncludeDepth content params
            loaded.texts =
          .ok (Markup.render config.maxIncludeDepth content params
            loaded.texts) := by
    intro loaded hnil
    unfold Markup.renderChecked
    simp only [hnil]
  rw [run_renderChecked, perform_bind, hrendered _ hcycles]
  exact ⟨_, by rw [perform_bind]; rfl⟩

/-- **Includes never form a cycle.**  In every state that calls lead to, no
active component includes itself, directly or over others; so no render over
the active components reports a cycle, and a checked render that no write comes
between gives its text, whatever the text, the parameters and the depth. -/
theorem reachable_includes_acyclic (h : Reachable s) :
    (∀ name, ¬ TransGen s.Includes name name) ∧
    (∀ depth content params,
      (Markup.render depth content params
        (componentTexts s.activeComponents)).cycles = []) ∧
    ∀ now config content params, ∃ output,
      (s.perform now (Rendering.renderChecked config content params).run).1 =
        .ok output :=
  ⟨acyclic_of_reachable h, cycles_render_eq_nil h, renderChecked_succeeds h⟩

/-- A component with a text, to be put. -/
def snippet (name content : String) : NewComponent where
  name := name
  content := content
  category := defaultCategory
  tags := []

/-- A page that includes a footer before there is one, a footer that is put,
made inactive, refused while it would lead back to the page, and put after the
page has let go of it. -/
theorem includes_acyclic_after_reput :
    let s := Memory.empty.after ⟨0, 0⟩
      [.putComponent (snippet "page" "Hello{{include footer}}"),
        .putComponent (snippet "footer" "Bye"), .deactivateComponent "footer",
        .putComponent (snippet "footer" "{{include page}}"),
        .putComponent (snippet "page" "Hello"),
        .putComponent (snippet "footer" "{{include page}}")]
    Reachable s ∧ s.Includes "footer" "page" ∧
    s.activeComponents.map Component.version = [2, 2] ∧
    (∀ name, ¬ TransGen s.Includes name name) ∧
    ∃ output,
      (s.perform ⟨0, 0⟩
          (Rendering.renderChecked .default "{{include footer}}" []).run).1 =
        .ok output := by
  intro s
  have hs : Reachable s := Reachable.empty.after _ _
  obtain ⟨hacyclic, -, hrendered⟩ := reachable_includes_acyclic hs
  have hedge : ∃ c ∈ s.activeComponents,
      c.name = "footer" ∧ "page" ∈ Markup.includesOf c.content.toList := by
    decide +kernel
  exact ⟨hs, hedge, by decide +kernel, hacyclic, hrendered _ _ _ _⟩

end TemplateRegistry.Memory
