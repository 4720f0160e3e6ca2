import Mathlib.Data.List.Nodup
import Mathlib.Data.List.Perm.Subperm
import Mathlib.Logic.Relation
import TemplateRegistry.Proofs.Expansions
/-!
# The graph of includes

Components are the nodes of a graph, with an edge from a component to every
name that its text includes, whether or not there is a component of that name.

* `cycles_expand_of_acyclic` — expanding a text over a graph without cycles
  never comes back to a component of its own;
* `nodup_walk_of_cycles_nil` — if an expansion does not come back to one, then
  no walk of the graph does either, as far as the include depth reaches;
* `not_looping_of_findCycle` — the search for a cycle misses none, because a
  walk that is longer than there are components must repeat one.
-/

namespace TemplateRegistry

section Relations

variable {α : Type} {r r' : α → α → Prop}

/-- From here the relation can be followed into a cycle. -/
def Looping (r : α → α → Prop) (a : α) : Prop :=
  ∃ b, Relation.ReflTransGen r a b ∧ Relation.TransGen r b b

/-- What leads into a cycle has a step that still leads into it. -/
theorem Looping.step {a : α} (h : Looping r a) : ∃ b, r a b ∧ Looping r b := by
  obtain ⟨b, hab, hbb⟩ := h
  rcases Relation.ReflTransGen.cases_head hab with rfl | ⟨c, hac, hcb⟩
  · obtain ⟨c, hac, hca⟩ := Relation.TransGen.head'_iff.mp hbb
    exact ⟨c, hac, a, hca, hbb⟩
  · exact ⟨c, hac, b, hcb, hbb⟩

/-- What leads into a cycle can be walked from for any number of steps. -/
theorem Looping.walk {a : α} (h : Looping r a) (n : Nat) :
    ∃ walk : List α, walk.length = n ∧ List.IsChain r (a :: walk) ∧
      ∀ b ∈ a :: walk, Looping r b := by
  induction n generalizing a with
  | zero => exact ⟨[], rfl, .singleton a, by simpa using h⟩
  | succ n ih =>
      obtain ⟨b, hab, hb⟩ := h.step
      obtain ⟨walk, hlength, hchain, hall⟩ := ih hb
      refine ⟨b :: walk, by simp [hlength],
        List.isChain_cons_cons.mpr ⟨hab, hchain⟩, ?_⟩
      intro c hc
      rcases List.mem_cons.mp hc with rfl | hc
      · exact h
      · exact hall c hc

/-- Where only one node has new steps, a path keeps to the old ones or passes
that node. -/
theorem transGen_old_or_through {c x y : α}
    (hstep : ∀ a b, r' a b → a = c ∨ r a b) (h : Relation.TransGen r' x y) :
    Relation.TransGen r x y ∨
      (Relation.ReflTransGen r' x c ∧ Relation.TransGen r' c y) := by
  induction h with
  | single hxy =>
      rcases hstep _ _ hxy with rfl | hold
      · exact Or.inr ⟨.refl, .single hxy⟩
      · exact Or.inl (.single hold)
  | tail hpath hlast ih =>
      rcases ih with hold | ⟨hto, hfrom⟩
      · rcases hstep _ _ hlast with rfl | hold'
        · exact Or.inr ⟨hpath.to_reflTransGen, .single hlast⟩
        · exact Or.inl (hold.tail hold')
      · exact Or.inr ⟨hto, hfrom.tail hlast⟩

end Relations

namespace Markup

variable {components : Components} {name : String}

/-- A component includes a name. -/
def Includes (components : Components) (a b : String) : Prop :=
  ∃ content, components.text? a = some content ∧ b ∈ includesOf content.toList

/-! ### The cycles of an expansion -/

/-- An include of a component of the path is a cycle. -/
theorem cycles_expandInclude_of_mem {path : List String} (h : name ∈ path)
    (depth : Nat) :
    (expandInclude components depth path name).cycles = [path ++ [name]] := by
  rw [expandInclude_of_mem h]
  rfl

/-- An include without a cycle is not within itself. -/
theorem not_mem_of_cycles_nil {path : List String} {depth : Nat}
    (h : (expandInclude components depth path name).cycles = []) :
    name ∉ path := by
  intro hmem
  rw [cycles_expandInclude_of_mem hmem] at h
  simp at h

/-- What is cut off closes no cycle. -/
theorem cycles_expandInclude_zero {path : List String} (h : name ∉ path) :
    (expandInclude components 0 path name).cycles = [] := by
  rw [expandInclude_zero h]
  rfl

/-- What is missing closes no cycle. -/
theorem cycles_expandInclude_missing {path : List String} (h : name ∉ path)
    (htext : components.text? name = none) (depth : Nat) :
    (expandInclude components depth path name).cycles = [] := by
  cases depth with
  | zero => exact cycles_expandInclude_zero h
  | succ depth =>
      rw [expandInclude_of_absent h htext]
      rfl

/-- The cycles of a component that is put in are those of its text. -/
theorem cycles_expandInclude_succ {path : List String} {content : String}
    (h : name ∉ path) (htext : components.text? name = some content)
    (depth : Nat) :
    (expandInclude components (depth + 1) path name).cycles =
      (expand components depth (path ++ [name]) content.toList).cycles := by
  rw [expandInclude_of_text? h htext]
  rfl

/-! ### No cycle is reported where there is none -/

/-- An include that every component of the path leads to comes back to none of
them, if the graph has no cycles. -/
theorem cycles_expandInclude_of_acyclic
    (hacyclic : ∀ a, ¬ Relation.TransGen (Includes components) a a)
    (depth : Nat) :
    ∀ (path : List String) (name : String),
      (∀ a ∈ path, Relation.TransGen (Includes components) a name) →
      (expandInclude components depth path name).cycles = [] := by
  induction depth with
  | zero =>
      intro path name hpath
      exact cycles_expandInclude_zero fun hmem =>
        hacyclic name (hpath name hmem)
  | succ depth ih =>
      intro path name hpath
      have hfresh : name ∉ path := fun hmem => hacyclic name (hpath name hmem)
      cases htext : components.text? name with
      | none => exact cycles_expandInclude_missing hfresh htext (depth + 1)
      | some content =>
          rw [cycles_expandInclude_succ hfresh htext, cycles_expand,
            List.flatMap_eq_nil_iff]
          intro nested hnested
          have hedge : Includes components name nested :=
            ⟨content, htext, hnested⟩
          apply ih
          intro a ha
          rcases List.mem_append.mp ha with ha | ha
          · exact (hpath a ha).tail hedge
          · obtain rfl := List.mem_singleton.mp ha
            exact .single hedge

/-- **Expanding over a graph without cycles.**  No include chain of any text
comes back to a component of its own, whatever the include depth. -/
theorem cycles_expand_of_acyclic
    (hacyclic : ∀ a, ¬ Relation.TransGen (Includes components) a a)
    (depth : Nat) (s : List Char) :
    (expand components depth [] s).cycles = [] := by
  rw [cycles_expand, List.flatMap_eq_nil_iff]
  intro name _
  exact cycles_expandInclude_of_acyclic hacyclic depth [] name (by simp)

/-! ### Every cycle is found -/

/-- If no include chain comes back to a component of its own, then no walk does
that is not longer than the include depth allows. -/
theorem nodup_walk_of_cycles_nil (depth : Nat) :
    ∀ (path : List String) (name : String) (walk : List String),
      path.Nodup → (expandInclude components depth path name).cycles = [] →
      walk.length ≤ depth → List.IsChain (Includes components) (name :: walk) →
      (path ++ name :: walk).Nodup := by
  induction depth with
  | zero =>
      intro path name walk hpath hcycles hlength _
      have hwalk : walk = [] :=
        List.length_eq_zero_iff.mp (Nat.le_zero.mp hlength)
      have hfresh : name ∉ path := not_mem_of_cycles_nil hcycles
      subst hwalk
      exact List.nodup_append'.mpr ⟨hpath,
        List.nodup_singleton name, by simpa using hfresh⟩
  | succ depth ih =>
      intro path name walk hpath hcycles hlength hchain
      have hfresh : name ∉ path := not_mem_of_cycles_nil hcycles
      have hextended : (path ++ [name]).Nodup :=
        List.nodup_append'.mpr ⟨hpath,
          List.nodup_singleton name, by simpa using hfresh⟩
      cases walk with
      | nil => exact hextended
      | cons next rest =>
          obtain ⟨⟨content, htext, hnext⟩, hrest⟩ :=
            List.isChain_cons_cons.mp hchain
          rw [cycles_expandInclude_succ hfresh htext, cycles_expand,
            List.flatMap_eq_nil_iff] at hcycles
          have hwalk :=
            ih (path ++ [name]) next rest hextended (hcycles next hnext)
            (by simpa using hlength) hrest
          simpa using hwalk

/-- A name with a text is among the names of the components. -/
theorem mem_names_of_text? {content : String}
    (h : components.text? name = some content) :
    name ∈ components.map Prod.fst := by
  unfold Components.text? at h
  obtain ⟨before, after, rfl, -⟩ := List.lookup_eq_some_iff.mp h
  simp

/-- **The search misses no cycle.**  When it finds nothing, the new text of a
component leads into no cycle, neither through that component nor elsewhere. -/
theorem not_looping_of_findCycle {content : String}
    (h : findCycle (components.length + 2) name content components = none) :
    ¬ Looping (Includes ((name, content) :: components)) name := by
  intro hlooping
  obtain ⟨walk, hlength, hchain, hall⟩ := hlooping.walk (components.length + 1)
  -- a walk of more nodes than there are names with a text cannot be free of
  -- repetition
  have hnames :
      ∀ a ∈ name :: walk, a ∈ ((name, content) :: components).map Prod.fst := by
    intro a ha
    obtain ⟨b, ⟨text, htext, -⟩, -⟩ := (hall a ha).step
    exact mem_names_of_text? htext
  have hrepeats : ¬ (name :: walk).Nodup := by
    intro hnodup
    have hle := (List.subperm_of_subset hnodup hnames).length_le
    simp only [List.length_cons, List.length_map, hlength] at hle
    omega
  cases walk with
  | nil => simp at hlength
  | cons next rest =>
      obtain ⟨⟨text, htext, hnext⟩, hrest⟩ := List.isChain_cons_cons.mp hchain
      have hself :
          Components.text? ((name, content) :: components) name =
            some content :=
        List.lookup_cons_self
      obtain rfl := Option.some.inj (htext.symm.trans hself)
      simp only [findCycle, List.head?_eq_none_iff, cycles_expand,
        List.flatMap_eq_nil_iff] at h
      have hwalk :=
        nodup_walk_of_cycles_nil _ [name] next rest (List.nodup_singleton name)
        (h next hnext) (by simp at hlength; omega) hrest
      exact hrepeats hwalk

end Markup

end TemplateRegistry
