import TemplateRegistry.Proofs.IncludeSites
/-!
# When the include depth matters

The include depth bounds how far an expansion follows its chains.  An expansion
that never comes to the bound has followed every chain to its own end: a text
without includes, a missing component, or a cycle.  More levels change nothing
then.  A chain ends by itself at the latest when it has passed every component,
so with more levels than components no expansion comes to the bound.

* `expandInclude_add_depth` — more levels for an include that used up none;
* `include_depth_immaterial` — the same of a whole render, and the number of
  levels that is always enough.
-/

namespace TemplateRegistry.Markup

variable {components : Components} {depth : Nat} {path : List String}

/-- An include that did not come to the include depth expands alike with more
levels. -/
theorem expandInclude_add_depth (more depth : Nat) (path : List String)
    (name : String) :
    (expandInclude components depth path name).depthExceeded = [] →
      expandInclude components (depth + more) path name =
        expandInclude components depth path name := by
  apply expandInclude_induction (motive := fun depth path name e =>
    e.depthExceeded = [] →
      expandInclude components (depth + more) path name = e)
  case hlooped =>
    intro depth path name hmem _
    exact expandInclude_of_mem hmem (depth + more)
  case hdeep =>
    intro path name _ hdeep
    cases hdeep
  case habsent =>
    intro depth path name hfresh htext _
    rw [Nat.add_right_comm]
    exact expandInclude_of_absent hfresh htext (depth + more)
  case hentered =>
    intro depth path name content hfresh htext ih hdeep
    change (expand components depth (path ++ [name])
      content.toList).depthExceeded = [] at hdeep
    rw [depthExceeded_expand, List.flatMap_eq_nil_iff] at hdeep
    rw [Nat.add_right_comm, expandInclude_of_text? hfresh htext,
      expand_eq_of_includes fun nested hnested =>
        ih nested hnested (hdeep nested hnested)]

/-- A text from which nothing is cut off is expanded alike at every greater
depth. -/
theorem expand_add_depth {s : List Char}
    (h : (expand components depth path s).depthExceeded = []) (more : Nat) :
    expand components (depth + more) path s =
      expand components depth path s := by
  rw [depthExceeded_expand, List.flatMap_eq_nil_iff] at h
  exact expand_eq_of_includes fun name hname =>
    expandInclude_add_depth more depth path name (h name hname)

/-- **The include depth only matters when it is hit.**  A render that reports no
include beyond its depth is the same at every greater depth; and with more
levels than there are components none is reported, whatever cycles and missing
components there are. -/
theorem include_depth_immaterial (depth : Nat) (content : String)
    (params : Parameters) (components : Components) :
    let output := render depth content params components
    (output.depthExceeded = [] →
      ∀ deeper, depth ≤ deeper →
        render deeper content params components = output) ∧
      (components.names.length < depth → output.depthExceeded = []) := by
  intro output
  constructor
  · intro hdeep deeper hle
    obtain ⟨more, rfl⟩ := Nat.exists_eq_add_of_le hle
    have hexpand := expand_add_depth
      (show (expand components depth [] content.toList).depthExceeded =
        [] from hdeep) more
    simp only [output, render, hexpand]
  · intro hdepth
    exact depthExceeded_eq_nil
      (fun outer _ => ⟨outer, Site.sound_outermost components depth outer⟩)
      (by simpa using hdepth)

/-- Two components in a cycle, and a missing one: three levels are enough, and
two are not. -/
theorem include_depth_immaterial_cyclic :
    let components :=
      [("a", "{{include b}}"), ("b", "{{include a}}{{include gone}}")]
    let content := "{{include a}}"
    Components.names components = ["a", "b"] ∧
      (render 3 content [] components).depthExceeded = [] ∧
      render 100 content [] components = render 3 content [] components ∧
      (render 2 content [] components).depthExceeded = ["gone"] := by
  intro components content
  obtain ⟨hsame, henough⟩ := include_depth_immaterial 3 content [] components
  have hdeep : (render 3 content [] components).depthExceeded = [] :=
    henough (by decide)
  exact ⟨by decide, hdeep, hsame hdeep 100 (by omega), by decide +kernel⟩

end TemplateRegistry.Markup
