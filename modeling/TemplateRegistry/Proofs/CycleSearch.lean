import TemplateRegistry.Proofs.IncludeDepth
import TemplateRegistry.Store.Call
/-!
# The search for a cycle is exact

Before a component gets a new text, its includes are expanded over the active
components, with the new text in the place of the old one.  What that expansion
reports as a cycle is one, and where it reports none there is none to be
reached.  The search has more levels than there are components, so it is never
cut short.

* `IncludesAfter` — the graph of includes once the component has its new text;
* `ComesBack.looping` — a chain that comes back leads into a cycle;
* `checkCycle_exact` — the check passes just if no cycle can be reached, and
  otherwise tells a chain that comes back.
-/

namespace TemplateRegistry

open Relation (ReflTransGen TransGen)

namespace Markup

variable {active : Components} {name content a b : String}

/-- A component includes a name, once the component called `name` has a new
text. -/
def IncludesAfter (name content : String) (active : Components)
    (a b : String) : Prop :=
  if a = name then b ∈ includesOf content.toList else Includes active a b

/-- The new text is that of its name. -/
theorem text?_cons_self :
    Components.text? ((name, content) :: active) name = some content :=
  List.lookup_cons_self

/-- With the new text, a name includes what the text does, and any other what it
did. -/
theorem includes_cons_iff :
    Includes ((name, content) :: active) a b ↔
      IncludesAfter name content active a b := by
  unfold IncludesAfter
  split
  next hname =>
    subst hname
    constructor
    · rintro ⟨text, htext, hb⟩
      obtain rfl : text = content :=
        Option.some.inj (htext.symm.trans text?_cons_self)
      exact hb
    · exact fun hb => ⟨content, text?_cons_self, hb⟩
  next hname =>
    have htext :
        Components.text? ((name, content) :: active) a = active.text? a := by
      have hbeq : (a == name) = false := by simpa using hname
      simp only [Components.text?, List.lookup_cons, hbeq]
    simp only [Includes, htext]

/-- The same as an equation of relations. -/
theorem includes_cons :
    Includes ((name, content) :: active) =
      IncludesAfter name content active := by
  funext a b
  exact propext includes_cons_iff

/-- There is one name more at most. -/
theorem length_names_cons_le (name content : String) (active : Components) :
    (Components.names ((name, content) :: active)).length ≤
      active.length + 1 := by
  have hle :=
    (List.dedup_sublist (((name, content) :: active).map Prod.fst)).length_le
  simpa [Components.names] using hle

/-! ### Chains that come back -/

/-- A chain that comes back leads into a cycle. -/
theorem ComesBack.looping {r : String → String → Prop} {chain : List String}
    (h : ComesBack r chain) (hstart : chain.head? = some a) : Looping r a := by
  obtain ⟨before, last, rfl, hmem, -⟩ := h.closed
  refine ⟨last, ?_, ?_⟩
  · obtain ⟨rest, hrest⟩ := List.head?_eq_some_iff.mp hstart
    have hlinked := h.linked
    rw [hrest] at hlinked
    apply List.relationReflTransGen_of_exists_isChain_cons rest hlinked
    simp only [← hrest, List.getLast_append_singleton]
  · obtain ⟨left, right, rfl⟩ := List.append_of_mem hmem
    have hlinked := h.linked
    rw [List.append_assoc] at hlinked
    have hround : (last :: (right ++ [last])).IsChain r :=
      hlinked.right_of_append
    cases hnext : right ++ [last] with
    | nil => simp at hnext
    | cons b rest =>
        rw [hnext] at hround
        obtain ⟨hstep, hrest⟩ := List.isChain_cons_cons.mp hround
        refine TransGen.head' hstep ?_
        apply List.relationReflTransGen_of_exists_isChain_cons rest hrest
        simp only [← hnext, List.getLast_append_singleton]

/-! ### The search -/

/-- The includes of the new text stand within the component itself. -/
theorem sound_rewritten (depth : Nat) {nested : String}
    (h : nested ∈ includesOf content.toList) :
    Site.Sound ((name, content) :: active) name ⟨depth, [name], nested⟩ := by
  have hstep : Includes ((name, content) :: active) name nested :=
    ⟨content, text?_cons_self, h⟩
  exact ⟨rfl, List.isChain_cons_cons.mpr ⟨hstep, .singleton nested⟩,
    List.nodup_singleton name⟩

/-- What the search finds starts at the component and comes back. -/
theorem comesBack_of_findCycle {maxDepth : Nat} {chain : List String}
    (h : findCycle maxDepth name content active = some chain) :
    chain.head? = some name ∧
    ComesBack (IncludesAfter name content active) chain := by
  have hsound : ∀ nested ∈ includesOf content.toList,
      Site.Sound ((name, content) :: active) name
        ⟨maxDepth - 1, [name], nested⟩ :=
    fun nested hnested => sound_rewritten (maxDepth - 1) hnested
  obtain ⟨⟨-, -, hstart⟩, hback⟩ :=
    comesBack_of_mem_cycles hsound (List.mem_of_head? h)
  exact ⟨hstart, includes_cons ▸ hback⟩

/-- The levels of the search are never used up. -/
theorem depthExceeded_search (name content : String) (active : Components) :
    (expand ((name, content) :: active) (active.length + 2 - 1) [name]
      content.toList).depthExceeded = [] := by
  apply depthExceeded_eq_nil fun nested hnested =>
    ⟨name, sound_rewritten _ hnested⟩
  have hle := length_names_cons_le name content active
  simp only [List.length_singleton]
  omega

end Markup

open Markup

/-- **The check is exact.**  It passes just if no cycle can be reached from the
component over the includes as they would be; and it fails with a chain that
starts at the component, follows includes, and comes back to a component of its
own, none other standing in it twice.  The include depth of the search is never
what stops it, and no greater one would find anything else. -/
theorem checkCycle_exact (name content : String) (active : Components) :
    (checkCycle name content active = .ok () ↔
      ¬ Looping (IncludesAfter name content active) name) ∧
      (∀ error, checkCycle name content active = .error error →
        ∃ chain, error = .componentCycle chain ∧ chain.head? = some name ∧
          ComesBack (IncludesAfter name content active) chain) ∧
      (expand ((name, content) :: active) (active.length + 2 - 1) [name]
        content.toList).depthExceeded = [] ∧
      ∀ maxDepth, active.length + 2 ≤ maxDepth →
        findCycle maxDepth name content active =
          findCycle (active.length + 2) name content active := by
  have hdeep := depthExceeded_search name content active
  refine ⟨?_, ?_, hdeep, ?_⟩
  · cases hfind : findCycle (active.length + 2) name content active with
    | none =>
        have hnone := not_looping_of_findCycle hfind
        rw [includes_cons] at hnone
        simp only [checkCycle, hfind, hnone, not_false_eq_true]
    | some chain =>
        obtain ⟨hstart, hback⟩ := comesBack_of_findCycle hfind
        simp only [checkCycle, hfind, hback.looping hstart, not_true_eq_false,
          iff_false]
        exact fun h => nomatch h
  · intro error herror
    cases hfind : findCycle (active.length + 2) name content active with
    | none =>
        rw [checkCycle, hfind] at herror
        cases herror
    | some chain =>
        rw [checkCycle, hfind] at herror
        exact ⟨chain, (Except.error.inj herror).symm,
          comesBack_of_findCycle hfind⟩
  · intro maxDepth hle
    obtain ⟨more, rfl⟩ := Nat.exists_eq_add_of_le hle
    have hlevels :
      active.length + 2 + more - 1 = active.length + 2 - 1 + more := by omega
    rw [findCycle, findCycle, hlevels, expand_add_depth hdeep more]

/-- A component whose old text is replaced, and whose new one closes a cycle
over a component that was let include it. -/
theorem checkCycle_exact_rewritten :
    let active :=
      [("a", "{{include b}}{{include gone}}"), ("b", "plain"),
        ("c", "{{include c}}")]
    checkCycle "b" "{{include d}}{{include a}}" active =
      .error (.componentCycle ["b", "a", "b"]) ∧
      ComesBack (IncludesAfter "b" "{{include d}}{{include a}}" active)
        ["b", "a", "b"] ∧
      ¬ Looping (IncludesAfter "b" "{{include d}}" active) "b" ∧
      findCycle 1000 "b" "{{include d}}{{include a}}" active = some
        ["b", "a", "b"] := by
  intro active
  obtain ⟨-, hfails, -, hdeeper⟩ :=
    checkCycle_exact "b" "{{include d}}{{include a}}" active
  have herror : checkCycle "b" "{{include d}}{{include a}}" active =
      .error (.componentCycle ["b", "a", "b"]) := by decide +kernel
  obtain ⟨chain, hchain, -, hback⟩ := hfails _ herror
  cases hchain
  refine ⟨herror, hback, ?_,
    (hdeeper 1000 (by decide)).trans (by decide +kernel)⟩
  exact (checkCycle_exact "b" "{{include d}}" active).1.mp (by decide +kernel)

end TemplateRegistry
