import Mathlib.Algebra.GroupWithZero.Nat
import Mathlib.Data.List.Chain
import Mathlib.Data.List.Dedup
import TemplateRegistry.Proofs.IncludeGraph
/-!
# The sites of an expansion

An expansion comes to includes at sites: so many levels are still allowed there,
these components stand around the include, and this is the name it includes.
Where a component is put in, the includes of its text are the next sites.

The chain of a site keeps its shape from site to site: each component includes
the next, and none but the last can stand in it twice.  So a site where a chain
comes back to itself ends a true cycle of the include graph, and no chain of
sites is longer than there are components.

* `Site.Enters`, `Site.Sound` — from a site to the next, and what that keeps;
* `leftAt_expandInclude` — every entry of an expansion was left at some site;
* `ComesBack` — the shape of a reported cycle;
* `outcomes_expand` — each include of a text, or of a component put in, is
  listed exactly once;
* `includes_accounted` — the account of a whole render.
-/

namespace TemplateRegistry.Markup

open Relation (ReflTransGen)

/-- An include as an expansion comes to it: the levels still allowed, the
components around it, outermost first, and the name it includes. -/
structure Site where
  depth : Nat
  path : List String
  name : String

variable {components : Components} {depth : Nat} {path : List String}
  {first name : String}

/-- The names that components have, each once. -/
def Components.names (components : Components) : List String :=
  (components.map Prod.fst).dedup

/-- The names of the includes in the text of a component. -/
def Components.includesIn (components : Components) (name : String) :
    List String :=
  match components.text? name with
  | some content => includesOf content.toList
  | none => []

/-- A chain of includes that comes back to a component of its own: the last one
stands in it before, and no other does twice. -/
structure ComesBack (r : String → String → Prop) (chain : List String) :
    Prop where
  linked : chain.IsChain r
  closed : ∃ before last, chain = before ++ [last] ∧ last ∈ before ∧
    before.Nodup

namespace Site

/-- The chain of includes that ends at a site. -/
def chain (site : Site) : List String :=
  site.path ++ [site.name]

/-- From the include of a component that is put in to an include of its text. -/
inductive Enters (components : Components) : Site → Site → Prop
  | text {depth : Nat} {path : List String} {name content nested : String}
      (hfresh : name ∉ path) (htext : components.text? name = some content)
      (hnested : nested ∈ includesOf content.toList) :
      Enters components ⟨depth + 1, path, name⟩ ⟨depth, path ++ [name], nested⟩

/-- What holds of every site that an include of `first` leads to. -/
structure Sound (components : Components) (first : String) (site : Site) :
    Prop where
  starts : site.chain.head? = some first
  linked : site.chain.IsChain (Includes components)
  fresh : site.path.Nodup

variable {site next start : Site}

/-- The outermost site of a text has nothing above it. -/
theorem sound_outermost (components : Components) (depth : Nat)
    (name : String) :
    Sound components name ⟨depth, [], name⟩ :=
  ⟨rfl, .singleton name, List.nodup_nil⟩

/-! ### From site to site -/

/-- **One step.**  The chain of the next site is the chain of this one and the
name that is included there. -/
theorem Sound.enters (h : Sound components first site)
    (hstep : Enters components site next) :
    Sound components first next := by
  cases hstep with
  | @text depth path name content nested hfresh htext hnested =>
      have hlast : Includes components name nested := ⟨content, htext, hnested⟩
      refine ⟨?_, ?_, ?_⟩
      · have hstarts : (path ++ [name]).head? = some first := h.starts
        show ((path ++ [name]) ++ [nested]).head? = some first
        rw [List.head?_append, hstarts, Option.some_or]
      · refine List.isChain_append.mpr ⟨h.linked, .singleton nested, ?_⟩
        simpa using hlast
      · exact List.nodup_append'.mpr ⟨h.fresh,
          List.nodup_singleton name, by simpa using hfresh⟩

/-- All sites below a sound one are sound. -/
theorem Sound.reaches (h : Sound components first start)
    (hsteps : ReflTransGen (Enters components) start site) :
    Sound components first site := by
  induction hsteps with
  | refl => exact h
  | tail _ hstep ih => exact ih.enters hstep

/-- A level is used up for every component on the way. -/
theorem levels_of_reaches
    (hsteps : ReflTransGen (Enters components) start site) :
    site.depth + site.path.length = start.depth + start.path.length := by
  induction hsteps with
  | refl => rfl
  | tail _ hstep ih =>
      cases hstep
      simp only [List.length_append, List.length_singleton] at ih ⊢
      omega

/-- The components around a site have texts, so there are no more of them than
components. -/
theorem Sound.length_path_le (h : Sound components first site) :
    site.path.length ≤ components.names.length := by
  have hsub : site.path ⊆ components.names := by
    intro a ha
    obtain ⟨before, after, hpath⟩ := List.append_of_mem ha
    have hlinked :
        (a :: (after ++ [site.name])).IsChain (Includes components) := by
      have hchain := h.linked
      rw [chain, hpath, List.append_assoc] at hchain
      exact hchain.right_of_append
    cases hrest : after ++ [site.name] with
    | nil => simp at hrest
    | cons b rest =>
        rw [hrest] at hlinked
        obtain ⟨⟨content, htext, -⟩, -⟩ := List.isChain_cons_cons.mp hlinked
        exact List.mem_dedup.mpr (mem_names_of_text? htext)
  exact (List.subperm_of_subset h.fresh hsub).length_le

/-- A site within its own path ends a chain that comes back. -/
theorem Sound.comesBack (h : Sound components first site)
    (hmem : site.name ∈ site.path) :
    ComesBack (Includes components) site.chain :=
  ⟨h.linked, site.path, site.name, rfl, hmem, h.fresh⟩

end Site

/-! ### What an expansion lists -/

open Site

/-- Every entry of an expansion was left at a site that its include leads to. -/
structure LeftAt (components : Components) (start : Site) (e : Expansion) :
    Prop where
  included : ∀ name ∈ e.included, (components.text? name).isSome
  missing : ∀ name ∈ e.missing, components.text? name = none
  cycles : ∀ chain ∈ e.cycles, ∃ site,
    ReflTransGen (Enters components) start site ∧
    site.name ∈ site.path ∧ chain = site.chain
  depthExceeded : ∀ name ∈ e.depthExceeded, ∃ site,
    ReflTransGen (Enters components) start site ∧ site.depth = 0

/-- What an expansion puts in, misses and cuts off is left at the sites below
it. -/
theorem leftAt_expandInclude (components : Components) (depth : Nat)
    (path : List String) (name : String) :
    LeftAt components ⟨depth, path, name⟩
      (expandInclude components depth path name) := by
  apply expandInclude_induction
    (motive := fun depth path name e => LeftAt components ⟨depth, path, name⟩ e)
  case hlooped =>
    intro depth path name hmem
    refine ⟨fun _ h => absurd h List.not_mem_nil,
      fun _ h => absurd h List.not_mem_nil, ?_, fun _ h =>
        absurd h List.not_mem_nil⟩
    intro chain hchain
    exact ⟨_, .refl, hmem, List.mem_singleton.mp hchain⟩
  case hdeep =>
    intro path name _
    exact ⟨fun _ h => absurd h List.not_mem_nil,
      fun _ h => absurd h List.not_mem_nil,
      fun _ h => absurd h List.not_mem_nil, fun _ _ => ⟨_, .refl, rfl⟩⟩
  case habsent =>
    intro depth path name _ htext
    refine ⟨fun _ h => absurd h List.not_mem_nil, ?_,
      fun _ h => absurd h List.not_mem_nil, fun _ h =>
        absurd h List.not_mem_nil⟩
    intro other hother
    rwa [List.mem_singleton.mp hother]
  case hentered =>
    intro depth path name content hfresh htext ih
    refine ⟨?_, ?_, ?_, ?_⟩
    · intro other hother
      rcases List.mem_cons.mp hother with rfl | hother
      · rw [htext, Option.isSome_some]
      · rw [included_expand] at hother
        obtain ⟨nested, hnested, hother⟩ := List.mem_flatMap.mp hother
        exact (ih nested hnested).included other hother
    · intro other hother
      change other ∈
        (expand components depth (path ++ [name]) content.toList).missing
          at hother
      rw [missing_expand] at hother
      obtain ⟨nested, hnested, hother⟩ := List.mem_flatMap.mp hother
      exact (ih nested hnested).missing other hother
    · intro chain hchain
      change chain ∈
        (expand components depth (path ++ [name]) content.toList).cycles
          at hchain
      rw [cycles_expand] at hchain
      obtain ⟨nested, hnested, hchain⟩ := List.mem_flatMap.mp hchain
      obtain ⟨site, hsteps, hsite⟩ := (ih nested hnested).cycles chain hchain
      exact ⟨site, .head (.text hfresh htext hnested) hsteps, hsite⟩
    · intro other hother
      change other ∈
        (expand components depth (path ++ [name]) content.toList).depthExceeded
          at hother
      rw [depthExceeded_expand] at hother
      obtain ⟨nested, hnested, hother⟩ := List.mem_flatMap.mp hother
      obtain ⟨site, hsteps, hsite⟩ :=
        (ih nested hnested).depthExceeded other hother
      exact ⟨site, .head (.text hfresh htext hnested) hsteps, hsite⟩

section Texts
variable {s : List Char}

/-- What was put in is a component. -/
theorem text?_of_mem_included {depth : Nat} {path : List String}
    (h : name ∈ (expand components depth path s).included) :
    (components.text? name).isSome := by
  rw [included_expand] at h
  obtain ⟨outer, -, h⟩ := List.mem_flatMap.mp h
  exact (leftAt_expandInclude components depth path outer).included name h

/-- What was missing is none. -/
theorem text?_of_mem_missing {depth : Nat} {path : List String}
    (h : name ∈ (expand components depth path s).missing) :
    components.text? name = none := by
  rw [missing_expand] at h
  obtain ⟨outer, -, h⟩ := List.mem_flatMap.mp h
  exact (leftAt_expandInclude components depth path outer).missing name h

/-- **A reported cycle is one.**  It starts where the chains of the text's
includes start, and comes back to a component of its own. -/
theorem comesBack_of_mem_cycles {start : String → String}
    (hsound : ∀ outer ∈ includesOf s,
      Sound components (start outer) ⟨depth, path, outer⟩)
    {chain : List String}
    (h : chain ∈ (expand components depth path s).cycles) :
    (∃ outer ∈ includesOf s, chain.head? = some (start outer)) ∧
      ComesBack (Includes components) chain := by
  rw [cycles_expand] at h
  obtain ⟨outer, houter, h⟩ := List.mem_flatMap.mp h
  obtain ⟨site, hsteps, hmem, rfl⟩ :=
    (leftAt_expandInclude components depth path outer).cycles chain h
  have hsite := (hsound outer houter).reaches hsteps
  exact ⟨⟨outer, houter, hsite.starts⟩, hsite.comesBack hmem⟩

/-- **No chain is longer than there are components.**  With more levels than
that, none is ever used up. -/
theorem depthExceeded_eq_nil
    (hsound : ∀ outer ∈ includesOf s, ∃ start,
      Sound components start ⟨depth, path, outer⟩)
    (hdepth : components.names.length < depth + path.length) :
    (expand components depth path s).depthExceeded = [] := by
  rw [depthExceeded_expand, List.flatMap_eq_nil_iff]
  intro outer houter
  rw [List.eq_nil_iff_forall_not_mem]
  intro name hname
  obtain ⟨site, hsteps, hzero⟩ :=
    (leftAt_expandInclude components depth path outer).depthExceeded name hname
  obtain ⟨start, hstart⟩ := hsound outer houter
  have hlevels := levels_of_reaches hsteps
  have hle := (hstart.reaches hsteps).length_path_le
  simp only at hlevels
  omega

end Texts

/-! ### The account of all includes -/

/-- The names of the includes that an expansion tells the outcome of; that of a
cycle is the name its chain comes back to. -/
def Expansion.outcomes (e : Expansion) : List String :=
  e.included ++ e.missing ++ e.cycles.map (fun chain => chain.getLastD "") ++
    e.depthExceeded

namespace Expansion

/-- Outcomes of two expansions, in some order. -/
theorem outcomes_append (a b : Expansion) :
    (a.append b).outcomes.Perm (a.outcomes ++ b.outcomes) := by
  simp only [outcomes, append, List.map_append]
  rw [List.perm_iff_count]
  intro name
  simp only [List.count_append]
  omega

/-- The outcome of an include that was put in comes before those within it. -/
theorem outcomes_entered (name : String) (inner : Expansion) :
    (entered name inner).outcomes = name :: inner.outcomes := rfl

end Expansion

/-- **Each include of a text has one outcome**, and so has each include of the
components that are put in, as often as they are. -/
theorem outcomes_expand_of_includes {s : List Char}
    (h : ∀ outer ∈ includesOf s,
      (expandInclude components depth path outer).outcomes.Perm
      (outer :: (expandInclude components depth path outer).included.flatMap
        components.includesIn)) :
    (expand components depth path s).outcomes.Perm
      (includesOf s ++ (expand components depth path s).included.flatMap
        components.includesIn) := by
  apply expand_induction (motive := fun names e =>
    e.outcomes.Perm (names ++ e.included.flatMap components.includesIn))
  case hnil => exact .refl _
  case hliteral => exact fun _ _ _ ih => ih
  case hinclude =>
    intro outer houter names e ih
    have hparts := (Expansion.outcomes_append
      (expandInclude components depth path outer) e).trans
      ((h outer houter).append ih)
    refine hparts.trans ?_
    rw [List.perm_iff_count]
    intro name
    simp only [Expansion.append, List.flatMap_append, List.cons_append,
      List.count_cons, List.count_append]
    omega

/-- An include has an outcome, and so has each one in what was put in. -/
theorem outcomes_expandInclude (components : Components) (depth : Nat)
    (path : List String) (name : String) :
    (expandInclude components depth path name).outcomes.Perm
      (name :: (expandInclude components depth path name).included.flatMap
        components.includesIn) := by
  apply expandInclude_induction (motive := fun _ _ name e =>
    e.outcomes.Perm (name :: e.included.flatMap components.includesIn))
  case hlooped =>
    intro depth path name _
    simp [Expansion.outcomes, Expansion.looped, Expansion.literal]
  case hdeep => exact fun _ _ _ => .refl _
  case habsent => exact fun _ _ _ _ _ => .refl _
  case hentered =>
    intro depth path name content _ htext ih
    have hincludes :
        components.includesIn name = includesOf content.toList := by
      simp only [Components.includesIn, htext]
    rw [Expansion.outcomes_entered]
    show List.Perm _
      (name :: (name :: Expansion.included _).flatMap components.includesIn)
    rw [List.flatMap_cons, hincludes]
    exact (outcomes_expand_of_includes ih).cons name

/-- The includes of a text have an outcome each, and so have those of what was
put in. -/
theorem outcomes_expand (components : Components) (depth : Nat)
    (path : List String) (s : List Char) :
    (expand components depth path s).outcomes.Perm
      (includesOf s ++ (expand components depth path s).included.flatMap
        components.includesIn) :=
  outcomes_expand_of_includes fun outer _ =>
    outcomes_expandInclude components depth path outer

/-- **Every include is accounted for exactly once.**  The includes put in,
missing, gone round in a cycle and too deep are together as many as the text has
and as the components put in have, each as often as it is put in; and by name
they are the same.  What is missing has no component, what was put in has one,
and each cycle is a chain of includes that starts with one of the text and comes
back to a component of its own. -/
theorem includes_accounted (depth : Nat) (content : String)
    (params : Parameters) (components : Components) :
    let output := render depth content params components
    (output.included.length + output.missing.length + output.cycles.length +
        output.depthExceeded.length =
      (includesOf content.toList).length +
        (output.included.map fun name =>
          (components.includesIn name).length).sum) ∧
      (output.included ++ output.missing ++
        output.cycles.map (fun chain => chain.getLastD "") ++
        output.depthExceeded).Perm
        (includesOf content.toList ++
          output.included.flatMap components.includesIn) ∧
      (∀ name ∈ output.missing, components.text? name = none) ∧
      (∀ name ∈ output.included, (components.text? name).isSome) ∧
      ∀ chain ∈ output.cycles,
        (∃ first ∈ includesOf content.toList, chain.head? = some first) ∧
          ComesBack (Includes components) chain := by
  intro output
  have hperm := outcomes_expand components depth [] content.toList
  refine ⟨?_, hperm, fun _ => text?_of_mem_missing,
    fun _ => text?_of_mem_included, ?_⟩
  · have hlength := hperm.length_eq
    simp only [Expansion.outcomes, List.length_append, List.length_map,
      List.length_flatMap] at hlength
    exact hlength
  · intro chain hchain
    exact comesBack_of_mem_cycles
      (fun outer _ => sound_outermost components depth outer) hchain

/-- A component put in three times, a missing one, a cycle and an include too
deep, in one render. -/
theorem includes_accounted_tangled :
    let components := [("a", "{{include b}}{{include b}}{{include gone}}"),
      ("b", "{{include a}}{{include c}}"), ("c", "{{include d}}"),
      ("d", "{{include c}}")]
    let output := render 3 "{{include a}}{{include c}}" [] components
    output.included = ["a", "b", "c", "b", "c", "c", "d"] ∧
      output.missing = ["gone"] ∧ output.depthExceeded = ["d", "d"] ∧
      output.included.length + output.missing.length + output.cycles.length +
        output.depthExceeded.length = 2 + 11 ∧
      Components.text? components "gone" = none ∧
      (Components.text? components "d").isSome ∧
      ComesBack (Includes components) ["c", "d", "c"] := by
  intro components output
  obtain ⟨hcount, -, hmissing, hincluded, hcycles⟩ :=
    includes_accounted 3 "{{include a}}{{include c}}" [] components
  exact ⟨by decide +kernel, by decide +kernel, by decide +kernel,
    hcount.trans (by decide +kernel), hmissing "gone" (by decide +kernel),
    hincluded "d" (by decide +kernel),
    (hcycles ["c", "d", "c"] (by decide +kernel)).2⟩

end TemplateRegistry.Markup
