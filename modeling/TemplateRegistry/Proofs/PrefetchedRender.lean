import TemplateRegistry.Proofs.AcyclicComponents
import TemplateRegistry.Proofs.LoadingQueue
/-!
# What is loaded is all that a render looks up

A render follows every include chain, and counts the depth along each of them; a
component that is included twice is looked up twice, at two depths perhaps.
Loading asks for each name once, at the least of its depths.  So what is asked
for first is asked for with the most levels left, and whatever a chain comes to
within the include depth was loaded.

* `AgreeWithin` — two sources of components agree on what an include looks up;
* `expand_congr` — then its expansions are the same;
* `Loading` — what was asked for so far, and what is still to be asked for;
* `covers_loadLevels` — loading covers every chain of the include depth;
* `render_from_store_eq` — a render over a store is the render over the texts of
  its active components.
-/

namespace TemplateRegistry

namespace Markup

variable {a b : Components}

/-- An include of a name finds the same in both sources, down to a depth. -/
def AgreeWithin (a b : Components) : Nat → String → Prop
  | 0, _ => True
  | depth + 1, name =>
    a.text? name = b.text? name ∧
      ∀ content, a.text? name = some content →
        ∀ nested ∈ includesOf content.toList, AgreeWithin a b depth nested

/-- An include is expanded alike by components that agree as deep as it
reaches. -/
theorem expandInclude_congr (depth : Nat) :
    ∀ (path : List String) (name : String), AgreeWithin a b depth name →
      expandInclude a depth path name = expandInclude b depth path name := by
  induction depth with
  | zero =>
      intro path name _
      unfold expandInclude
      rfl
  | succ depth ih =>
      intro path name hagree
      obtain ⟨htext, hnested⟩ := hagree
      by_cases hmem : name ∈ path
      · rw [expandInclude_of_mem hmem, expandInclude_of_mem hmem]
      · cases ha : a.text? name with
        | none =>
            rw [expandInclude_of_absent hmem ha,
              expandInclude_of_absent hmem (htext.symm.trans ha)]
        | some content =>
            have hinner : expand a depth (path ++ [name]) content.toList =
                expand b depth (path ++ [name]) content.toList :=
              expand_eq_of_includes fun nested hmem' =>
                ih _ nested (hnested content ha nested hmem')
            rw [expandInclude_of_text? hmem ha,
              expandInclude_of_text? hmem (htext.symm.trans ha), hinner]

/-- **Agreement is enough.**  Where two sources agree on what the includes of a
text look up, the text expands alike over both. -/
theorem expand_congr {depth : Nat} {s : List Char} (path : List String)
    (h : ∀ name ∈ includesOf s, AgreeWithin a b depth name) :
    expand a depth path s = expand b depth path s :=
  expand_eq_of_includes fun name hname =>
    expandInclude_congr depth path name (h name hname)

/-- A text uses the includes that are listed among its names. -/
theorem mem_includes_ofText {name content : String} :
    name ∈ (Directives.ofText content).includes ↔
      name ∈ includesOf content.toList :=
  Ascending.mem_ofList

end Markup

namespace Rendering

open Markup

variable {s : Memory}

/-- Every chain of includes that starts with a name, down to a depth, keeps to
names that were asked for, as far as the active components go. -/
def Covers (s : Memory) (seen : List String) : Nat → String → Prop
  | 0, _ => True
  | depth + 1, name =>
    name ∈ seen ∧
      ∀ c, s.activeComponent? name = some c →
        ∀ nested ∈ includesOf c.content.toList, Covers s seen depth nested

/-- What was loaded so far: of each name asked for, the active component, whose
includes were asked for too or are still waiting. -/
structure Loading (s : Memory) (waiting : List String) (loaded : Prefetched) :
    Prop where
  faithful : loaded.Faithful s
  found : ∀ name ∈ loaded.seen, loaded.components.get? name =
    s.activeComponent? name
  nested : ∀ name ∈ loaded.seen, ∀ c, s.activeComponent? name = some c →
    ∀ nested ∈ includesOf c.content.toList, nested ∈ loaded.seen ∨
      nested ∈ waiting

namespace Loading

/-- At the start nothing was seen, and all names are waiting. -/
theorem empty (waiting : List String) : Loading s waiting .empty where
  faithful := by simp [Prefetched.Faithful, Prefetched.empty]
  found := by simp [Prefetched.empty]
  nested := by simp [Prefetched.empty]

/-- A name that was seen needs to wait no more. -/
theorem mono {waiting waiting' : List String} {loaded : Prefetched}
    (h : Loading s waiting loaded)
    (hsub : ∀ name ∈ waiting, name ∈ loaded.seen ∨ name ∈ waiting') :
    Loading s waiting' loaded where
  faithful := h.faithful
  found := h.found
  nested name hname c hc nested hnested := by
    rcases h.nested name hname c hc nested hnested with hseen | hwaiting
    · exact Or.inl hseen
    · exact hsub nested hwaiting

/-- The order of waiting does not matter. -/
theorem of_perm {waiting waiting' : List String} {loaded : Prefetched}
    (h : Loading s waiting loaded) (hperm : waiting.Perm waiting') :
    Loading s waiting' loaded :=
  h.mono fun _ hname => Or.inr (hperm.subset hname)

/-- A name without an active component was asked for. -/
theorem missing {name : String} {waiting : List String} {loaded : Prefetched}
    (h : Loading s (name :: waiting) loaded)
    (hnone : s.activeComponent? name = none) :
    Loading s waiting { loaded with seen := name :: loaded.seen } where
  faithful := h.faithful
  found := by
    intro other hother
    rcases List.mem_cons.mp hother with rfl | hold
    · rw [hnone]
      apply Table.get?_eq_none_of_not_mem
      intro c hc
      have hfaithful := h.faithful _ hc
      rw [hnone] at hfaithful
      cases hfaithful
    · exact h.found other hold
  nested := by
    intro other hother c hc nested hnested
    rcases List.mem_cons.mp hother with rfl | hold
    · rw [hnone] at hc
      cases hc
    · rcases h.nested other hold c hc nested hnested with hseen | hwaiting
      · exact Or.inl (List.mem_cons_of_mem _ hseen)
      · rcases List.mem_cons.mp hwaiting with rfl | hwaiting
        · exact Or.inl List.mem_cons_self
        · exact Or.inr hwaiting

/-- A name was asked for, and the includes of its active component wait. -/
theorem loaded {name : String} {c : Component} {waiting : List String}
    {loaded : Prefetched} (h : Loading s (name :: waiting) loaded)
    (hc : s.activeComponent? name = some c) :
    Loading s ((Directives.ofText c.content).includes ++ waiting)
      ⟨name :: loaded.seen, loaded.components.insert name c⟩ where
  faithful := h.faithful.insert hc
  found := by
    intro other hother
    by_cases heq : other = name
    · rw [heq, hc]
      exact Table.get?_insert_self name c _
    · rw [Table.get?_insert_ne c _ heq]
      exact h.found other ((List.mem_cons.mp hother).resolve_left heq)
  nested := by
    intro other hother d hd nested hnested
    by_cases heq : other = name
    · obtain rfl : c = d := Option.some.inj (hc.symm.trans (heq ▸ hd))
      exact Or.inr (List.mem_append_left _ (mem_includes_ofText.mpr hnested))
    · rcases h.nested other ((List.mem_cons.mp hother).resolve_left heq) d hd
          nested hnested with
        hseen | hwaiting
      · exact Or.inl (List.mem_cons_of_mem _ hseen)
      · rcases List.mem_cons.mp hwaiting with rfl | hwaiting
        · exact Or.inl List.mem_cons_self
        · exact Or.inr (List.mem_append_right _ hwaiting)

end Loading

/-- **One level.**  Its names are asked for, and what their components include
is what waits for the next level. -/
theorem loading_loadLevel (now : Timestamp) (names : List String) :
    ∀ (more : List String) (loaded : Prefetched),
      Loading s (names ++ more) loaded →
      Loading s ((s.perform now (loadLevel names loaded)).1.2 ++ more)
          (s.perform now (loadLevel names loaded)).1.1 ∧
        (∀ name ∈ loaded.seen,
          name ∈ (s.perform now (loadLevel names loaded)).1.1.seen) ∧
        ∀ name ∈ names,
          name ∈ (s.perform now (loadLevel names loaded)).1.1.seen := by
  induction names with
  | nil =>
      intro more loaded h
      exact ⟨h, fun _ hname => hname, by simp⟩
  | cons name rest ih =>
      intro more loaded (h : Loading s (name :: (rest ++ more)) loaded)
      by_cases hseen : name ∈ loaded.seen
      · rw [loadLevel, if_pos hseen]
        have hrest : Loading s (rest ++ more) loaded := by
          apply h.mono
          intro other hother
          rcases List.mem_cons.mp hother with rfl | hother
          · exact Or.inl hseen
          · exact Or.inr hother
        obtain ⟨hloading, hkept, hasked⟩ := ih more loaded hrest
        refine ⟨hloading, hkept, ?_⟩
        intro other hother
        rcases List.mem_cons.mp hother with rfl | hother
        · exact hkept _ hseen
        · exact hasked other hother
      · rw [perform_loadLevel_cons now rest hseen]
        cases hc : s.activeComponent? name with
        | none =>
            obtain ⟨hloading, hkept, hasked⟩ := ih more _ (h.missing hc)
            refine ⟨hloading, fun other hother =>
              hkept other (List.mem_cons_of_mem _ hother), ?_⟩
            intro other hother
            rcases List.mem_cons.mp hother with rfl | hother
            · exact hkept _ List.mem_cons_self
            · exact hasked other hother
        | some c =>
            have hnext :=
              (h.loaded hc).of_perm (List.perm_append_comm_assoc _ _ _)
            obtain ⟨hloading, hkept, hasked⟩ := ih _ _ hnext
            refine ⟨?_, fun other hother => hkept other
              (List.mem_cons_of_mem _ hother), ?_⟩
            · rw [List.append_assoc]
              exact hloading.of_perm (List.perm_append_comm_assoc _ _ _)
            · intro other hother
              rcases List.mem_cons.mp hother with rfl | hother
              · exact hkept _ List.mem_cons_self
              · exact hasked other hother

/-- Everything is covered where nothing waits any more. -/
theorem Loading.covers {loaded : Prefetched} (h : Loading s [] loaded)
    (depth : Nat) :
    ∀ name ∈ loaded.seen, Covers s loaded.seen depth name := by
  induction depth with
  | zero => exact fun _ _ => trivial
  | succ depth ih =>
      intro name hname
      refine ⟨hname, fun c hc nested hnested => ih nested ?_⟩
      exact (h.nested name hname c hc nested hnested).resolve_right (by simp)

/-- **All levels.**  A name that waits is covered as deep as there are levels; a
name asked for before, on a level above, is covered one deeper. -/
theorem covers_loadLevels (now : Timestamp) (levels : Nat) :
    ∀ (names : List String) (loaded : Prefetched), Loading s names loaded →
      let final := (s.perform now (loadLevels levels names loaded)).1
      (∀ name ∈ final.seen, final.components.get? name =
          s.activeComponent? name) ∧
        (∀ name ∈ names, Covers s final.seen levels name) ∧
        ∀ name ∈ loaded.seen, Covers s final.seen (levels + 1) name := by
  induction levels with
  | zero =>
      intro names loaded h
      exact ⟨h.found, fun _ _ => trivial, fun name hname =>
        ⟨hname, fun _ _ _ _ => trivial⟩⟩
  | succ levels ih =>
      intro names loaded h
      cases names with
      | nil => exact ⟨h.found, by simp, h.covers _⟩
      | cons name rest =>
          obtain ⟨hloading, hkept, hasked⟩ :=
            loading_loadLevel now (name :: rest) [] loaded
            (by simpa using h)
          rw [List.append_nil] at hloading
          have hrun :
              s.perform now (loadLevels (levels + 1) (name :: rest) loaded) =
              (s.perform now (loadLevel (name :: rest) loaded)).2.perform now
                (loadLevels levels
                  (s.perform now (loadLevel (name :: rest) loaded)).1.2
                  (s.perform now (loadLevel (name :: rest) loaded)).1.1) :=
            Memory.perform_bind now (loadLevel (name :: rest) loaded)
              (fun r => loadLevels levels r.2 r.1) s
          rw [hrun, (perform_loadLevel now (name :: rest) loaded h.faithful).1]
          obtain ⟨hfound, -, hcovers⟩ := ih _ _ hloading
          refine ⟨hfound,
            fun other hother => hcovers other (hasked other hother), ?_⟩
          intro other hother
          refine ⟨(hcovers other (hkept other hother)).1,
            fun c hc nested hnested => ?_⟩
          rcases h.nested other hother c hc nested hnested with hseen | hwaiting
          · exact hcovers nested (hkept nested hseen)
          · exact hcovers nested (hasked nested hwaiting)

/-! ### Rendering over what was loaded -/

/-- The text loaded for a name. -/
theorem text?_texts (loaded : Prefetched) (name : String) :
    Components.text? loaded.texts name =
      (loaded.components.get? name).map Component.content := by
  unfold Components.text? Prefetched.texts
  induction loaded.components with
  | nil => rfl
  | cons entry rest ih =>
      obtain ⟨key, c⟩ := entry
      by_cases hkey : key = name
      · simp [Table.get?, hkey]
      · have hbeq : (name == key) = false := by simpa using Ne.symm hkey
        simp only [List.map_cons, List.lookup_cons, hbeq, ih, Table.get?,
          if_neg hkey]

variable {m : Components}

/-- What is covered is found in what was loaded as among the active
components. -/
theorem agreeWithin_of_covers {loaded : Prefetched}
    (hfound : ∀ name ∈ loaded.seen, loaded.components.get? name =
      s.activeComponent? name)
    (hm : ∀ name, m.text? name =
      (s.activeComponent? name).map Component.content) (depth : Nat) :
    ∀ name, Covers s loaded.seen depth name →
      AgreeWithin loaded.texts m depth name := by
  induction depth with
  | zero => exact fun _ _ => trivial
  | succ depth ih =>
      intro name hcovers
      obtain ⟨hseen, hnested⟩ := hcovers
      refine ⟨by rw [text?_texts, hfound name hseen, hm], ?_⟩
      intro content htext nested hmem
      rw [text?_texts, hfound name hseen] at htext
      obtain ⟨c, hc, rfl⟩ := Option.map_eq_some_iff.mp htext
      exact ih nested (hnested c hc nested hmem)

/-- **Nothing is missing.**  A text renders over what was loaded for it as over
all active components. -/
theorem render_prefetch
    (hm : ∀ name, m.text? name =
      (s.activeComponent? name).map Component.content) (now : Timestamp)
    (config : Config) (content : String) (params : Parameters) :
    Markup.render config.maxIncludeDepth content params
        (s.perform now (prefetch config content)).1.texts =
      Markup.render config.maxIncludeDepth content params m := by
  obtain ⟨hfound, hcovers, -⟩ := covers_loadLevels now config.maxIncludeDepth
    (Directives.ofText content).includes .empty (Loading.empty (s := s) _)
  have hexpand :
      expand (s.perform now (prefetch config content)).1.texts
        config.maxIncludeDepth []
      content.toList = expand m config.maxIncludeDepth [] content.toList :=
    expand_congr [] fun name hname => agreeWithin_of_covers hfound hm _ name
      (hcovers name (mem_includes_ofText.mpr hname))
  simp only [Markup.render, hexpand]

/-- A render gives the output of the pure one; the counting of uses adds
nothing to it. -/
theorem perform_renderOutput (now : Timestamp) (config : Config)
    (content : String) (params : Parameters) :
    (s.perform now (renderOutput config content params)).1 =
      Markup.render config.maxIncludeDepth content params
        (s.perform now (prefetch config content)).1.texts := by
  unfold renderOutput
  rw [Memory.perform_bind, Memory.perform_bind]
  rfl

/-- A checked render is the pure one on the components that were loaded. -/
theorem perform_renderChecked (now : Timestamp) (config : Config)
    (content : String) (params : Parameters) :
    (s.perform now (renderChecked config content params).run).1 =
      (Markup.renderChecked config.maxIncludeDepth content params
        (s.perform now (prefetch config content)).1.texts).mapError
        .registry := by
  rw [Memory.run_renderChecked, Memory.perform_bind]
  cases Markup.renderChecked config.maxIncludeDepth content params
      (s.perform now (prefetch config content)).1.texts with
  | error error => rfl
  | ok output =>
      rw [Memory.perform_bind]
      rfl

/-- **A render from a store is the render over its active components.**  Let `m`
give every name the text of its active component.  Whatever the state, the text,
the parameters and the include depth, and as long as no write comes between: the
names to load are a queue that runs empty; the render has the output of the
render over `m` in every field; and a checked render has its result too, or
fails with the same cycle. -/
theorem render_from_store_eq
    (hm : ∀ name, m.text? name =
      (s.activeComponent? name).map Component.content)
    (now : Timestamp) (config : Config) (content : String)
    (params : Parameters) :
    FromQueue config.maxIncludeDepth
        (atDepth 1 (Directives.ofText content).includes) .empty
        (prefetch config content) ∧
      (s.perform now (renderOutput config content params)).1 =
        Markup.render config.maxIncludeDepth content params m ∧
      (s.perform now (renderChecked config content params).run).1 =
        (Markup.renderChecked config.maxIncludeDepth content params m).mapError
          .registry := by
  have hrender := render_prefetch hm now config content params
  refine ⟨fromQueue_prefetch config content, ?_, ?_⟩
  · rw [perform_renderOutput, hrender]
  · rw [perform_renderChecked]
    unfold Markup.renderChecked
    rw [hrender]

/-- In a state whose records belong together, the texts of the active components
give every name the text of its active one. -/
theorem text?_componentTexts (h : s.Consistent) (name : String) :
    Components.text? (componentTexts s.activeComponents) name =
      (s.activeComponent? name).map Component.content := by
  cases hc : s.activeComponent? name with
  | some c =>
      obtain ⟨hmem, rfl, hactive⟩ := Memory.activeComponent?_mem hc
      exact Memory.text?_of_activeComponent h
        (Memory.mem_activeComponents.mpr ⟨hmem, hactive⟩)
  | none =>
      cases htext :
        Components.text? (componentTexts s.activeComponents) name with
      | none => rfl
      | some content =>
          obtain ⟨c, hc', hname, -⟩ := Memory.component_of_text? htext
          obtain ⟨hmem, hactive⟩ := Memory.mem_activeComponents.mp hc'
          have hinactive := Memory.activeComponent?_eq_none.mp hc c hmem hname
          simp [hinactive] at hactive

/-- Two components that include the same third one, of which one also includes a
component that there is not; the third is put in twice, at the end of the
include depth, and what it includes is beyond it. -/
theorem render_from_store_shared :
    let s := Memory.empty.after ⟨0, 0⟩
      [.putComponent (Memory.snippet "base" "B{{include deep}}"),
        .putComponent (Memory.snippet "left" "L{{include base}}"),
        .putComponent
          (Memory.snippet "right" "R{{include base}}{{include gone}}")]
    let m := componentTexts s.activeComponents
    let config := { Config.default with maxIncludeDepth := 2 }
    let content := "{{include left}}{{include right}}"
    (∀ name, m.text? name = (s.activeComponent? name).map Component.content) ∧
      (s.perform ⟨0, 0⟩ (renderOutput config content [])).1 =
        Markup.render 2 content [] m ∧
      (s.perform ⟨0, 0⟩ (renderChecked config content []).run).1 =
        (Markup.renderChecked 2 content [] m).mapError .registry ∧
      (Markup.render 2 content [] m).included =
        ["left", "base", "right", "base"] ∧
      (Markup.render 2 content [] m).depthExceeded = ["deep", "deep"] := by
  intro s m config content
  have hm := text?_componentTexts (Memory.consistent_of_reachable
    (Memory.Reachable.empty.after ⟨0, 0⟩ _) : s.Consistent)
  obtain ⟨-, hrender, hchecked⟩ :=
    render_from_store_eq hm ⟨0, 0⟩ config content []
  exact ⟨hm, hrender, hchecked, by decide +kernel, by decide +kernel⟩

end Rendering

end TemplateRegistry
