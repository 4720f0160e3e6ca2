import TemplateRegistry.Proofs.ActiveRenders
import TemplateRegistry.Proofs.FailedCalls
import TemplateRegistry.Proofs.IncludeSites
import TemplateRegistry.Proofs.PrefetchedRender
import TemplateRegistry.Proofs.UndisturbedServices
/-!
# What a render writes

To render is to read, and then to count: one use of a component for every time
it was put in, and for a version one record of the render.  What is counted is
told by the text, whom to count it for by what was loaded; since only what was
loaded is put in, the two agree name by name.

* `Component.usedIn`, `Memory.withUses` — components whose uses were counted;
* `ensures_prefetch` — loading changes nothing and finds active components;
* `ensures_recordComponentUsage` — the counting, by the names still to be
  counted;
* `ensures_countedRender` — a render and its counting;
* `render_only_counts_uses` — all that renders change, and that failed ones
  change nothing.
-/

namespace TemplateRegistry

/-- A component after a text for which some components were put in.  Only an
active one can be among them. -/
def Component.usedIn (included : List String) (c : Component) : Component :=
  if c.isActive then
    { c with usageCount := c.usageCount + included.count c.name }
  else c

namespace Memory

variable {s x : Memory} {name : String} {c : Component}

/-- The state once the uses of components in a text were counted. -/
def withUses (included : List String) (s : Memory) : Memory :=
  { s with components := s.components.map (Component.usedIn included) }

/-- Without an include nothing is counted. -/
theorem withUses_nil (s : Memory) : s.withUses [] = s := by
  have hsame : Component.usedIn [] = id := by
    funext c
    simp [Component.usedIn]
  simp [withUses, hsame]

/-- **One use more** of an active component is a use of its name. -/
theorem updateComponent_withUses (h : s.Consistent)
    (hc : s.activeComponent? name = some c) (included : List String) :
    (s.withUses included).updateComponent c.id Component.usedOnceMore =
      s.withUses (included ++ [name]) := by
  obtain ⟨hmem, hname, hactive⟩ := activeComponent?_mem hc
  -- ids are given once, and of the active components only `c` has the name
  have hrow : ∀ d ∈ s.components,
      (if (d.usedIn included).id = c.id then (d.usedIn included).usedOnceMore
        else d.usedIn included) = d.usedIn (included ++ [name]) := by
    intro d hd
    have hid : (d.usedIn included).id = d.id := by
      unfold Component.usedIn
      split <;> rfl
    rw [hid]
    by_cases hsame : d.id = c.id
    · obtain rfl := h.component_eq hd hmem hsame
      simp [Component.usedIn, Component.usedOnceMore, hactive, hname,
        Int.add_assoc]
    · rw [if_neg hsame]
      unfold Component.usedIn
      cases hother : d.isActive with
      | false => rfl
      | true =>
          have hne : name ≠ d.name := fun heq => hsame (congrArg Component.id
            (h.activeComponent_eq hd hmem (heq.symm.trans hname.symm) hother
              hactive))
          simp [hne]
  unfold withUses updateComponent
  simp only [List.map_map]
  congr 1
  exact List.map_congr_left hrow

/-- To count a use of an id without a component changes nothing, so that
counting is the same whether there is one or not. -/
theorem state_incrementComponentUsage (now : Timestamp) (id : Int)
    (s : Memory) :
    (answer now (.incrementComponentUsage id) s).2 =
      s.updateComponent id Component.usedOnceMore := by
  show (incrementComponentUsage id s).2 = _
  unfold incrementComponentUsage
  split
  · rfl
  · rename_i hnone
    have hrow : ∀ c ∈ s.components,
        (if c.id = id then c.usedOnceMore else c) = c := by
      intro c hc
      refine if_neg fun heq => hnone (List.any_eq_true.mpr ⟨c, hc, ?_⟩)
      simpa using heq
    simp [updateComponent, List.map_congr_left hrow]

end Memory

namespace Rendering

open Markup Service

variable {s x : Memory} {config : Config}

/-! ### Loading -/

/-- How a request for an active component ends. -/
theorem activeComponent?_of_ends {name : String} {after : Memory}
    {outcome : Outcome (StoreCall.getActiveComponent name).Result}
    (h : Memory.Ends (.getActiveComponent name) s outcome after) :
    after = s ∧ ∀ c, outcome = .ended (.ok c) →
      s.activeComponent? name = some c := by
  refine ⟨?_, fun c hc => ?_⟩
  · cases h <;> rfl
  · obtain ⟨now, hanswer⟩ := h.answer_eq_ok hc
    exact Memory.found_eq_ok (congrArg Prod.fst hanswer)

/-- Loading the components of one level leaves the store alone and loads them as
they are. -/
theorem ensures_loadLevel (names : List String) {loaded : Prefetched}
    (h : loaded.Faithful s) :
    Program.Ensures (I := StoreCalls) Memory.Ends
      (fun result after => after = s ∧ result.1.Faithful s)
      (loadLevel names loaded) s := by
  induction names generalizing loaded with
  | nil => exact ⟨rfl, h⟩
  | cons name rest ih =>
      unfold loadLevel
      split
      · exact ih h
      · intro outcome after hends
        obtain ⟨rfl, hfound⟩ := activeComponent?_of_ends hends
        have hskipped : Prefetched.Faithful after
            { loaded with seen := name :: loaded.seen } := h
        cases outcome with
        | hung => exact ih hskipped
        | ended result =>
            cases result with
            | error error => exact ih hskipped
            | ok c =>
                exact (Program.ensures_bind _ after).mpr
                  (ih (hskipped.insert (hfound c rfl)))

/-- So does loading all levels. -/
theorem ensures_loadLevels (levels : Nat) (names : List String)
    {loaded : Prefetched} (h : loaded.Faithful s) :
    Program.Ensures (I := StoreCalls) Memory.Ends
      (fun result after => after = s ∧ result.Faithful s)
      (loadLevels levels names loaded) s := by
  induction levels generalizing names loaded with
  | zero => exact ⟨rfl, h⟩
  | succ levels ih =>
      cases names with
      | nil => exact ⟨rfl, h⟩
      | cons name rest =>
          refine (Program.ensures_bind _ s).mpr
            ((ensures_loadLevel (name :: rest) h).mono ?_)
          intro result after hloaded
          obtain ⟨rfl, hfaithful⟩ := hloaded
          exact ih _ hfaithful

/-- **Loading** changes nothing and finds active components, if it finds any. -/
theorem ensures_prefetch (config : Config) (content : String) (s : Memory) :
    Program.Ensures (I := StoreCalls) Memory.Ends
      (fun loaded after => after = s ∧ loaded.Faithful s)
      (prefetch config content) s :=
  ensures_loadLevels _ _ (by simp [Prefetched.Faithful, Prefetched.empty])

/-! ### Counting -/

/-- Only what was loaded is put in. -/
theorem loaded_of_mem_included {loaded : Prefetched} {depth : Nat}
    {content name : String} {params : Parameters}
    (h : name ∈ (Markup.render depth content params loaded.texts).included) :
    (loaded.components.get? name).isSome := by
  have htext := text?_of_mem_included h
  rwa [text?_texts, Option.isSome_map] at htext

/-- **Counting**, from any of the names on. -/
theorem ensures_recordComponentUsage (h : s.Consistent) {loaded : Prefetched}
    (hfaithful : loaded.Faithful s) (names counted : List String)
    (hloaded : ∀ name ∈ names, (loaded.components.get? name).isSome) :
    Program.Ensures (I := StoreCalls) Memory.Answers
      (fun _ after => after = s.withUses (counted ++ names))
      (recordComponentUsage loaded names) (s.withUses counted) := by
  -- what was counted so far is in the state, so the rest goes on from one name
  -- more
  induction names generalizing counted with
  | nil =>
      show s.withUses counted = s.withUses (counted ++ [])
      rw [List.append_nil]
  | cons name rest ih =>
      obtain ⟨c, hc⟩ :=
        Option.isSome_iff_exists.mp (hloaded name List.mem_cons_self)
      have hactive : s.activeComponent? name = some c :=
        hfaithful _ (Table.mem_of_get? hc)
      unfold recordComponentUsage
      rw [hc]
      intro outcome after hanswers
      obtain ⟨now, -, rfl⟩ := hanswers.answer
      rw [Memory.state_incrementComponentUsage,
        Memory.updateComponent_withUses h hactive,
        List.append_cons counted name rest]
      exact ih _ fun other hother =>
        hloaded other (List.mem_cons_of_mem _ hother)

/-- **A render and its counting.** -/
theorem ensures_countedRender (h : s.Consistent) {loaded : Prefetched}
    (hfaithful : loaded.Faithful s) (depth : Nat) (content : String)
    (params : Parameters) :
    Program.Ensures (I := StoreCalls) Memory.Answers
      (fun _ after => after =
        s.withUses (Markup.render depth content params loaded.texts).included)
      (recordComponentUsage loaded
        (Markup.render depth content params loaded.texts).included) s := by
  have hcounted := ensures_recordComponentUsage h hfaithful
    (Markup.render depth content params loaded.texts).included []
    fun _ => loaded_of_mem_included
  rwa [Memory.withUses_nil] at hcounted

/-- A render counts the components that it put in, and changes nothing else. -/
theorem ensures_renderOutput_uses (h : s.Consistent) (config : Config)
    (content : String) (params : Parameters) :
    Program.Ensures (I := StoreCalls) Memory.Answers
      (fun output after => after = s.withUses output.included)
      (renderOutput config content params) s := by
  refine (Program.ensures_bind _ s).mpr
    ((Memory.ensures_answers (ensures_prefetch config content s)).mono ?_)
  intro loaded after hloaded
  obtain ⟨rfl, hfaithful⟩ := hloaded
  exact (Program.ensures_bind _ after).mpr
    (ensures_countedRender h hfaithful _ content params)

/-- A checked render that succeeds counts the components it put in. -/
theorem settles_renderChecked (h : s.Consistent) (config : Config)
    (content : String) (params : Parameters) :
    Settles (renderChecked config content params)
      (fun result after => ∀ output, result = .ok output →
        after = s.withUses output.included) s := by
  unfold Settles
  rw [Memory.run_renderChecked]
  refine (Program.ensures_bind _ s).mpr
    ((Memory.ensures_answers (ensures_prefetch config content s)).mono ?_)
  intro loaded after hloaded
  obtain ⟨rfl, hfaithful⟩ := hloaded
  rcases renderChecked_cases config.maxIncludeDepth content params
      loaded.texts with
    ⟨path, hcycle⟩ | hrendered
  · rw [hcycle]
    intro output houtput
    cases houtput
  · rw [hrendered]
    refine (Program.ensures_bind _ after).mpr
      ((ensures_countedRender h hfaithful _ content params).mono ?_)
    intro _ last hlast output houtput
    rw [← Except.ok.inj houtput]
    exact hlast

/-! ### Renders of active versions -/

/-- The state once an active version was rendered and all of it counted. -/
def rendered (now : Timestamp) (active : ActiveRender) (s : Memory) : Memory :=
  (s.withUses active.output.included).addUsage
    { id := s.lastId + 1
      templateId := active.template.id
      unresolvedCount := min active.output.unresolved.length largestCount
      renderedAt := now }

/-- The use of a version is recorded with the number of its unresolved
placeholders. -/
theorem ensures_recordTemplateUsage {t : TemplateVersion} (ht : t ∈ x.templates)
    (output : RenderOutput) :
    Program.Ensures (I := StoreCalls) Memory.Answers
      (fun _ after => ∃ now, after = x.addUsage
        ⟨x.lastId + 1, t.id, min output.unresolved.length largestCount, now⟩)
      (recordTemplateUsage t output) x := by
  intro outcome after hanswers
  obtain ⟨now, -, rfl⟩ := hanswers.answer
  have hstored : (x.template? t.id).isSome :=
    List.find?_isSome.mpr ⟨t, ht, by simp⟩
  rcases Memory.recordTemplateUsage_cases now t.id
      (min output.unresolved.length largestCount) x with
    ⟨error, heq⟩ | ⟨u, -, heq⟩
  · obtain ⟨u, hu⟩ := Option.isSome_iff_exists.mp hstored
    simp [Memory.recordTemplateUsage, hu] at heq
  · exact ⟨now, congrArg Prod.snd heq⟩

/-- The render of the active version of a name, recorded. -/
def RecordedAs (s : Memory) (name : String)
    (result : Except EngineError ActiveRender) (after : Memory) : Prop :=
  ∀ active, result = .ok active →
    s.active? name = some active.template ∧ ∃ now, after = rendered now active s

/-- What is left to do once the output of an active version is there.  It cannot
fail. -/
theorem settles_recorded {name : String} {t : TemplateVersion}
    (ht : s.active? name = some t) (output : RenderOutput) :
    Settles (do recordTemplateUsage t output; return { template := t, output })
      (fun result after => (∃ active, result = .ok active) ∧
        RecordedAs s name result after)
      (s.withUses output.included) := by
  have hstored : t ∈ (s.withUses output.included).templates :=
    (Memory.active?_mem ht).1
  refine ensures_lift_bind
    ((ensures_recordTemplateUsage hstored output).mono ?_)
  intro _ last hrecorded
  refine ⟨⟨_, rfl⟩, fun active hactive => ?_⟩
  obtain rfl := Except.ok.inj hactive
  exact ⟨ht, hrecorded⟩

/-- Of a render that fails nothing is demanded. -/
theorem recordedAs_error (s : Memory) (name : String) (error : EngineError)
    (after : Memory) :
    RecordedAs s name (.error error) after := by
  intro active hactive
  cases hactive

/-- A render of a name succeeds if the name has an active version, and is
recorded. -/
theorem settles_renderActive (h : s.Consistent) (config : Config)
    (name : String) (params : Parameters) :
    Settles (renderActive config name params)
      (fun result after =>
        ((∃ active, result = .ok active) ↔ (s.active? name).isSome) ∧
        RecordedAs s name result after) s := by
  refine settles_found_bind (fun _ => rfl) (fun hnone => ?_) fun t ht => ?_
  · exact ⟨by simp [hnone], recordedAs_error s name _ _⟩
  refine ensures_lift_bind ((ensures_renderOutput_uses h config _ _).mono ?_)
  intro output after huses
  rw [huses]
  refine (settles_recorded ht output).mono fun result last hrecorded => ?_
  exact ⟨iff_of_true hrecorded.1 (Option.isSome_of_eq_some ht), hrecorded.2⟩

/-- A strict render that succeeds is recorded. -/
theorem settles_renderActiveStrict (h : s.Consistent) (config : Config)
    (name : String) (params : Parameters) :
    Settles (renderActiveStrict config name params) (RecordedAs s name) s := by
  refine settles_found_bind (fun _ => rfl)
    (fun _ => recordedAs_error s name _ _) fun t ht => ?_
  dsimp only
  split
  · refine ensures_service_bind ((settles_renderChecked h config _ _).mono
      fun result after huses => ?_)
    cases result with
    | error error => exact recordedAs_error s name _ _
    | ok output =>
        rw [huses output rfl]
        exact (settles_recorded ht output).mono fun _ _ hrecorded => hrecorded.2
  · exact settles_fail (recordedAs_error s name _ _)

/-! ### Renders that fail -/

/-- A checked render that fails leaves the store alone. -/
theorem cleanly_renderChecked (config : Config) (content : String)
    (params : Parameters) (s : Memory) :
    Concludes (renderChecked config content params) (Clean s) s := by
  unfold Concludes
  rw [Memory.run_renderChecked]
  refine (Program.ensures_bind _ s).mpr
    ((ensures_prefetch config content s).mono ?_)
  intro loaded after hloaded
  obtain ⟨rfl, -⟩ := hloaded
  split
  · exact clean_same after _
  · rename_i output _
    exact (Program.ensures_bind _ after).mpr
      (Program.ensures_of_forall (fun _ last => clean_ok after last output) _
        after)

/-- A render of a name that fails leaves the store alone. -/
theorem cleanly_renderActive (config : Config) (name : String)
    (params : Parameters) (s : Memory) :
    Concludes (renderActive config name params) (Clean s) s := by
  refine cleanly_read_bind (fun _ => rfl) fun t => ?_
  refine (ensures_renderVersion config params t s).mono ?_
  intro result after hrendered
  obtain ⟨active, rfl, -⟩ := hrendered
  exact clean_ok s after active

/-- So does a strict one. -/
theorem cleanly_renderActiveStrict (config : Config) (name : String)
    (params : Parameters) (s : Memory) :
    Concludes (renderActiveStrict config name params) (Clean s) s := by
  refine cleanly_read_bind (fun _ => rfl) fun t => ?_
  dsimp only
  split
  · refine ensures_service_bind
      ((cleanly_renderChecked config _ _ s).mono fun result after hclean => ?_)
    cases result with
    | error error => exact hclean error rfl ▸ clean_same after _
    | ok output =>
        exact ensures_lift_bind
          (Program.ensures_of_forall (fun _ last => clean_ok s last _) _ after)
  · exact concludes_fail (clean_same s _)

/-! ### What renders change -/

/-- **Rendering only counts.**  In every state that calls lead to, and whatever
the text, the values and the include depth: a render that nothing disturbs adds
to the uses of each active component how often its name is among what was put
in, and changes nothing else.  A render of an active version, which succeeds if
there is one, adds one record besides, of that version and with the number of
placeholders left open.  A render that fails, however its calls end, changes
nothing. -/
theorem render_only_counts_uses (h : Memory.Reachable s) (config : Config) :
    (∀ content params output after,
      Program.Runs (I := StoreCalls) Memory.Answers
        (renderOutput config content params) s output after →
          after = s.withUses output.included) ∧
    (∀ content params output after,
      Program.Runs (I := StoreCalls) Memory.Answers
        (renderChecked config content params).run s (.ok output) after →
          after = s.withUses output.included) ∧
    (∀ name params result after,
      Program.Runs (I := StoreCalls) Memory.Answers
        (renderActive config name params).run s result after →
      ((∃ active, result = .ok active) ↔ (s.active? name).isSome) ∧
      ∀ active, result = .ok active →
        s.active? name = some active.template ∧
        ∃ now, after = rendered now active s) ∧
    (∀ name params active after,
      Program.Runs (I := StoreCalls) Memory.Answers
        (renderActiveStrict config name params).run s (.ok active) after →
      s.active? name = some active.template ∧
      ∃ now, after = rendered now active s) ∧
    (∀ content params error after,
      Program.Runs (I := StoreCalls) Memory.Ends
        (renderChecked config content params).run s (.error error) after →
          after = s) ∧
    (∀ name params error after,
      Program.Runs (I := StoreCalls) Memory.Ends
        (renderActive config name params).run s (.error error) after →
          after = s) ∧
    ∀ name params error after,
      Program.Runs (I := StoreCalls) Memory.Ends
        (renderActiveStrict config name params).run s (.error error) after →
          after = s := by
  have hconsistent := Memory.consistent_of_reachable h
  refine ⟨fun content params output after hruns => ?_,
    fun content params output after hruns => ?_,
    fun name params result after hruns => ?_,
    fun name params active after hruns => ?_,
    fun content params error after hruns => ?_,
    fun name params error after hruns => ?_,
    fun name params error after hruns => ?_⟩
  · exact (ensures_renderOutput_uses hconsistent config content params).of_runs
      hruns
  · exact (settles_renderChecked hconsistent config content params).of_runs
      hruns output rfl
  · exact (settles_renderActive hconsistent config name params).of_runs hruns
  · exact (settles_renderActiveStrict hconsistent config name params).of_runs
      hruns active rfl
  · exact (cleanly_renderChecked config content params s).of_runs hruns
      error rfl
  · exact (cleanly_renderActive config name params s).of_runs hruns error rfl
  · exact (cleanly_renderActiveStrict config name params s).of_runs hruns
      error rfl

/-- A greeting that includes one component twice and one once, both of which
include a third.  A component that there is not counts for nothing, and a
missing value is recorded. -/
theorem render_only_counts_uses_shared :
    let s := Memory.empty.after ⟨0, 0⟩
      [.putComponent (Memory.snippet "base" "B"),
        .putComponent (Memory.snippet "left" "L{{include base}}"),
        .putComponent
          (Memory.snippet "right" "R{{include base}}{{include gone}}"),
        .insertVersion { Memory.greeting 1 true with
          fields :=
            ⟨"{{include left}}{{include right}}{{include left}} {{who}}",
              defaultCategory, [], []⟩ } (Memory.greetingEntry 1)]
    Memory.Reachable s ∧
    ∃ active after,
      Program.Runs (I := StoreCalls) Memory.Answers
        (renderActive .default "greeting" []).run s (.ok active) after ∧
      (∃ now, after = rendered now active s) ∧
      after.components.map (fun c => (c.name, c.usageCount)) =
        [("base", 3), ("left", 2), ("right", 1)] ∧
      after.usage.map UsageRecord.unresolvedCount = [1] := by
  intro s
  have hs : Memory.Reachable s := Memory.Reachable.empty.after _ _
  obtain ⟨result, after, hruns, hsucceeds, hcomponents, husage⟩ :
      ∃ result after,
      Program.Runs (I := StoreCalls) Memory.Answers
        (renderActive .default "greeting" []).run s result after ∧
      result.isOk = true ∧
      after.components.map (fun c => (c.name, c.usageCount)) =
        [("base", 3), ("left", 2), ("right", 1)] ∧
      after.usage.map UsageRecord.unresolvedCount = [1] :=
    ⟨_, _, Program.runs_run (Memory.answers_reply ⟨0, 0⟩) _
      _, by decide +kernel, by decide +kernel,
      by decide +kernel⟩
  obtain ⟨-, -, hactive, -⟩ := render_only_counts_uses hs .default
  cases result with
  | error error => cases hsucceeds
  | ok active =>
      exact ⟨hs, active, after, hruns, ((hactive _ _ _ _ hruns).2 active rfl).2,
        hcomponents, husage⟩

end Rendering

end TemplateRegistry
