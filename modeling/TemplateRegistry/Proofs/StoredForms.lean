import TemplateRegistry.Proofs.ManagerRuns
import TemplateRegistry.Proofs.MemoryFrames
import TemplateRegistry.Proofs.NormalFields
/-!
# What is stored is in normal form

Clients create templates, add versions, roll back and delete over one store, and
put components into it, their requests coming between each other in any order.
Whatever they give, everything the store holds passes its own validation as it
is.

A version that is added was validated by the client that adds it, under a name
that was validated or read from a stored version; a rollback does not validate
what it copies, but it copies what was stored.  So the replies of the store have
to be followed as well: a version it returns is in normal form.

* `TemplateVersion.Normal`, `Component.Normal`, `Memory.Normal` — what is stored
  in normal form;
* `normal_effect` — calls that insert what is in normal form keep the store so;
* `RegistryCall`, `registry` — the clients;
* `inserts_service` — managers insert what is in normal form;
* `normal_of_isRun` — every instant of every run;
* `stored_passes_validation` — validation is a projection, and all that is
  stored is one of its results.
-/

namespace TemplateRegistry

/-- A stored version that passes validation as it is. -/
def TemplateVersion.Normal (t : TemplateVersion) : Prop :=
  validateName t.name = .ok () ∧ t.fields.validated = .ok t.fields

/-- What a stored component was put as. -/
def Component.toNew (c : Component) : NewComponent where
  name := c.name
  content := c.content
  category := c.category
  tags := c.tags

/-- A stored component that is prepared as it is. -/
def Component.Normal (c : Component) : Prop :=
  c.toNew.prepared = .ok c.toNew

/-- A version to be written that passes validation as it is. -/
def NewVersion.Normal (new : NewVersion) : Prop :=
  validateName new.name = .ok () ∧ new.fields.validated = .ok new.fields

namespace Memory

variable {s after : Memory} {now : Timestamp} {call : StoreCall}

/-- A store that holds nothing but what passes validation as it is. -/
structure Normal (s : Memory) : Prop where
  templates : ∀ t ∈ s.templates, t.Normal
  components : ∀ c ∈ s.components, c.Normal

/-- A call that inserts nothing but what passes validation as it is.  What is
put is prepared by the store. -/
def InsertsNormal : StoreCall → Prop
  | .insertVersion new _ => new.Normal
  | _ => True

/-- An empty store is normal. -/
theorem normal_empty : Memory.empty.Normal :=
  ⟨by simp [Memory.empty], by simp [Memory.empty]⟩

/-- A swap changes nothing that validation looks at. -/
theorem normal_swappedRow {target t : TemplateVersion}
    {previous : Option TemplateVersion} (h : t.Normal) :
    (swappedRow now target previous t).Normal := by
  obtain ⟨isActive, updatedAt, hrow⟩ := swappedRow_eq now target previous t
  rw [hrow]
  exact h

/-- Making a component inactive changes nothing that is prepared. -/
theorem Normal.retired (h : s.Normal) (now : Timestamp) (name : String) :
    (s.retired now name).Normal := by
  refine ⟨?_, ?_⟩
  · rw [templates_retired]
    exact h.templates
  · unfold Memory.retired
    split
    · exact h.components
    · intro c hc
      obtain ⟨d, hd, rfl⟩ := List.mem_map.mp hc
      split
      · exact h.components d hd
      · exact h.components d hd

/-- **One call.**  What is inserted in normal form is all that a call can bring
into the store, besides what it prepares itself. -/
theorem normal_effect (heffect : Effect now s call after) (hs : s.Normal)
    (hcall : InsertsNormal call) : after.Normal := by
  cases heffect with
  | nothing => exact hs
  | inserted new entry hnext hfree =>
      refine ⟨fun t ht => ?_, hs.components⟩
      rcases List.mem_append.mp ht with hold | hnew
      · exact hs.templates t hold
      · obtain rfl := List.mem_singleton.mp hnew
        exact hcall
  | @swapped target htarget author notes =>
      refine ⟨?_, ?_⟩
      · rw [templates_swapped]
        intro t ht
        obtain ⟨u, hu, rfl⟩ := List.mem_map.mp ht
        exact normal_swappedRow (hs.templates u hu)
      · rw [components_swapped]
        exact hs.components
  | familyDeleted name =>
      exact ⟨fun t ht => hs.templates t (List.mem_filter.mp ht).1,
        hs.components⟩
  | rendered ht unresolvedCount => exact ⟨hs.templates, hs.components⟩
  | @put new prepared hprepared hcheck =>
      have hretired := hs.retired now prepared.name
      refine ⟨hretired.templates, fun c hc => ?_⟩
      rcases List.mem_append.mp hc with hold | hnew
      · exact hretired.components c hold
      · obtain rfl := List.mem_singleton.mp hnew
        exact NewComponent.prepared_prepared hprepared
  | retired name => exact hs.retired now name
  | used id =>
      refine ⟨hs.templates, fun c hc => ?_⟩
      obtain ⟨d, hd, rfl⟩ := List.mem_map.mp hc
      split
      · exact hs.components d hd
      · exact hs.components d hd

/-- A version that the store returns is one that it holds. -/
theorem Normal.getTemplate (h : s.Normal) {id : Int} {t : TemplateVersion}
    (hanswer : answer now (.getTemplate id) s = (.ok t, after)) : t.Normal := by
  have hfound := found_eq_ok (congrArg Prod.fst hanswer)
  exact h.templates t (template?_mem hfound).1

/-- A version read from a normal store is normal. -/
theorem Normal.getVersion (h : s.Normal) {name : String} {version : Int}
    {t : TemplateVersion}
    (hanswer : answer now (.getVersion name version) s = (.ok t, after)) :
    t.Normal := by
  have hfound := found_eq_ok (congrArg Prod.fst hanswer)
  exact h.templates t (mem_family.mp (List.mem_of_find?_eq_some hfound)).1

end Memory

namespace Lifecycle

open Service (throughout_fail throughout_ofExcept_bind throughout_call_bind)

/-! ### Clients -/

/-- What a client does with templates over a manager, or with components over
the store. -/
inductive RegistryCall
  | manage (call : ManagerCall)
  | putComponent (new : NewComponent)
  | deactivateComponent (name : String)

namespace RegistryCall

/-- What a client gets. -/
abbrev Value : RegistryCall → Type
  | manage call => Except EngineError call.Value
  | _ => Outcome Component

/-- What is done for a client. -/
def program (config : Config) :
    (call : RegistryCall) → Program StoreCalls call.Value
  | manage call => (call.service config).run
  | putComponent new => Program.request (I := StoreCalls) (.putComponent new)
  | deactivateComponent name =>
    Program.request (I := StoreCalls) (.deactivateComponent name)

end RegistryCall

/-- Clients over one store in memory. -/
def registry (config : Config) : Sharing where
  Requests := StoreCalls
  State := Memory
  Call := RegistryCall
  Result := RegistryCall.Value
  program := RegistryCall.program config
  answers := Memory.Ends

/-! ### What managers insert -/

/-- What a reply of a store in normal form can be: a version that is looked up
is in normal form. -/
def ReturnsNormal : (call : StoreCall) → Outcome call.Result → Prop
  | .getTemplate _, .ended (.ok t) => t.Normal
  | .getVersion _ _, .ended (.ok t) => t.Normal
  | _, _ => True

/-- However a call on a normal store ends, what it returns is normal. -/
theorem returnsNormal_of_ends {call : StoreCall} {s after : Memory}
    {outcome : Outcome call.Result} (hs : s.Normal)
    (h : Memory.Ends call s outcome after) : ReturnsNormal call outcome := by
  cases call with
  | getTemplate id =>
      match outcome, h with
      | .hung, _ => trivial
      | .ended (.error _), _ => trivial
      | .ended (.ok t), h =>
        obtain ⟨now, hanswer⟩ := h.answer_eq_ok rfl
        exact hs.getTemplate hanswer
  | getVersion name version =>
      match outcome, h with
      | .hung, _ => trivial
      | .ended (.error _), _ => trivial
      | .ended (.ok t), h =>
        obtain ⟨now, hanswer⟩ := h.answer_eq_ok rfl
        exact hs.getVersion hanswer
  | _ => trivial

/-- Every request that is left to do inserts nothing but what is in normal
form. -/
abbrev Inserts {α : Type} (rest : Program StoreCalls α) : Prop :=
  Program.Throughout (I := StoreCalls) ReturnsNormal
    (fun request _ => Memory.InsertsNormal request) rest

/-- A check before the rest, which may rely on it. -/
theorem inserts_ofExcept_bind {α β : Type} {result : Except RegistryError α}
    {f : α → Service β}
    (h : ∀ value, result = .ok value → Inserts (f value).run) :
    Inserts (Service.ofExcept result >>= f).run := by
  unfold Inserts
  rw [Service.run_ofExcept_bind]
  cases result with
  | error error => exact trivial
  | ok value => exact h value rfl

/-- A call of the store as the end of what is left to do. -/
theorem inserts_call {config : Config} {c : StoreCall}
    (h : Memory.InsertsNormal c) :
    Inserts (Service.call config c).run :=
  ⟨h, fun _ _ => trivial⟩

/-- Creating a family inserts normal versions only. -/
theorem inserts_createTemplate (config : Config) (request : TemplateRequest) :
    Inserts (createTemplate config request).run := by
  unfold createTemplate
  refine inserts_ofExcept_bind fun _ hname => inserts_ofExcept_bind fun _ _ =>
    inserts_ofExcept_bind fun fields hfields =>
    throughout_call_bind trivial fun highest _ => ?_
  split
  · exact throughout_fail _
  · exact inserts_call ⟨hname, Fields.validated_validated hfields⟩

theorem inserts_createVersion (config : Config) (request : VersionRequest) :
    Inserts (createVersion config request).run := by
  unfold createVersion
  refine inserts_ofExcept_bind fun _ hname => inserts_ofExcept_bind fun _ _ =>
    inserts_ofExcept_bind fun _ _ => inserts_ofExcept_bind fun fields hfields =>
    throughout_call_bind trivial fun highest _ => ?_
  split
  · exact throughout_fail _
  · exact throughout_ofExcept_bind fun _ =>
      throughout_call_bind trivial fun latest _ =>
      inserts_call ⟨hname, Fields.validated_validated hfields⟩

/-- A rollback copies under a name that the store has returned, from a version
that it has returned. -/
theorem inserts_rollback (config : Config) (id version : Int)
    (author : String) :
    Inserts (rollback config id version author).run := by
  unfold rollback getTemplate
  exact throughout_ofExcept_bind fun _ =>
    throughout_call_bind trivial fun left hleft =>
    throughout_call_bind trivial fun copied hcopied =>
    throughout_call_bind trivial fun highest _ =>
    inserts_call ⟨hleft.1, hcopied.2⟩

/-- Making a version active inserts none. -/
theorem inserts_swapActive (config : Config) (id : Int) (author : String)
    (notes : Option String) (retries : Nat) :
    Inserts (swapActive config id author notes retries).run := by
  induction retries with
  | zero => exact inserts_call trivial
  | succ retries ih =>
      rw [run_swapActive_succ]
      refine ⟨trivial, fun outcome _ => ?_⟩
      unfold afterSwap
      split
      · exact trivial
      · split
        · exact ih
        · exact trivial

/-- **What managers insert** is in normal form. -/
theorem inserts_service (config : Config) (call : ManagerCall) :
    Inserts (call.service config).run := by
  cases call with
  | createTemplate request => exact inserts_createTemplate config request
  | createVersion request => exact inserts_createVersion config request
  | newVersion id fields author notes =>
      exact throughout_call_bind trivial fun _ _ =>
        inserts_createVersion config _
  | activate id author notes =>
      exact throughout_ofExcept_bind fun _ => throughout_ofExcept_bind fun _ =>
        inserts_swapActive config id author notes config.activationRetries
  | rollback id version author =>
      exact inserts_rollback config id version author
  | deleteFamily id =>
      exact throughout_call_bind trivial fun _ _ =>
        throughout_call_bind trivial fun _ _ => trivial

/-- Every call of the registry inserts normal records only. -/
theorem inserts_program (config : Config) (call : RegistryCall) :
    Inserts (call.program config) := by
  cases call with
  | manage call => exact inserts_service config call
  | putComponent new => exact ⟨trivial, fun _ _ => trivial⟩
  | deactivateComponent name => exact ⟨trivial, fun _ _ => trivial⟩

/-! ### Runs -/

/-- **Every instant.**  However the calls of clients come between each other,
the store holds nothing but what is in normal form. -/
theorem normal_of_isRun {config : Config}
    {run : Nat → Sharing.System (registry config)}
    (h : Sharing.IsRun Memory.empty run) (k : Nat) : (run k).shared.Normal :=
  (h.throughout Memory.Normal Memory.normal_empty (inserts_program config)
    (fun hgood hok hends => by
      obtain ⟨now, heffect⟩ := Memory.Ends.effect hends
      exact ⟨returnsNormal_of_ends hgood hends,
        Memory.normal_effect heffect hgood hok⟩) k).1

/-- **What is stored passes validation as it is.**  Validating fields, or
preparing a component, gives what is validated, or prepared, to itself.  However
the calls of clients come between each other, at every instant each stored
version has a valid name and fields that validation leaves as they are, and
preparing leaves each stored component as it is; so contents and categories are
not blank and within their limits, categories and tags trimmed, tags strictly
ascending and within theirs, and declarations sound, with names of their own. -/
theorem stored_passes_validation {config : Config}
    {run : Nat → Sharing.System (registry config)}
    (h : Sharing.IsRun Memory.empty run) :
    (∀ fields result : Fields, fields.validated = .ok result →
      result.validated = .ok result) ∧
    (∀ new result : NewComponent, new.prepared = .ok result →
      result.prepared = .ok result) ∧
    ∀ k,
      (∀ t ∈ (run k).shared.templates, validateName t.name = .ok () ∧
        t.fields.validated = .ok t.fields ∧ t.fields.Normal) ∧
      ∀ c ∈ (run k).shared.components, c.toNew.prepared = .ok c.toNew ∧
      c.toNew.Normal := by
  refine ⟨fun _ _ => Fields.validated_validated,
    fun _ _ => NewComponent.prepared_prepared, fun k => ?_⟩
  have hnormal := normal_of_isRun h k
  refine ⟨fun t ht => ?_, fun c hc => ?_⟩
  · obtain ⟨hname, hfields⟩ := hnormal.templates t ht
    exact ⟨hname, hfields, Fields.validated_eq_self_iff.mp hfields⟩
  · have hprepared := hnormal.components c hc
    exact ⟨hprepared, NewComponent.prepared_eq_self_iff.mp hprepared⟩

/-- A client creates a template with a category and tags as people write them,
another one puts a component with a blank category, and a third rolls back. -/
def untidyRun : Nat → Sharing.System (registry .default) :=
  Sharing.schedule (Memory.reply ⟨0, 0⟩) Memory.empty
    [.arrive (.manage (.createTemplate
        ⟨"greeting", ⟨"Hello", " chat ", ["b", "a", " b "], []⟩, "ann"⟩)),
      .proceed 0, .arrive (.putComponent ⟨"footer", "Bye", " ", ["x ", "x"]⟩),
      .proceed 1, .proceed 0, .arrive (.manage (.rollback 2 1 "bob")),
      .proceed 2, .proceed 2, .proceed 2, .proceed 2]

/-- What they leave is trimmed, sorted, and passes validation. -/
theorem untidyRun_passes_validation :
    Sharing.IsRun Memory.empty untidyRun ∧
    (untidyRun 10).shared.templates.map TemplateVersion.category =
      ["chat", "chat"] ∧
    (untidyRun 10).shared.templates.map TemplateVersion.tags =
      [["a", "b"], ["a", "b"]] ∧
    (untidyRun 10).shared.components.map Component.category = ["general"] ∧
    (∀ t ∈ (untidyRun 10).shared.templates, t.fields.validated = .ok t.fields) ∧
    ∀ c ∈ (untidyRun 10).shared.components, c.toNew.prepared = .ok c.toNew := by
  have hrun : Sharing.IsRun Memory.empty untidyRun :=
    Sharing.isRun_schedule (fun _ _ => Memory.Ends.carriedOut ⟨0, 0⟩) _ _
  obtain ⟨-, -, hstored⟩ := stored_passes_validation hrun
  obtain ⟨htemplates, hcomponents⟩ := hstored 10
  exact ⟨hrun, by decide +kernel, by decide +kernel, by decide +kernel,
    fun t ht => (htemplates t ht).2.1, fun c hc => (hcomponents c hc).1⟩

end Lifecycle

end TemplateRegistry
