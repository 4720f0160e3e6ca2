import TemplateRegistry.Proofs.AcyclicComponents
import TemplateRegistry.Proofs.ProgramRuns
import TemplateRegistry.Proofs.SuppliedValues
import TemplateRegistry.Service.Lifecycle
/-!
# Renders of active versions

A render of an active version completes the values with the defaults that the
version declares; a strict one first asks for the required parameters that have
neither a value nor a default.  Both of these go by the keys of the values
alone, whereas a placeholder is also content with a path of keys.  So a value
that a placeholder would find by a path can be hidden by a default, and the
strict render can ask for it in vain; nothing else can go wrong between them.

Nothing is assumed here of the store but its reply to the first request: the
statements hold of every run, whatever the store replies to the others.

* `Serves` — that reply;
* `ensures_renderActive`, `ensures_renderActiveStrict` — how the two renders
  end;
* `supplied_values_stand` — which of the supplied values a render puts in;
* `required_values_asked_for` — what the strict render asks for.
-/

namespace TemplateRegistry

namespace Markup

variable {params : Parameters} {name : String}

/-- A placeholder for a value is filled with its text. -/
theorem fill_placeholder {v : Value} (h : lookup params name = some v)
    (tag : List Char) :
    (Segment.placeholder name tag).fill params = v.display.toList := by
  simp only [Segment.fill, h]

/-- A name that stands for a value is never among those without one. -/
theorem not_mem_unresolved (h : (lookup params name).isSome) (depth : Nat)
    (content : String) (components : Components) :
    name ∉ (render depth content params components).unresolved := by
  intro hmem
  obtain ⟨segment, -, hsegment⟩ := List.mem_filterMap.mp hmem
  cases segment with
  | literal text => cases hsegment
  | placeholder other tag =>
      simp only [Segment.unresolved?, Option.ite_none_right_eq_some,
        Option.some.injEq] at hsegment
      obtain ⟨hnone, rfl⟩ := hsegment
      rw [Option.isNone_iff_eq_none.mp hnone] at h
      cases h

/-- A checked render is the render itself or a cycle. -/
theorem renderChecked_cases (depth : Nat) (content : String)
    (params : Parameters) (components : Components) :
    (∃ path, renderChecked depth content params components =
        .error (.componentCycle path)) ∨
      renderChecked depth content params components =
        .ok (render depth content params components) := by
  unfold renderChecked
  cases hcycles : (render depth content params components).cycles with
  | nil => exact Or.inr (by simp only [hcycles])
  | cons path rest => exact Or.inl ⟨path, by simp only [hcycles]⟩

end Markup

namespace Rendering

open Markup

variable {σ α β : Type}
  {replies : (call : StoreCall) → σ → Outcome call.Result → σ → Prop}
variable {x : σ} {name : String} {t : TemplateVersion}

/-! ### Runs over any store -/

/-- Whatever a store replies to a request for the active version of a name, it
is this version. -/
def Serves (replies : (call : StoreCall) → σ → Outcome call.Result → σ → Prop)
    (x : σ) (name : String) (t : TemplateVersion) : Prop :=
  ∀ outcome y, replies (.getActive name) x outcome y → outcome = .ended (.ok t)

/-- A service that first asks for the active version goes on with it. -/
theorem ensures_getActive_bind {config : Config}
    {f : TemplateVersion → Service α} {Q : Except EngineError α → σ → Prop}
    (hserves : Serves replies x name t)
    (h : ∀ y, Program.Ensures (I := StoreCalls) replies Q (f t).run y) :
    Program.Ensures (I := StoreCalls) replies Q
      (Service.call config (.getActive name) >>= f).run x := by
  rw [Service.run_call_bind]
  intro outcome y hreply
  rw [hserves outcome y hreply]
  exact h y

/-- One service after another. -/
theorem ensures_service_bind {f : Service α} {g : α → Service β}
    {Q : Except EngineError β → σ → Prop}
    (h : Program.Ensures (I := StoreCalls) replies (fun result y =>
      match result with
        | .error error => Q (.error error) y
        | .ok value =>
            Program.Ensures (I := StoreCalls) replies Q
              (g value).run y) f.run x) :
    Program.Ensures (I := StoreCalls) replies Q (f >>= g).run x := by
  rw [ExceptT.run_bind]
  refine (Program.ensures_bind f.run x).mpr (h.mono fun result y hresult => ?_)
  cases result with
  | error error => exact hresult
  | ok value => exact hresult

/-- A program that cannot fail, and then the rest. -/
theorem ensures_lift_bind {p : Program StoreCalls α} {g : α → Service β}
    {Q : Except EngineError β → σ → Prop}
    (h : Program.Ensures (I := StoreCalls) replies
      (fun value y =>
        Program.Ensures (I := StoreCalls) replies Q (g value).run y) p x) :
    Program.Ensures (I := StoreCalls) replies Q
      ((liftM p : Service α) >>= g).run x := by
  rw [Service.run_lift_bind]
  exact (Program.ensures_bind p x).mpr h

/-- A render ends with the pure one over the components it has loaded. -/
theorem ensures_renderOutput (config : Config) (content : String)
    (params : Parameters) (x : σ) :
    Program.Ensures (I := StoreCalls) replies
      (fun output _ => ∃ components,
        output = Markup.render config.maxIncludeDepth content params components)
      (renderOutput config content params) x := by
  refine (Program.ensures_bind _ x).mpr
    (Program.ensures_of_forall (fun loaded y => ?_) _ x)
  refine (Program.ensures_bind _ y).mpr
    (Program.ensures_of_forall (fun _ _ => ?_) _ y)
  exact ⟨loaded.texts, rfl⟩

/-- So does a checked render, or it ends with a cycle. -/
theorem ensures_renderChecked (config : Config) (content : String)
    (params : Parameters) (x : σ) :
    Program.Ensures (I := StoreCalls) replies
      (fun result _ => match result with
        | .error error => ∃ path, error = .registry (.componentCycle path)
        | .ok output => ∃ components,
            output = Markup.render config.maxIncludeDepth content params
              components)
      (renderChecked config content params).run x := by
  rw [Memory.run_renderChecked]
  refine (Program.ensures_bind _ x).mpr
    (Program.ensures_of_forall (fun loaded y => ?_) _ x)
  rcases renderChecked_cases config.maxIncludeDepth content params
      loaded.texts with
    ⟨path, hcycle⟩ | hrendered
  · rw [hcycle]
    exact ⟨path, rfl⟩
  · rw [hrendered]
    exact (Program.ensures_bind _ y).mpr
      (Program.ensures_of_forall (fun _ _ => ⟨loaded.texts, rfl⟩) _ y)

/-! ### The two renders of an active version -/

variable (config : Config) (values : Parameters)

/-- What is left of a render once the active version is known. -/
def renderVersion (t : TemplateVersion) : Service ActiveRender := do
  let output ← renderOutput config t.content (applyDefaults t.parameters values)
  recordTemplateUsage t output
  return { template := t, output }

/-- The same of a strict render. -/
def renderVersionStrict (t : TemplateVersion) : Service ActiveRender := do
  let missing := missingRequired t.parameters values
  if missing.isEmpty then
    let output ← renderChecked config t.content
      (applyDefaults t.parameters values)
    recordTemplateUsage t output
    return { template := t, output }
  else
    Service.fail (missingParameters missing)

/-- The result of a render of a version with its defaults. -/
def IsRenderOf (t : TemplateVersion) (active : ActiveRender) : Prop :=
  active.template = t ∧ ∃ components, active.output =
    Markup.render config.maxIncludeDepth t.content
      (applyDefaults t.parameters values) components

/-- The result of a strict render: what is missing is asked for, and if nothing
is, it is a render or a cycle. -/
def IsStrictRenderOf (t : TemplateVersion)
    (result : Except EngineError ActiveRender) : Prop :=
  (missingRequired t.parameters values ≠ [] ∧ result =
    .error (.registry
      (missingParameters (missingRequired t.parameters values)))) ∨
  (missingRequired t.parameters values = [] ∧
    ((∃ path, result = .error (.registry (.componentCycle path))) ∨
      ∃ active, result = .ok active ∧ IsRenderOf config values t active))

/-- A render of a version gives its content with the values that it has. -/
theorem ensures_renderVersion (t : TemplateVersion) (x : σ) :
    Program.Ensures (I := StoreCalls) replies
      (fun result _ => ∃ active, result = .ok active ∧
        IsRenderOf config values t active)
      (renderVersion config values t).run x := by
  refine ensures_lift_bind ((ensures_renderOutput config _ _ x).mono
    fun output y houtput => ?_)
  refine ensures_lift_bind (Program.ensures_of_forall (fun _ _ => ?_) _ y)
  exact ⟨_, rfl, rfl, houtput⟩

/-- So does a strict one, unless a value is missing. -/
theorem ensures_renderVersionStrict (t : TemplateVersion) (x : σ) :
    Program.Ensures (I := StoreCalls) replies
      (fun result _ => IsStrictRenderOf config values t result)
      (renderVersionStrict config values t).run x := by
  unfold renderVersionStrict
  by_cases hmissing : missingRequired t.parameters values = []
  · rw [if_pos (List.isEmpty_iff.mpr hmissing)]
    refine ensures_service_bind ((ensures_renderChecked config _ _ x).mono
      fun result y hresult => ?_)
    cases result with
    | error error =>
        obtain ⟨path, rfl⟩ := hresult
        exact Or.inr ⟨hmissing, Or.inl ⟨path, rfl⟩⟩
    | ok output =>
        refine ensures_lift_bind (Program.ensures_of_forall (fun _ _ => ?_) _ y)
        exact Or.inr ⟨hmissing, Or.inr ⟨_, rfl, rfl, hresult⟩⟩
  · rw [if_neg fun hempty => hmissing (List.isEmpty_iff.mp hempty)]
    exact Or.inl ⟨hmissing, rfl⟩

/-- **A render of an active version** succeeds. -/
theorem ensures_renderActive (hserves : Serves replies x name t) :
    Program.Ensures (I := StoreCalls) replies
      (fun result _ => ∃ active, result = .ok active ∧
        IsRenderOf config values t active)
      (renderActive config name values).run x :=
  ensures_getActive_bind hserves (ensures_renderVersion config values t)

/-- **A strict render of an active version** ends in one of three ways. -/
theorem ensures_renderActiveStrict (hserves : Serves replies x name t) :
    Program.Ensures (I := StoreCalls) replies
      (fun result _ => IsStrictRenderOf config values t result)
      (renderActiveStrict config name values).run x :=
  ensures_getActive_bind hserves (ensures_renderVersionStrict config values t)

/-! ### Values that a render puts in -/

variable {config values} {params : List ParameterDef}

/-- **Which supplied values stand.**  Take declarations that pass validation and
any values.  A name that stands for a value stands for the same one beside the
defaults if and only if no other value is a default that hides it; one that is
hidden stands for the default, is no key of the values, and has a full stop.  In
every run of a render of a version with these declarations, whatever the store
replies to the rest, the render succeeds, and wherever a placeholder of its text
has a value that is not hidden, it is filled with the text of that value. -/
theorem supplied_values_stand (hparams : validateParameters params = .ok ())
    (values : Parameters) :
    (∀ key v, lookup values key = some v →
      (lookup (applyDefaults params values) key = some v ↔
        ∀ d, Hides params values key d → d = v) ∧
      ∀ d, Hides params values key d →
        lookup (applyDefaults params values) key = some d ∧
        values.get? key = none ∧ '.' ∈ key.toList) ∧
    ∀ {σ : Type}
      {replies : (call : StoreCall) → σ → Outcome call.Result → σ → Prop}
      {x y : σ}
      {config : Config} {name : String} {t : TemplateVersion}
      {result : Except EngineError ActiveRender},
      t.parameters = params → Serves replies x name t →
      Program.Runs (I := StoreCalls) replies
        (renderActive config name values).run x result y →
      ∃ output components, result = .ok ⟨t, output⟩ ∧
        output = Markup.render config.maxIncludeDepth t.content
          (applyDefaults params values) components ∧
        ∀ key v tag, lookup values key = some v →
          (∀ d, Hides params values key d → d = v) →
          (Segment.placeholder key tag).fill (applyDefaults params values) =
            v.display.toList := by
  have hnames : (params.map ParameterDef.name).Nodup :=
    (validateParameters_eq_ok_iff.mp hparams).2.2
  refine ⟨fun key v hv => ⟨lookup_applyDefaults_eq_iff hnames hv,
      fun d hhides =>
    ⟨hhides.lookup_eq hnames, hhides.absent, hhides.dot_mem hv⟩⟩, ?_⟩
  intro σ replies x y config name t result hdeclared hserves hruns
  obtain ⟨⟨_, output⟩, rfl, rfl, components, houtput⟩ :=
    (ensures_renderActive config values hserves).of_runs hruns
  refine ⟨output, components, rfl, hdeclared ▸ houtput, ?_⟩
  intro key v tag hv hnone
  exact fill_placeholder ((lookup_applyDefaults_eq_iff hnames hv).mpr hnone) tag

/-- A declaration whose name has a full stop, with a default. -/
def guest : ParameterDef where
  name := "user.name"
  description := "Who is greeted"
  required := false
  type := .string
  defaultValue := some (.string "World")

/-- Values with a map for the same name to lead into. -/
def userBob : Parameters :=
  [("user", .object [("name", .string "Bob")])]

/-- A store with one version, which greets by a name with a full stop. -/
def greetings (declared : ParameterDef) : Memory :=
  ((Lifecycle.createTemplate .default
    ⟨"greeting", ⟨"Hello {{user.name}}", defaultCategory, [], [declared]⟩,
        "ann"⟩).run.run
      (Memory.reply ⟨0, 0⟩) .empty).2

/-- The replies of a store in memory that never hangs. -/
def promptReplies (call : StoreCall) (s : Memory)
    (outcome : Outcome call.Result) (after : Memory) : Prop :=
  (outcome, after) = Memory.reply ⟨0, 0⟩ call s

/-- The default takes the place of the value in the nested map. -/
theorem default_hides_supplied_value :
    ¬ ∀ (params : List ParameterDef) (values : Parameters) (name : String)
      (v : Value),
      validateParameters params = .ok () → lookup values name = some v →
        lookup (applyDefaults params values) name = some v := by
  intro hall
  have hkept := hall [guest] userBob "user.name" (.string "Bob") rfl rfl
  have hhidden :
    lookup (applyDefaults [guest] userBob) "user.name" =
      some (.string "World") := rfl
  rw [hhidden] at hkept
  simp at hkept

/-- The store at hand serves the active version. -/
theorem serves_promptReplies {s : Memory} (h : s.active? name = some t) :
    Serves promptReplies s name t := by
  intro outcome after hreply
  have houtcome : outcome = (Memory.reply ⟨0, 0⟩ (.getActive name) s).1 :=
    congrArg Prod.fst hreply
  rw [houtcome]
  simp [Memory.reply, Memory.answer, Memory.found, h, Except.mapError]

/-- Every program runs on prompt replies. -/
theorem runs_promptReplies (p : Program StoreCalls α) (s : Memory) :
    Program.Runs (I := StoreCalls) promptReplies p s
      (p.run (Memory.reply ⟨0, 0⟩) s).1 (p.run (Memory.reply ⟨0, 0⟩) s).2 :=
  Program.runs_run (I := StoreCalls) (fun _ _ => rfl) p s

/-- The guest is called by the default, although the map has a name; the map
itself stands. -/
theorem supplied_values_stand_but_hidden :
    validateParameters [guest] = .ok () ∧
    lookup userBob "user.name" = some (.string "Bob") ∧
    Hides [guest] userBob "user.name" (.string "World") ∧
    lookup (applyDefaults [guest] userBob) "user.name" =
      some (.string "World") ∧
    lookup (applyDefaults [guest] userBob) "user" = lookup userBob "user" ∧
    ∃ t output, Serves promptReplies (greetings guest) "greeting" t ∧
      ((renderActive .default "greeting" userBob).run.run (Memory.reply ⟨0, 0⟩)
        (greetings guest)).1 = .ok ⟨t, output⟩ ∧
      output.text = "Hello World" ∧
      (Segment.placeholder "user" []).fill (applyDefaults [guest] userBob) =
        "\x7b\"name\":\"Bob\"\x7d".toList := by
  have hparams : validateParameters [guest] = .ok () := rfl
  obtain ⟨hlookup, hrenders⟩ := supplied_values_stand hparams userBob
  have hhides : Hides [guest] userBob "user.name" (.string "World") :=
    ⟨⟨guest, List.mem_cons_self, rfl, rfl⟩, rfl⟩
  have hmap : ∀ d, Hides [guest] userBob "user" d →
      d = .object [("name", .string "Bob")] := by
    intro d hd
    cases hd.absent
  obtain ⟨t, hactive, hdeclared⟩ :
      ∃ t, (greetings guest).active? "greeting" = some t ∧
      t.parameters = [guest] := ⟨_, rfl, rfl⟩
  have hserves := serves_promptReplies hactive
  obtain ⟨output, components, hresult, -, hfill⟩ := hrenders hdeclared hserves
    (runs_promptReplies (renderActive .default "greeting" userBob).run
      (greetings guest))
  refine ⟨hparams, rfl, hhides, ((hlookup _ _ rfl).2 _ hhides).1, ?_, t, output,
    hserves, hresult, ?_, ?_⟩
  · exact ((hlookup "user" _ rfl).1).mpr hmap
  · have htext :
      (((renderActive .default "greeting" userBob).run.run (Memory.reply ⟨0, 0⟩)
        (greetings guest)).1.toOption.map fun active => active.output.text) =
          some "Hello World" := by
      decide +kernel
    rw [hresult] at htext
    exact Option.some.inj htext
  · rw [hfill "user" _ [] rfl hmap]
    decide +kernel

/-! ### Values that a strict render asks for -/

/-- The required parameters that a placeholder would find no value for, in
declared order. -/
def unresolvable (params : List ParameterDef) (values : Parameters) :
    List String :=
  (params.filter fun param =>
    param.required &&
      (lookup (applyDefaults params values) param.name).isNone).map (·.name)

/-- A required parameter is asked for if it has neither a default nor a key. -/
theorem mem_missingRequired {key : String} :
    key ∈ missingRequired params values ↔ ∃ param ∈ params, param.name = key ∧
      param.required = true ∧ param.defaultValue = none ∧
      values.get? key = none := by
  unfold missingRequired Table.contains
  simp only [List.mem_map, List.mem_filter, Bool.and_eq_true,
    Option.isNone_iff_eq_none, Bool.not_eq_true', Option.isSome_eq_false_iff]
  constructor
  · rintro ⟨param, ⟨hparam, ⟨hrequired, hdefault⟩, habsent⟩, rfl⟩
    exact ⟨param, hparam, rfl, hrequired, hdefault, habsent⟩
  · rintro ⟨param, hparam, rfl, hrequired, hdefault, habsent⟩
    exact ⟨param, ⟨hparam, ⟨hrequired, hdefault⟩, habsent⟩, rfl⟩

/-- A required parameter that is not asked for stands for a value. -/
theorem lookup_isSome_of_not_missing {param : ParameterDef}
    (hparam : param ∈ params) (hrequired : param.required = true)
    (h : param.name ∉ missingRequired params values) :
    (lookup (applyDefaults params values) param.name).isSome := by
  apply lookup_applyDefaults_isSome_of_own hparam
  by_contra hown
  obtain ⟨hdefault, habsent⟩ := not_or.mp hown
  exact h (mem_missingRequired.mpr ⟨param, hparam, rfl,
    hrequired, by simpa using hdefault, by
    simpa [Table.contains] using habsent⟩)

/-- What cannot be resolved is a part of what is asked for. -/
theorem unresolvable_eq_filter (params : List ParameterDef)
    (values : Parameters) :
    unresolvable params values =
        (missingRequired params values).filter fun key =>
      (lookup (applyDefaults params values) key).isNone := by
  unfold unresolvable missingRequired
  rw [List.filter_map, List.filter_filter]
  congr 1
  refine List.filter_congr fun param hparam => ?_
  cases hresolved : lookup (applyDefaults params values) param.name with
  | some v => simp [hresolved]
  | none =>
      have hown : ¬ (param.defaultValue.isSome ∨
        values.contains param.name) := by
        intro hown
        have hsome := lookup_applyDefaults_isSome_of_own hparam hown
        rw [hresolved] at hsome
        cases hsome
      obtain ⟨hdefault, habsent⟩ := not_or.mp hown
      simp [hresolved, Option.not_isSome_iff_eq_none.mp hdefault, habsent]

/-- What is asked for is just what cannot be resolved, unless a path of keys
leads to a value for a required name that is no key. -/
theorem missingRequired_eq_unresolvable_iff :
    missingRequired params values = unresolvable params values ↔
      ∀ param ∈ params, param.required = true → param.defaultValue = none →
        values.get? param.name = none →
        lookup (applyDefaults params values) param.name = none := by
  rw [unresolvable_eq_filter, eq_comm, List.filter_eq_self]
  simp only [mem_missingRequired, Option.isNone_iff_eq_none]
  constructor
  · intro h param hparam hrequired hdefault habsent
    exact h _ ⟨param, hparam, rfl, hrequired, hdefault, habsent⟩
  · rintro h _ ⟨param, hparam, rfl, hrequired, hdefault, habsent⟩
    exact h param hparam hrequired hdefault habsent

/-- A name that is asked for and has a value nevertheless has a full stop. -/
theorem dot_mem_of_missingRequired {key : String} {v : Value}
    (hnames : (params.map ParameterDef.name).Nodup)
    (hkey : key ∈ missingRequired params values)
    (hv : lookup (applyDefaults params values) key = some v) :
    '.' ∈ key.toList := by
  obtain ⟨param, hparam, rfl, -, hdefault, habsent⟩ :=
    mem_missingRequired.mp hkey
  have hentry : (applyDefaults params values).get? param.name = none := by
    rw [get?_applyDefaults, habsent, Option.none_or,
      Option.eq_none_iff_forall_ne_some]
    intro d hd
    obtain ⟨other, hother, hname, hsome⟩ :=
      (declaredDefault?_eq_some_iff hnames).mp hd
    obtain rfl : other = param :=
      List.inj_on_of_nodup_map hnames hother hparam hname
    rw [hdefault] at hsome
    cases hsome
  obtain ⟨first, key, path, -, hparts, -⟩ :=
    (lookup_eq_some_iff_of_absent hentry).mp hv
  exact dot_mem_of_nameParts hparts

/-- **What a strict render asks for.**  Take declarations that pass validation
and any values.  Of what is asked for, in declared order, the names that the
completed values do not resolve are just the required parameters without a
value; so nothing else is asked for if and only if no path of keys leads to a
value for a required name that has neither a default nor a key, and only a name
with a full stop can be asked for in vain.  In every run of a strict render of a
version with these declarations, whatever the store replies to the rest, the
render is refused if and only if something is asked for, and otherwise leaves no
required parameter unresolved. -/
theorem required_values_asked_for (hparams : validateParameters params = .ok ())
    (values : Parameters) :
    unresolvable params values =
      (missingRequired params values).filter (fun key =>
        (lookup (applyDefaults params values) key).isNone) ∧
    (missingRequired params values = unresolvable params values ↔
      ∀ param ∈ params, param.required = true → param.defaultValue = none →
        values.get? param.name = none →
        lookup (applyDefaults params values) param.name = none) ∧
    (∀ key ∈ missingRequired params values, ∀ v,
      lookup (applyDefaults params values) key = some v → '.' ∈ key.toList) ∧
    ∀ {σ : Type}
      {replies : (call : StoreCall) → σ → Outcome call.Result → σ → Prop}
      {x y : σ}
      {config : Config} {name : String} {t : TemplateVersion}
      {result : Except EngineError ActiveRender},
      t.parameters = params → Serves replies x name t →
      Program.Runs (I := StoreCalls) replies
        (renderActiveStrict config name values).run x result y →
      (result =
        .error (.registry (missingParameters (missingRequired params values))) ↔
        missingRequired params values ≠ []) ∧
      ∀ active, result = .ok active → ∀ param ∈ params, param.required = true →
        param.name ∉ active.output.unresolved := by
  have hnames : (params.map ParameterDef.name).Nodup :=
    (validateParameters_eq_ok_iff.mp hparams).2.2
  refine ⟨unresolvable_eq_filter params values,
    missingRequired_eq_unresolvable_iff,
    fun key hkey v => dot_mem_of_missingRequired hnames hkey, ?_⟩
  intro σ replies x y config name t result hdeclared hserves hruns
  subst hdeclared
  rcases (ensures_renderActiveStrict config values hserves).of_runs hruns with
    ⟨hmissing, rfl⟩ |
      ⟨hnone, ⟨path, rfl⟩ | ⟨active, rfl, -, components, houtput⟩⟩
  · exact ⟨iff_of_true rfl hmissing, fun active hok => by cases hok⟩
  · exact ⟨iff_of_false (by simp [missingParameters]) (not_not_intro hnone),
      fun active hok => by cases hok⟩
  · refine ⟨iff_of_false (by simp) (not_not_intro hnone), ?_⟩
    intro active' hok param hparam hrequired
    obtain rfl := Except.ok.inj hok
    rw [houtput]
    apply not_mem_unresolved
    exact lookup_isSome_of_not_missing hparam hrequired (by simp [hnone])

/-- The same declaration without a default, and required. -/
def expectedGuest : ParameterDef :=
  { guest with required := true, defaultValue := none }

/-- The value in the nested map is asked for, although the placeholder would
find it. -/
theorem resolvable_value_asked_for :
    ¬ ∀ (params : List ParameterDef) (values : Parameters),
      validateParameters params = .ok () →
        missingRequired params values = unresolvable params values := by
  intro hall
  have hsame := hall [expectedGuest] userBob rfl
  revert hsame
  decide +kernel

/-- A strict render is refused for want of a name that an ordinary one puts in;
given under its whole name it is taken. -/
theorem required_values_asked_for_in_vain :
    validateParameters [expectedGuest] = .ok () ∧
    missingRequired [expectedGuest] userBob = ["user.name"] ∧
    unresolvable [expectedGuest] userBob = [] ∧
    ∃ t output, Serves promptReplies (greetings expectedGuest) "greeting" t ∧
      ((renderActiveStrict .default "greeting" userBob).run.run
        (Memory.reply ⟨0, 0⟩) (greetings expectedGuest)).1 =
          .error (.registry (missingParameters ["user.name"])) ∧
      ((renderActiveStrict .default "greeting"
          [("user.name", .string "Bob")]).run.run
        (Memory.reply ⟨0, 0⟩) (greetings expectedGuest)).1 = .ok ⟨t, output⟩ ∧
      output.text = "Hello Bob" ∧ "user.name" ∉ output.unresolved := by
  have hparams : validateParameters [expectedGuest] = .ok () := rfl
  obtain ⟨-, -, -, hasked⟩ := required_values_asked_for hparams userBob
  obtain ⟨-, -, -, hgiven⟩ :=
    required_values_asked_for hparams [("user.name", .string "Bob")]
  have hserves : Serves promptReplies (greetings expectedGuest) "greeting" _ :=
    serves_promptReplies rfl
  have hrefused := (hasked rfl hserves
    (runs_promptReplies
      (renderActiveStrict .default "greeting" userBob).run _)).1
  have hresolved := (hgiven rfl hserves
    (runs_promptReplies
      (renderActiveStrict .default "greeting"
        [("user.name", .string "Bob")]).run _)).2
  exact ⟨hparams, by decide +kernel, by decide +kernel, _, _, hserves,
    hrefused.mpr (by decide +kernel), rfl, by decide +kernel,
    hresolved _ rfl expectedGuest List.mem_cons_self rfl⟩

end Rendering

end TemplateRegistry
