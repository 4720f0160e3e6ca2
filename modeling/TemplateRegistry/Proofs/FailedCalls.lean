import TemplateRegistry.Proofs.ManagedStates
/-!
# Calls that fail

A call that ends with an error has done nothing.  For a call of the store this
is so because every check comes before the first change, and because a version
that was found is found again after the one before it has stepped aside.  A call
of a manager makes several calls of the store; only the last of them writes, and
an activation is tried again only after one that has failed.

* `Memory.spared_answer` — calls of the store;
* `Memory.template?_takeOver` — the second lookup of an activation finds what
  the first one found;
* `Service.Concludes` — how a service can end, and in which state, by the parts
  of the service;
* `cleanly_service`, `cleanly_read` — calls of managers;
* `failed_calls_leave_no_trace` — all of this in one statement.
-/

namespace TemplateRegistry

namespace Memory

variable {s : Memory}

/-! ### Calls of the store -/

/-- A result that is an error goes with the state there was. -/
def Spared {α : Type} (s : Memory)
    (answer : Except RegistryError α × Memory) : Prop :=
  ∀ error, answer.1 = .error error → answer.2 = s

/-- A call that refuses with the state as it was has spared it. -/
theorem Spared.of_error {α : Type} {answer : Except RegistryError α × Memory}
    {error : RegistryError} (h : answer = (.error error, s)) :
    s.Spared answer := by
  intro _ _
  rw [h]

/-- A call that succeeds has nothing to spare. -/
theorem Spared.of_ok {α : Type} {answer : Except RegistryError α × Memory}
    {value : α} {after : Memory} (h : answer = (.ok value, after)) :
    s.Spared answer := by
  intro error herror
  rw [h] at herror
  cases herror

/-- **A call of the store that fails** leaves the state as it was, the last id
included. -/
theorem spared_answer (now : Timestamp) (call : StoreCall) (s : Memory) :
    s.Spared (answer now call s) := by
  cases call with
  | insertVersion new entry =>
      rcases insertVersion_cases now new entry s with ⟨error, heq⟩ | ⟨-, -, heq⟩
      · exact .of_error heq
      · exact .of_ok heq
  | swapActive id author notes =>
      rcases swapActive_cases now id author notes s with
        ⟨error, heq⟩ | ⟨target, -, -, heq⟩ | ⟨target, -, -, heq⟩
      · exact .of_error heq
      · exact .of_ok heq
      · exact .of_ok heq
  | deleteFamily name =>
      rcases deleteFamily_cases name s with ⟨-, error, heq⟩ | ⟨-, heq⟩
      · exact .of_error heq
      · exact .of_ok heq
  | recordTemplateUsage id unresolvedCount =>
      rcases recordTemplateUsage_cases now id unresolvedCount s
        with ⟨error, heq⟩ | ⟨t, -, heq⟩
      · exact .of_error heq
      · exact .of_ok heq
  | putComponent new =>
      rcases putComponent_cases now new s with ⟨error, heq⟩ |
        ⟨prepared, c, -, -, -, heq⟩
      · exact .of_error heq
      · exact .of_ok heq
  | deactivateComponent name =>
      rcases deactivateComponent_cases now name s with ⟨error, heq⟩ |
        ⟨c, -, -, heq⟩
      · exact .of_error heq
      · exact .of_ok heq
  | incrementComponentUsage id =>
      rcases incrementComponentUsage_cases id s with ⟨error, heq⟩ | heq
      · exact .of_error heq
      · exact .of_ok heq
  | _ => exact fun _ _ => rfl

/-- A call that is over without a result has left the state as it was. -/
theorem Ends.eq_of_within_eq_error {call : StoreCall} {after : Memory}
    {outcome : Outcome call.Result} (h : Memory.Ends call s outcome after)
    {operation : String} {timeout : Duration} {error : EngineError}
    (herror : Service.within operation timeout outcome = .error error) :
    after = s := by
  cases h with
  | givenUp => rfl
  | carriedOut now =>
      cases hanswer : (answer now call s).1 with
      | error failure => exact spared_answer now call s failure hanswer
      | ok value =>
          simp [reply, hanswer, Service.within, Except.mapError] at herror

/-- The version that an activation looks up is still there, and active, once the
version before it has stepped aside. -/
theorem template?_takeOver {target : TemplateVersion}
    (h : s.template? target.id = some target)
    (now : Timestamp) (author : String) (notes : Option String) :
    ((s.stepAside now target author notes (s.otherActive? target)).setActive now
        target.id true).template? target.id =
      some { target with isActive := true, updatedAt := now } := by
  rw [template?_setActive, template?_stepAside h]
  simp

/-- An activation fails only if its version is not there at all. -/
theorem swapActive_eq_error_iff (now : Timestamp) (id : Int) (author : String)
    (notes : Option String) :
    (∃ error, (swapActive now id author notes s).1 = .error error) ↔
      s.template? id = none := by
  constructor
  · rintro ⟨error, herror⟩
    cases htarget : s.template? id with
    | none => rfl
    | some target =>
        obtain ⟨-, rfl⟩ := template?_mem htarget
        cases hactive : target.isActive with
        | true => simp [swapActive, htarget, hactive] at herror
        | false =>
            rw [swapActive_of_inactive htarget hactive now author notes]
              at herror
            cases herror
  · intro hnone
    exact ⟨_, by rw [swapActive, hnone]⟩

end Memory

/-! ### How services end -/

namespace Service

variable {α β : Type} {Q : Except EngineError α → Memory → Prop} {s : Memory}

/-- How a service ends that nothing has interfered with, and what the store is
then. -/
def Concludes (f : Service α) (Q : Except EngineError α → Memory → Prop)
    (s : Memory) : Prop :=
  Program.Ensures (I := StoreCalls) Memory.Ends Q f.run s

theorem concludes_pure {value : α} (h : Q (.ok value) s) :
    Concludes (pure value : Service α) Q s := h

theorem concludes_fail {error : RegistryError}
    (h : Q (.error (.registry error)) s) :
    Concludes (fail error : Service α) Q s := h

/-- A check concludes with its error, or lets the service go on. -/
theorem concludes_ofExcept_bind {result : Except RegistryError β}
    {f : β → Service α}
    (hfailed : ∀ error, result = .error error → Q (.error (.registry error)) s)
    (h : ∀ value, result = .ok value → Concludes (f value) Q s) :
    Concludes (ofExcept result >>= f) Q s := by
  unfold Concludes
  rw [run_ofExcept_bind]
  cases result with
  | error error => exact hfailed error rfl
  | ok value => exact h value rfl

/-- A call of the store whose failure ends the service, and then the rest. -/
theorem concludes_call_bind {config : Config} {c : StoreCall}
    {f : c.Result → Service α} (hfailed : ∀ error, Q (.error error) s)
    (h : ∀ now value after, Memory.answer now c s = (.ok value, after) →
      Concludes (f value) Q after) :
    Concludes (call config c >>= f) Q s := by
  unfold Concludes
  rw [run_call_bind]
  intro outcome after hends
  unfold afterCall
  split
  · rename_i error hresult
    rw [hends.eq_of_within_eq_error hresult]
    exact hfailed error
  · rename_i value hresult
    obtain ⟨now, hanswer⟩ := hends.answer_eq_ok (within_eq_ok hresult)
    exact h now value after hanswer

/-- A call of the store as the end of a service. -/
theorem concludes_call {config : Config} {c : StoreCall}
    {Q : Except EngineError c.Result → Memory → Prop}
    (hfailed : ∀ error, Q (.error error) s)
    (h : ∀ now value after, Memory.answer now c s = (.ok value, after) →
      Q (.ok value) after) :
    Concludes (call config c) Q s := by
  have hpure : Concludes (call config c >>= pure) Q s :=
    concludes_call_bind hfailed fun now value after hanswer =>
      h now value after hanswer
  rwa [bind_pure] at hpure

/-- A failure leaves the store as it was. -/
def Clean (s : Memory) (result : Except EngineError α)
    (after : Memory) : Prop :=
  ∀ error, result = .error error → after = s

/-- A state that is left as it was is clean. -/
theorem clean_same (s : Memory) (result : Except EngineError α) :
    Clean s result s :=
  fun _ _ => rfl

/-- A success is clean. -/
theorem clean_ok (s after : Memory) (value : α) :
    Clean s (.ok value) after := by
  intro error herror
  cases herror

/-- A call of the store that ends a service is clean. -/
theorem cleanly_call (config : Config) (c : StoreCall) (s : Memory) :
    Concludes (call config c) (Clean s) s :=
  concludes_call (fun _ => clean_same s _) fun _ value after _ =>
    clean_ok s after value

/-- A read before the rest of a service leaves it as clean as the rest is. -/
theorem cleanly_read_bind {config : Config} {c : StoreCall}
    {f : c.Result → Service α} (hread : ∀ now, (Memory.answer now c s).2 = s)
    (h : ∀ value, Concludes (f value) (Clean s) s) :
    Concludes (call config c >>= f) (Clean s) s := by
  refine concludes_call_bind (fun _ => clean_same s _)
    fun now value after hanswer => ?_
  have hafter : s = after := (hread now).symm.trans (congrArg Prod.snd hanswer)
  rw [← hafter]
  exact h value

/-- A check before the rest of a service leaves it as clean as the rest is. -/
theorem cleanly_ofExcept_bind {result : Except RegistryError β}
    {f : β → Service α} (h : ∀ value, Concludes (f value) (Clean s) s) :
    Concludes (ofExcept result >>= f) (Clean s) s :=
  concludes_ofExcept_bind (fun _ _ => clean_same s _) fun value _ => h value

end Service

/-! ### Calls of managers -/

namespace Lifecycle

open Service

variable {s : Memory}

/-- A family is created as one call, after checks. -/
theorem cleanly_createTemplate (config : Config) (request : TemplateRequest) :
    Concludes (createTemplate config request) (Clean s) s := by
  unfold createTemplate
  refine cleanly_ofExcept_bind fun _ => cleanly_ofExcept_bind fun _ =>
    cleanly_ofExcept_bind fun fields =>
    cleanly_read_bind (fun _ => rfl) fun highest => ?_
  split
  · exact concludes_fail (clean_same s _)
  · exact cleanly_call config _ s

/-- A version is created by one call, after reads and checks. -/
theorem cleanly_createVersion (config : Config) (request : VersionRequest) :
    Concludes (createVersion config request) (Clean s) s := by
  unfold createVersion
  refine cleanly_ofExcept_bind fun _ => cleanly_ofExcept_bind fun _ =>
    cleanly_ofExcept_bind fun _ => cleanly_ofExcept_bind fun fields =>
    cleanly_read_bind (fun _ => rfl) fun highest => ?_
  split
  · exact concludes_fail (clean_same s _)
  · exact cleanly_ofExcept_bind fun _ =>
      cleanly_read_bind (fun _ => rfl) fun latest =>
      cleanly_call config _ s

/-- However often an activation is tried, what it leaves behind after an error
is what each of its tries has left behind. -/
theorem cleanly_swapActive (config : Config) (id : Int) (author : String)
    (notes : Option String) (retries : Nat) :
    Concludes (swapActive config id author notes retries) (Clean s) s := by
  induction retries with
  | zero => exact cleanly_call config _ s
  | succ retries ih =>
      unfold Concludes
      rw [run_swapActive_succ]
      intro outcome after hends
      unfold afterSwap
      split
      next t _ => exact clean_ok s after t
      next error hresult =>
        rw [hends.eq_of_within_eq_error hresult]
        split
        · exact ih
        · exact clean_same s _

/-- **Calls of managers** that end with an error leave the store as it was. -/
theorem cleanly_service (config : Config) (call : ManagerCall) :
    Concludes (call.service config) (Clean s) s := by
  cases call with
  | createTemplate request => exact cleanly_createTemplate config request
  | createVersion request => exact cleanly_createVersion config request
  | newVersion id fields author notes =>
      exact cleanly_read_bind (fun _ => rfl) fun _ =>
        cleanly_createVersion config _
  | activate id author notes =>
      exact cleanly_ofExcept_bind fun _ => cleanly_ofExcept_bind fun _ =>
        cleanly_swapActive config id author notes config.activationRetries
  | rollback id version author =>
      exact cleanly_ofExcept_bind fun _ =>
        cleanly_read_bind (fun _ => rfl) fun _ =>
        cleanly_read_bind (fun _ => rfl) fun _ =>
        cleanly_read_bind (fun _ => rfl) fun _ =>
        cleanly_call config _ s
  | deleteFamily id =>
      -- the only one that goes on after it has written: with its result
      exact cleanly_read_bind (fun _ => rfl) fun t =>
        concludes_call_bind (fun _ => clean_same s _) fun _ deleted after _ =>
          concludes_pure (clean_ok s after _)

/-- Reading leaves the store as it was. -/
theorem cleanly_read (config : Config) (read : ManagerRead) :
    Concludes (read.service config) (Clean s) s := by
  cases read <;> exact cleanly_call config _ s

/-- **Failed calls leave no trace.**  Whatever the state of the store: a call of
the store that fails leaves it as it was, the last id included; an activation
fails only if its version is not there, since after the version before it has
stepped aside its own is found again; and every call of a manager, to write or
to read, that nothing interferes with and that ends with an error leaves the
store as it was, whichever of its calls has failed or has been given up. -/
theorem failed_calls_leave_no_trace (s : Memory) :
    (∀ now call error, (Memory.answer now call s).1 = .error error →
      (Memory.answer now call s).2 = s) ∧
    (∀ now id author notes,
      ((∃ error, (Memory.swapActive now id author notes s).1 = .error error) ↔
        s.template? id = none) ∧
      ∀ target, s.template? id = some target →
        ((s.stepAside now target author notes (s.otherActive? target)).setActive
            now id true).template? id =
          some { target with isActive := true, updatedAt := now }) ∧
    (∀ config (call : ManagerCall) error after,
      Program.Runs (I := StoreCalls) Memory.Ends (call.service config).run s
          (.error error) after →
        after = s) ∧
    ∀ config (read : ManagerRead) error after,
      Program.Runs (I := StoreCalls) Memory.Ends (read.service config).run s
          (.error error) after →
        after = s := by
  refine ⟨fun now call => Memory.spared_answer now call s,
    fun now id author notes => ?_,
    fun config call error after hruns => ?_,
    fun config read error after hruns => ?_⟩
  · refine ⟨Memory.swapActive_eq_error_iff now id author notes,
      fun target htarget => ?_⟩
    obtain ⟨-, rfl⟩ := Memory.template?_mem htarget
    exact Memory.template?_takeOver htarget now author notes
  · exact (cleanly_service config call).of_runs hruns error rfl
  · exact (cleanly_read config read).of_runs hruns error rfl

/-- A template is to go back to a version it does not have: the store finds the
template, then misses the version, and is left as it was. -/
theorem rollback_to_missing_version_leaves_no_trace :
    let s := ((createTemplate .default
      ⟨"greeting", ⟨"Hello", defaultCategory, [], []⟩, "ann"⟩).run.run
        (Memory.reply ⟨0, 0⟩) .empty).2
    s.lastId = 2 ∧ Program.Runs (I := StoreCalls) Memory.Ends
      ((ManagerCall.rollback 1 7 "ann").service .default).run s
      (.error (.registry (.templateNotFound "greeting@7"))) s := by
  intro s
  have hreply : ∀ (call : StoreCall) x,
      Memory.Ends call x (Memory.reply ⟨0, 0⟩ call x).1
        (Memory.reply ⟨0, 0⟩ call x).2 :=
    fun _ _ => .carriedOut ⟨0, 0⟩
  have hruns := Program.runs_run (I := StoreCalls) hreply
    ((ManagerCall.rollback 1 7 "ann").service .default).run s
  have hfails : (((ManagerCall.rollback 1 7 "ann").service .default).run.run
      (Memory.reply ⟨0, 0⟩) s).1 =
        .error (.registry (.templateNotFound "greeting@7")) := by
    rfl
  rw [hfails] at hruns
  obtain ⟨-, -, hmanaged, -⟩ := failed_calls_leave_no_trace s
  have hsame := hmanaged .default (.rollback 1 7 "ann") _ _ hruns
  rw [hsame] at hruns
  exact ⟨by decide +kernel, hruns⟩

end Lifecycle

end TemplateRegistry
