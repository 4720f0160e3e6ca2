import TemplateRegistry.Proofs.Interleaving
import TemplateRegistry.Proofs.MemoryConsistency
import TemplateRegistry.Proofs.ServicePrograms
import TemplateRegistry.Service.Lifecycle
/-!
# Managers that share a store in memory

Any number of clients create templates and versions, activate them, roll back
and delete over one store.  Each of these takes several calls of the store, and
the calls of different clients come between each other in any order.

* `Memory.Ends` — how a call of the store can end;
* `ManagerCall`, `managers` — what clients ask for, and what they do for it;
* `careful_service` — which versions they insert;
* `consistent_of_isRun` — the records of the store belong together at every
  instant.
-/

namespace TemplateRegistry

/-- A call of a store in memory ends: it is carried out at some instant, or it
is given up before it gets hold of the state. -/
inductive Memory.Ends (call : StoreCall) (s : Memory) :
    Outcome call.Result → Memory → Prop
  | carriedOut (now : Timestamp) :
      Ends call s (reply now call s).1 (reply now call s).2
  | givenUp : Ends call s .hung s

/-- However a call ends, its effect is one that the store has. -/
theorem Memory.Ends.effect {call : StoreCall} {s after : Memory}
    {outcome : Outcome call.Result} (h : Memory.Ends call s outcome after) :
    ∃ now, Memory.Effect now s call after := by
  cases h with
  | carriedOut now => exact ⟨now, effect_answer now call s⟩
  | givenUp => exact ⟨⟨0, 0⟩, .nothing call⟩

/-- However a call ends, the store is consistent. -/
theorem Memory.Ends.consistent {call : StoreCall} {s after : Memory}
    {outcome : Outcome call.Result} (h : Memory.Ends call s outcome after)
    (hs : s.Consistent) :
    after.Consistent := by
  obtain ⟨now, heffect⟩ := h.effect
  exact consistent_effect hs heffect

/-- A call that ends with a result was carried out. -/
theorem Memory.Ends.answer_eq_ok {call : StoreCall} {s after : Memory}
    {outcome : Outcome call.Result} (h : Memory.Ends call s outcome after)
    {value : call.Result} (hvalue : outcome = .ended (.ok value)) :
    ∃ now, Memory.answer now call s = (.ok value, after) := by
  cases h with
  | givenUp => cases hvalue
  | carriedOut now =>
      refine ⟨now, ?_⟩
      unfold reply at hvalue ⊢
      cases hanswer : answer now call s with
      | mk result t =>
          rw [hanswer] at hvalue
          cases result with
          | error error => cases hvalue
          | ok other =>
              cases hvalue
              rfl

/-- An insertion changes nothing unless it ends with the version. -/
theorem Memory.Ends.insertVersion_cases {new : NewVersion} {entry : NewLogEntry}
    {s after : Memory}
    {outcome : Outcome (StoreCall.insertVersion new entry).Result}
    (h : Memory.Ends (.insertVersion new entry) s outcome after) :
    after = s ∨ ∃ t, outcome = .ended (.ok t) ∧ t.version = new.version := by
  cases h with
  | givenUp => exact Or.inl rfl
  | carriedOut now =>
      unfold reply
      have hanswer :
        answer now (.insertVersion new entry) s =
          insertVersion now new entry s := rfl
      rw [hanswer]
      rcases Memory.insertVersion_cases now new entry s with ⟨error, heq⟩ |
        ⟨-, -, heq⟩
      · rw [heq]
        exact Or.inl rfl
      · rw [heq]
        exact Or.inr ⟨_, rfl, rfl⟩

namespace Lifecycle

open Service (throughout_fail throughout_ofExcept_bind throughout_call_bind
  throughout_call afterCall_ne_ok run_call_bind within_eq_ok)

/-- What a client asks a manager for. -/
inductive ManagerCall
  | createTemplate (request : TemplateRequest)
  | createVersion (request : VersionRequest)
  | newVersion (id : Int) (fields : Fields) (author : String)
      (notes : Option String)
  | activate (id : Int) (author : String) (notes : Option String)
  | rollback (id version : Int) (author : String)
  | deleteFamily (id : Int)

namespace ManagerCall

/-- What a client gets. -/
abbrev Value : ManagerCall → Type
  | deleteFamily _ => DeletedFamily
  | _ => TemplateVersion

/-- What a manager does. -/
def service (config : Config) : (call : ManagerCall) → Service call.Value
  | createTemplate request => Lifecycle.createTemplate config request
  | createVersion request => Lifecycle.createVersion config request
  | newVersion id fields author notes =>
    Lifecycle.newVersion config id fields author notes
  | activate id author notes => Lifecycle.activate config id author notes
  | rollback id version author => Lifecycle.rollback config id version author
  | deleteFamily id => Lifecycle.deleteFamily config id

end ManagerCall

/-- Managers over one store in memory. -/
def managers (config : Config) : Sharing where
  Requests := StoreCalls
  State := Memory
  Call := ManagerCall
  Result call := Except EngineError call.Value
  program call := (call.service config).run
  answers := Memory.Ends

/-! ### What the store says -/

/-- What a reply of a store can be: a highest version is never negative. -/
def Credible : (call : StoreCall) → Outcome call.Result → Prop
  | .maxVersion _, .ended (.ok highest) => 0 ≤ highest
  | _, _ => True

/-- What a call is answered with can be relied on. -/
theorem credible_of_ends {call : StoreCall} {s after : Memory}
    {outcome : Outcome call.Result} (hs : s.Consistent)
    (h : Memory.Ends call s outcome after) : Credible call outcome := by
  cases h with
  | givenUp => cases call <;> exact trivial
  | carriedOut now =>
      cases call with
      | maxVersion name =>
          show 0 ≤ s.maxVersion name
          rw [Memory.maxVersion_eq]
          exact hs.templates.highest_nonneg name
      | _ => exact trivial

/-! ### What managers ask for -/

/-- What a request of a client is like: it inserts a first version only to make
it active, except that a rollback inserts whatever number is next, never to make
it active, and gives back just what it has inserted. -/
def ManagerCall.Careful : (call : ManagerCall) → (request : StoreCall) →
    (Outcome request.Result →
      Program StoreCalls (Except EngineError call.Value)) → Prop
  | .rollback _ _ _, .insertVersion new _, next =>
    new.isActive = false ∧ ∀ outcome t, next outcome = .done (.ok t) ↔
      outcome = .ended (.ok t)
  | .rollback _ _ _, _, next => ∀ outcome t, next outcome ≠ .done (.ok t)
  | _, .insertVersion new _, _ => new.isActive = true ∨ new.version ≠ 1
  | _, _, _ => True

/-- Every request that is left to do of a call is careful. -/
abbrev ManagerCall.CarefulRest (call : ManagerCall)
    (rest : Program StoreCalls (Except EngineError call.Value)) : Prop :=
  Program.Throughout (I := StoreCalls) Credible call.Careful rest

/-- Creating a family is careful to its end. -/
theorem carefulRest_createTemplate (config : Config)
    (request : TemplateRequest) :
    (ManagerCall.createTemplate request).CarefulRest
      (createTemplate config request).run := by
  unfold createTemplate
  refine throughout_ofExcept_bind fun _ => throughout_ofExcept_bind fun _ =>
    throughout_ofExcept_bind fun fields => ?_
  refine throughout_call_bind trivial fun highest _ => ?_
  split
  · exact throughout_fail _
  · exact throughout_call (Or.inl rfl)

/-- A version that is added to others is not the first one, whatever call adds
it. -/
theorem throughout_createVersion (config : Config) (request : VersionRequest)
    {ok : (c : StoreCall) →
      (Outcome c.Result →
        Program StoreCalls (Except EngineError TemplateVersion)) → Prop}
    (hhighest : ∀ name next, ok (.maxVersion name) next)
    (hlatest : ∀ name version next, ok (.getVersion name version) next)
    (hinsert : ∀ new entry next, new.version ≠ 1 →
      ok (.insertVersion new entry) next) :
    Program.Throughout (I := StoreCalls) Credible ok
      (createVersion config request).run := by
  unfold createVersion
  refine throughout_ofExcept_bind fun _ => throughout_ofExcept_bind fun _ =>
    throughout_ofExcept_bind fun _ => throughout_ofExcept_bind fun fields => ?_
  refine throughout_call_bind (hhighest _ _) fun highest hnonneg => ?_
  have hnext : ∀ n : Int, 0 ≤ n → ¬ n = 0 → n + 1 ≠ 1 := by omega
  split
  · exact throughout_fail _
  · rename_i hzero
    refine throughout_ofExcept_bind fun _ =>
      throughout_call_bind (hlatest _ _ _) fun latest _ => ?_
    exact throughout_call (hinsert _ _ _ (hnext highest hnonneg hzero))

theorem carefulRest_createVersion (config : Config) (request : VersionRequest) :
    (ManagerCall.createVersion request).CarefulRest
      (createVersion config request).run :=
  throughout_createVersion config request (fun _ _ => trivial)
    (fun _ _ _ => trivial) (fun _ _ _ hnext => Or.inr hnext)

/-- A new version of a family that is told by an id is, too. -/
theorem carefulRest_newVersion (config : Config) (id : Int) (fields : Fields)
    (author : String) (notes : Option String) :
    (ManagerCall.newVersion id fields author notes).CarefulRest
      (newVersion config id fields author notes).run := by
  unfold newVersion getTemplate
  refine throughout_call_bind trivial fun existing _ => ?_
  exact throughout_createVersion config _ (fun _ _ => trivial)
    (fun _ _ _ => trivial) (fun _ _ _ hnext => Or.inr hnext)

/-- What runs after an activation that may be tried again. -/
def afterSwap (config : Config) (id : Int) (author : String)
    (notes : Option String) (retries : Nat)
    (outcome : Outcome TemplateVersion) :
    Program StoreCalls (Except EngineError TemplateVersion) :=
  match Service.within "swap_active" config.storeTimeout outcome with
  | .ok t => .done (.ok t)
  | .error error =>
    if error.isRetryable then (swapActive config id author notes retries).run
    else .done (.error error)

/-- A swap asks the store once, and again as long as tries are left and the
answer lets it. -/
theorem run_swapActive_succ (config : Config) (id : Int) (author : String)
    (notes : Option String) (retries : Nat) :
    (swapActive config id author notes (retries + 1)).run =
      .ask (I := StoreCalls) (.swapActive id author notes)
        (afterSwap config id author notes retries) := by
  show Program.ask (I := StoreCalls) (.swapActive id author notes) _ = _
  congr 1
  funext outcome
  show Program.bind
    (.done (Service.within "swap_active" config.storeTimeout outcome)) _ = _
  unfold afterSwap Program.bind
  cases Service.within "swap_active" config.storeTimeout outcome with
  | ok t => rfl
  | error error =>
      show (if error.isRetryable then swapActive config id author notes retries
        else throw error).run = if error.isRetryable then _ else _
      by_cases hretry : error.isRetryable
      · rw [if_pos hretry, if_pos hretry]
      · rw [if_neg hretry, if_neg hretry]
        rfl

/-- Trying an activation again adds no other requests. -/
theorem carefulRest_swapActive (config : Config) (id : Int) (author : String)
    (notes : Option String) (retries : Nat) :
    (ManagerCall.activate id author notes).CarefulRest
      (swapActive config id author notes retries).run := by
  induction retries with
  | zero => exact throughout_call trivial
  | succ retries ih =>
      rw [run_swapActive_succ]
      refine ⟨trivial, fun outcome _ => ?_⟩
      unfold afterSwap
      split
      · exact trivial
      · split
        · exact ih
        · exact trivial

theorem carefulRest_activate (config : Config) (id : Int) (author : String)
    (notes : Option String) :
    (ManagerCall.activate id author notes).CarefulRest
      (activate config id author notes).run := by
  unfold activate
  refine throughout_ofExcept_bind fun _ => throughout_ofExcept_bind fun _ => ?_
  exact carefulRest_swapActive config id author notes config.activationRetries

theorem carefulRest_deleteFamily (config : Config) (id : Int) :
    (ManagerCall.deleteFamily id).CarefulRest (deleteFamily config id).run := by
  unfold deleteFamily getTemplate
  exact throughout_call_bind trivial fun t _ =>
    throughout_call_bind trivial fun _ _ => trivial

/-- A rollback is over with a version only after it has inserted one. -/
theorem carefulRest_rollback (config : Config) (id version : Int)
    (author : String) :
    (ManagerCall.rollback id version author).CarefulRest
      (rollback config id version author).run := by
  unfold rollback getTemplate
  have hasking :
      ∀ {α : Type} {c : StoreCall} {f : c.Result → Service α} (result : α),
      (Service.call config c >>= f).run ≠ .done (.ok result) := by
    intro α c f result
    rw [run_call_bind]
    simp
  refine throughout_ofExcept_bind fun _ => ?_
  refine throughout_call_bind (afterCall_ne_ok fun left => hasking)
    fun left _ => ?_
  refine throughout_call_bind (afterCall_ne_ok fun copied => hasking)
    fun copied _ => ?_
  refine throughout_call_bind (afterCall_ne_ok fun highest result => ?_)
    fun highest _ => ?_
  · show Program.ask (I := StoreCalls) _ _ ≠ _
    simp
  · refine throughout_call ⟨rfl, fun outcome t => ?_⟩
    constructor
    · intro hdone
      exact within_eq_ok (Program.done.inj hdone)
    · rintro rfl
      rfl

/-- A rollback does not end before it has asked for anything. -/
theorem run_rollback_ne_ok (config : Config) (id version : Int)
    (author : String) (t : TemplateVersion) :
    (rollback config id version author).run ≠ .done (.ok t) := by
  unfold rollback getTemplate
  rw [Service.run_ofExcept_bind]
  cases validateAuthor author with
  | error error => simp
  | ok _ =>
      rw [run_call_bind]
      simp

/-- **What managers insert.**  The requests of every call are careful. -/
theorem carefulRest_service (config : Config) (call : ManagerCall) :
    call.CarefulRest (call.service config).run := by
  cases call with
  | createTemplate request => exact carefulRest_createTemplate config request
  | createVersion request => exact carefulRest_createVersion config request
  | newVersion id fields author notes =>
      exact carefulRest_newVersion config id fields author notes
  | activate id author notes =>
      exact carefulRest_activate config id author notes
  | rollback id version author =>
      exact carefulRest_rollback config id version author
  | deleteFamily id => exact carefulRest_deleteFamily config id

/-- **Every instant.**  However the calls of managers come between each other,
the records of the store belong together, and what clients have left to do is
careful. -/
theorem consistent_of_isRun {config : Config}
    {run : Nat → Sharing.System (managers config)}
    (h : Sharing.IsRun Memory.empty run) (k : Nat) :
    (run k).shared.Consistent ∧
      ∀ client ∈ (run k).clients, client.call.CarefulRest client.rest :=
  h.throughout Memory.Consistent Memory.consistent_empty
    (carefulRest_service config)
    (fun hgood _ hends =>
      ⟨credible_of_ends hgood hends, hends.consistent hgood⟩) k

end Lifecycle

end TemplateRegistry
