import TemplateRegistry.Proofs.ManagerRuns
import TemplateRegistry.Proofs.ProgramRuns
/-!
# Managers one after another

While a manager is the only one at work nothing comes between what it reads and
what it writes.  A call of it then either leaves the store alone or does one of
four things to it, and what it writes fits what it has read.

* `Service.Leads` — what the store satisfies when a service is done, by the
  parts of the service;
* `Memory.Change` — what a call of a manager can do to the store;
* `leads_service` — every call does one of these things;
* `Managed` — the states of a store that managers have used one after another.
-/

namespace TemplateRegistry

namespace Memory

variable {s : Memory}

/-- What a manager can do to a store in one call, while no other uses the
store. -/
inductive Change (s : Memory) : Memory → Prop
  /-- A call that only reads, that fails, or that finds nothing to do. -/
  | nothing : Change s s
  /-- A template is created. -/
  | started (now : Timestamp) {new : NewVersion} {entry : NewLogEntry}
      (hfirst : s.maxVersion new.name = 0) (hfree : s.active? new.name = none)
      (hversion : new.version = 1) (hactive : new.isActive = true)
      (hprevious : new.previousId = none)
      (hname : entry.templateName = new.name)
      (hentry : entry.version = new.version)
      (haction : entry.action = .created) :
      Change s ((s.addVersion (new.withId (s.lastId + 1) now)).appendLog
        now entry)
  /-- A version is added, after another one of its name or as a copy of one. -/
  | added (now : Timestamp) {new : NewVersion} {entry : NewLogEntry}
      {u : TemplateVersion}
      (hversion : new.version = s.maxVersion new.name + 1)
      (hinactive : new.isActive = false) (hu : u ∈ s.family new.name)
      (hprevious : new.previousId = some u.id)
      (hname : entry.templateName = new.name)
      (hentry : entry.version = new.version)
      (haction : entry.action = .created ∨ entry.action = .rollback) :
      Change s ((s.addVersion (new.withId (s.lastId + 1) now)).appendLog
        now entry)
  /-- A version takes over from the active one. -/
  | swapped (now : Timestamp) {target : TemplateVersion}
      (htarget : s.template? target.id = some target)
      (hinactive : target.isActive = false)
      (author : String) (notes : Option String) :
      Change s (s.swapped now target author notes)
  | deleted (name : String) : Change s (s.withoutFamily name)

/-- What a manager does is what a call of the store does. -/
theorem Change.effect {after : Memory} (h : s.Change after) :
    ∃ now call, Effect now s call after := by
  cases h with
  | nothing => exact ⟨⟨0, 0⟩, .listActiveComponents, .nothing _⟩
  | started now hfirst hfree hversion hactive hprevious hname hentry haction =>
      exact ⟨now, _, .inserted _ _ (by omega) fun _ => hfree⟩
  | added now hversion hinactive hu hprevious hname hentry haction =>
      exact ⟨now, _, .inserted _ _ hversion (by simp [hinactive])⟩
  | swapped now htarget hinactive author notes =>
      exact ⟨now, _, .swapped htarget author notes⟩
  | deleted name => exact ⟨⟨0, 0⟩, _, .familyDeleted name⟩

end Memory

namespace Service

variable {α β : Type} {Q : Memory → Prop} {s : Memory}

/-- What a store satisfies when a service is done that nothing has interfered
with. -/
def Leads (f : Service α) (Q : Memory → Prop) (s : Memory) : Prop :=
  Program.Ensures (I := StoreCalls) Memory.Ends (fun _ after => Q after) f.run s

/-- A refusal leads to where it started. -/
theorem leads_fail {error : RegistryError} (h : Q s) :
    Leads (fail error : Service α) Q s := h

/-- A check that fails leads nowhere else. -/
theorem leads_ofExcept_bind {result : Except RegistryError α}
    {f : α → Service β} (hfailed : Q s)
    (h : ∀ value, result = .ok value → Leads (f value) Q s) :
    Leads (ofExcept result >>= f) Q s := by
  unfold Leads
  rw [run_ofExcept_bind]
  cases result with
  | error error => exact hfailed
  | ok value => exact h value rfl

/-- A call of the store, and then the rest. -/
theorem leads_call_bind {config : Config} {c : StoreCall}
    {f : c.Result → Service β} (hsame : Q s)
    (h : ∀ now, Q (Memory.answer now c s).2 ∧
      ∀ value, (Memory.answer now c s).1 = .ok value → Leads (f value) Q
      (Memory.answer now c s).2) :
    Leads (call config c >>= f) Q s := by
  unfold Leads
  rw [run_call_bind]
  intro outcome after hends
  rcases afterCall_cases config c f outcome with ⟨error, heq⟩ |
    ⟨value, hreply, heq⟩
  · rw [heq]
    show Q after
    cases hends with
    | givenUp => exact hsame
    | carriedOut now => exact (h now).1
  · rw [heq]
    obtain ⟨now, hanswer⟩ := hends.answer_eq_ok hreply
    have hnext := (h now).2 value (congrArg Prod.fst hanswer)
    rw [hanswer] at hnext
    exact hnext

/-- A store call leads to a state that it can leave. -/
theorem leads_call {config : Config} {c : StoreCall} (hsame : Q s)
    (h : ∀ now, Q (Memory.answer now c s).2) : Leads (call config c) Q s := by
  rintro outcome after hends
  show Q after
  cases hends with
  | givenUp => exact hsame
  | carriedOut now => exact h now

/-- A call that only reads, and then the rest, which it may tell something. -/
theorem leads_read_bind {config : Config} {c : StoreCall}
    {f : c.Result → Service β} (hread : ∀ now, (Memory.answer now c s).2 = s)
    (hsame : Q s)
    (h : ∀ now value, Memory.answer now c s = (.ok value, s) →
      Leads (f value) Q s) :
    Leads (call config c >>= f) Q s := by
  refine leads_call_bind hsame fun now => ?_
  rw [hread now]
  exact ⟨hsame, fun value hvalue => h now value (Prod.ext hvalue (hread now))⟩

end Service

namespace Lifecycle

open Service

variable {s : Memory}

/-! ### What each call does -/

/-- Creating a family changes the store in one of its ways, or not at all. -/
theorem leads_createTemplate (config : Config) (request : TemplateRequest) :
    Leads (createTemplate config request) s.Change s := by
  unfold createTemplate
  refine leads_ofExcept_bind .nothing fun _ _ =>
    leads_ofExcept_bind .nothing fun _ _ =>
    leads_ofExcept_bind .nothing fun fields _ => ?_
  refine leads_read_bind (fun _ => rfl) .nothing fun now highest hhighest => ?_
  obtain rfl : s.maxVersion request.name = highest :=
    Except.ok.inj (congrArg Prod.fst hhighest)
  split
  · exact leads_fail .nothing
  · refine leads_call .nothing fun now => ?_
    rcases Memory.insertVersion_cases now _ _ s with ⟨error, heq⟩ |
      ⟨hnext, hfree, heq⟩
    · rw [Memory.answer, heq]
      exact .nothing
    · rw [Memory.answer, heq]
      have hfirst : 1 = s.maxVersion request.name + 1 := hnext
      have hnone : s.maxVersion request.name = 0 := by omega
      exact .started now hnone (hfree rfl) rfl rfl rfl rfl rfl rfl

/-- An insertion that was prepared with what the store has. -/
theorem leads_insertVersion (config : Config) {new : NewVersion}
    {entry : NewLogEntry} {u : TemplateVersion}
    (hinactive : new.isActive = false) (hu : u ∈ s.family new.name)
    (hprevious : new.previousId = some u.id)
    (hname : entry.templateName = new.name)
    (hentry : entry.version = new.version)
    (haction : entry.action = .created ∨ entry.action = .rollback) :
    Leads (call config (.insertVersion new entry)) s.Change s := by
  refine leads_call .nothing fun now => ?_
  rcases Memory.insertVersion_cases now new entry s with ⟨error, heq⟩ |
    ⟨hnext, -, heq⟩
  · rw [Memory.answer, heq]
    exact .nothing
  · rw [Memory.answer, heq]
    exact .added now hnext hinactive hu hprevious hname hentry haction

theorem leads_createVersion (config : Config) (request : VersionRequest) :
    Leads (createVersion config request) s.Change s := by
  unfold createVersion
  refine leads_ofExcept_bind .nothing fun _ _ =>
    leads_ofExcept_bind .nothing fun _ _ =>
    leads_ofExcept_bind .nothing fun _ _ =>
    leads_ofExcept_bind .nothing fun fields _ => ?_
  refine leads_read_bind (fun _ => rfl) .nothing fun now highest _ => ?_
  split
  · exact leads_fail .nothing
  · refine leads_ofExcept_bind .nothing fun _ _ => ?_
    refine leads_read_bind (fun _ => rfl) .nothing fun now latest hlatest => ?_
    have hfound := Memory.found_eq_ok (congrArg Prod.fst hlatest)
    exact leads_insertVersion config rfl
      (List.mem_of_find?_eq_some hfound) rfl rfl rfl (Or.inl rfl)

/-- So does a new version of a family that is told by an id. -/
theorem leads_newVersion (config : Config) (id : Int) (fields : Fields)
    (author : String) (notes : Option String) :
    Leads (newVersion config id fields author notes) s.Change s := by
  unfold newVersion getTemplate
  exact leads_read_bind (fun _ => rfl) .nothing fun _ _ _ =>
    leads_createVersion config _

/-- What runs after an activation that has left the store alone. -/
theorem ensures_afterSwap {config : Config} {id : Int} {author : String}
    {notes : Option String} {retries : Nat}
    (h : Leads (swapActive config id author notes retries) s.Change s)
    (outcome : Outcome TemplateVersion) :
    Program.Ensures (I := StoreCalls) Memory.Ends
      (fun _ after => s.Change after)
      (afterSwap config id author notes retries outcome) s := by
  unfold afterSwap
  split
  · exact .nothing
  · split
    · exact h
    · exact .nothing

/-- An activation that the store has carried out leaves the store alone if it
fails. -/
theorem swapActive_change (now : Timestamp) (id : Int) (author : String)
    (notes : Option String) (s : Memory) :
    (∃ error, Memory.swapActive now id author notes s = (.error error, s)) ∨
      ∃ t after, Memory.swapActive now id author notes s = (.ok t, after) ∧
        s.Change after := by
  rcases Memory.swapActive_cases now id author notes s with
    hfailed | ⟨target, -, -, heq⟩ | ⟨target, htarget, hinactive, heq⟩
  · exact Or.inl hfailed
  · exact Or.inr ⟨target, s, heq, .nothing⟩
  · obtain ⟨-, rfl⟩ := Memory.template?_mem htarget
    exact Or.inr ⟨_, _, heq, .swapped now htarget hinactive author notes⟩

/-- However often an activation is tried, it succeeds once at most. -/
theorem leads_swapActive (config : Config) (id : Int) (author : String)
    (notes : Option String) (retries : Nat) :
    Leads (swapActive config id author notes retries) s.Change s := by
  induction retries with
  | zero =>
      refine leads_call .nothing fun now => ?_
      rw [Memory.answer]
      rcases swapActive_change now id author notes s with ⟨error, heq⟩ |
        ⟨t, after, heq, hchange⟩
      · rw [heq]
        exact .nothing
      · rw [heq]
        exact hchange
  | succ retries ih =>
      unfold Leads
      rw [run_swapActive_succ]
      intro outcome after hends
      cases hends with
      | givenUp => exact ensures_afterSwap ih _
      | carriedOut now =>
          rw [Memory.reply, Memory.answer]
          rcases swapActive_change now id author notes s with ⟨error, heq⟩ |
            ⟨t, after, heq, hchange⟩
          · rw [heq]
            exact ensures_afterSwap ih _
          · -- it has ended with a version, so it is not tried again
            rw [heq]
            exact hchange

theorem leads_activate (config : Config) (id : Int) (author : String)
    (notes : Option String) :
    Leads (activate config id author notes) s.Change s := by
  unfold activate
  exact leads_ofExcept_bind .nothing fun _ _ =>
    leads_ofExcept_bind .nothing fun _ _ =>
    leads_swapActive config id author notes config.activationRetries

theorem leads_rollback (config : Config) (id version : Int) (author : String) :
    Leads (rollback config id version author) s.Change s := by
  unfold rollback getTemplate
  refine leads_ofExcept_bind .nothing fun _ _ => ?_
  refine leads_read_bind (fun _ => rfl) .nothing fun now left hleft => ?_
  refine leads_read_bind (fun _ => rfl) .nothing fun now copied _ => ?_
  refine leads_read_bind (fun _ => rfl) .nothing fun now highest _ => ?_
  have hfound :=
    Memory.template?_mem (Memory.found_eq_ok (congrArg Prod.fst hleft))
  exact leads_insertVersion config rfl
    (Memory.mem_family.mpr ⟨hfound.1, rfl⟩) rfl rfl rfl (Or.inr rfl)

theorem leads_deleteFamily (config : Config) (id : Int) :
    Leads (deleteFamily config id) s.Change s := by
  unfold deleteFamily getTemplate
  refine leads_read_bind (fun _ => rfl) .nothing fun now t _ => ?_
  refine leads_call_bind .nothing fun now => ?_
  rw [Memory.answer]
  rcases Memory.deleteFamily_cases t.name s with ⟨-, error, heq⟩ | ⟨-, heq⟩
  · rw [heq]
    exact ⟨.nothing, fun _ _ => .nothing⟩
  · rw [heq]
    exact ⟨.deleted t.name, fun _ _ => .deleted t.name⟩

/-- **Every call** of a manager that works alone. -/
theorem leads_service (config : Config) (call : ManagerCall) :
    Leads (call.service config) s.Change s := by
  cases call with
  | createTemplate request => exact leads_createTemplate config request
  | createVersion request => exact leads_createVersion config request
  | newVersion id fields author notes =>
      exact leads_newVersion config id fields author notes
  | activate id author notes => exact leads_activate config id author notes
  | rollback id version author => exact leads_rollback config id version author
  | deleteFamily id => exact leads_deleteFamily config id

/-! ### Runs -/

/-- What a client looks up with a manager. -/
inductive ManagerRead
  | template (id : Int)
  | active (name : String)
  | versions (name : String)
  | history (name : String)

namespace ManagerRead

/-- What a client gets. -/
abbrev Value : ManagerRead → Type
  | template _ => TemplateVersion
  | active _ => TemplateVersion
  | versions _ => List TemplateVersion
  | history _ => List LogEntry

/-- What a manager does. -/
def service (config : Config) : (read : ManagerRead) → Service read.Value
  | template id => getTemplate config id
  | active name => getActive config name
  | versions name => listVersions config name
  | history name => Lifecycle.history config name

end ManagerRead

/-- To look something up leaves the store alone. -/
theorem leads_read (config : Config) (read : ManagerRead) :
    Leads (read.service config) (· = s) s := by
  cases read with
  | template id => exact leads_call rfl fun _ => rfl
  | active name => exact leads_call rfl fun _ => rfl
  | versions name => exact leads_call rfl fun _ => rfl
  | history name => exact leads_call rfl fun _ => rfl

/-- The states of a store, empty at first, that managers have used one after
another.  Calls may fail, and the store may be given up before it has carried a
request out. -/
inductive Managed : Memory → Prop
  | empty : Managed .empty
  | write {s after : Memory} (h : Managed s) (config : Config)
      (call : ManagerCall)
      {result : Except EngineError call.Value}
      (hruns :
        Program.Runs (I := StoreCalls) Memory.Ends
          (call.service config).run s result after) :
      Managed after
  | read {s after : Memory} (h : Managed s) (config : Config)
      (read : ManagerRead)
      {result : Except EngineError read.Value}
      (hruns :
        Program.Runs (I := StoreCalls) Memory.Ends
          (read.service config).run s result after) :
      Managed after

/-- **Every run.**  What the empty store satisfies, and a store keeps whatever a
manager does to it, holds of all states. -/
theorem Managed.invariant {P : Memory → Prop} (hempty : P .empty)
    (hchange : ∀ s after, P s → s.Change after → P after) (h : Managed s) :
    P s := by
  induction h with
  | empty => exact hempty
  | write _ config call hruns ih =>
      exact hchange _ _ ih ((leads_service config call).of_runs hruns)
  | read _ config read hruns ih =>
      rw [(leads_read config read).of_runs hruns]
      exact ih

end Lifecycle

end TemplateRegistry
