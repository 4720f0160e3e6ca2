import Mathlib.Order.Bounds.Basic
import TemplateRegistry.Proofs.FailedCalls
import TemplateRegistry.Proofs.StoredHistory
import TemplateRegistry.Proofs.VersionChronicles
/-!
# How often a version is activated

An activation is tried again when it has lost a race or has timed out.  The
first try with any other end is the last one, unless the tries run out before.
Trying again does no harm: a version that has taken over is active, and the next
try finds nothing to do.

* `Memory.TakenOver`, `Memory.takenOver_swapActive` — what one try leaves;
* `Memory.Reported` — calls that report anything, whether they had an effect or
  not;
* `seen`, `Conclusive`, `Scripted` — tries that end as told;
* `runs_swapActive_scripted` — which of them is the last;
* `activation_takes_effect_once` — how often is tried, and what is left.
-/

namespace TemplateRegistry

namespace Memory

variable {s after : Memory} {id : Int} {target : TemplateVersion}

/-! ### What one try leaves -/

/-- A version is the one active version of its name, and to activate it again
does nothing.  Everything that is of another name is as it was. -/
structure TakenOver (s : Memory) (id : Int) (t : TemplateVersion)
    (after : Memory) : Prop where
  given : t.id = id
  active : (after.family t.name).filter TemplateVersion.isActive = [t]
  others : ∀ other, other ≠ t.name →
    after.family other = s.family other ∧ after.logOf other = s.logOf other
  components : after.components = s.components
  usage : after.usage = s.usage
  again : ∀ now author notes, answer now (.swapActive id author notes) after =
    (.ok t, after)

/-- Activating an active version does nothing. -/
theorem swapActive_of_active (htarget : s.template? id = some target)
    (hactive : target.isActive = true) (now : Timestamp) (author : String)
    (notes : Option String) :
    swapActive now id author notes s = (.ok target, s) := by
  simp [swapActive, htarget, hactive]

/-- An active version is the only active one of its family. -/
theorem Consistent.active_family_eq (h : s.Consistent) {t : TemplateVersion}
    (ht : t ∈ s.templates) (hactive : t.isActive = true) :
    (s.family t.name).filter TemplateVersion.isActive = [t] := by
  have hmem : t ∈ (s.family t.name).filter TemplateVersion.isActive :=
    List.mem_filter.mpr ⟨mem_family.mpr ⟨ht, rfl⟩, hactive⟩
  obtain ⟨u, hu⟩ :
      ∃ u, (s.family t.name).filter TemplateVersion.isActive = [u] := by
    refine List.length_eq_one_iff.mp ?_
    have hle := length_active_family_le_one h t.name
    have hpos := List.length_pos_of_mem hmem
    omega
  obtain rfl : t = u := List.mem_singleton.mp (hu ▸ hmem)
  exact hu

/-- A swap leaves the uses alone. -/
theorem usage_swapped (now : Timestamp) (target : TemplateVersion)
    (author : String) (notes : Option String) (s : Memory) :
    (s.swapped now target author notes).usage = s.usage := by
  show (s.stepAside now target author notes (s.otherActive? target)).usage =
    s.usage
  cases s.otherActive? target <;> rfl

/-- **One try.**  A version that is there takes over, or is the active one
already. -/
theorem takenOver_swapActive (h : s.Consistent)
    (htarget : s.template? id = some target) (now : Timestamp) (author : String)
    (notes : Option String) :
    ∃ t, (answer now (.swapActive id author notes) s).1 = .ok t ∧
      t.name = target.name ∧
      s.TakenOver id t (answer now (.swapActive id author notes) s).2 := by
  obtain ⟨hmem, rfl⟩ := template?_mem htarget
  cases hactive : target.isActive with
  | true =>
      have hnothing := swapActive_of_active htarget hactive
      have heq : answer now (.swapActive target.id author notes) s =
          (.ok target, s) :=
        hnothing now author notes
      rw [heq]
      exact ⟨target, rfl, rfl, rfl, h.active_family_eq hmem hactive,
        fun _ _ => ⟨rfl, rfl⟩, rfl, rfl, hnothing⟩
  | false =>
      have heq : answer now (.swapActive target.id author notes) s =
          (.ok { target with isActive := true, updatedAt := now },
            s.swapped now target author notes) :=
        swapActive_of_inactive htarget hactive now author notes
      have hafter := h.swapped now htarget author notes
      have hfound : (s.swapped now target author notes).template? target.id =
          some { target with isActive := true, updatedAt := now } :=
        template?_takeOver htarget now author notes
      rw [heq]
      refine ⟨_, rfl, rfl, rfl,
        hafter.active_family_eq (template?_mem hfound).1 rfl,
        fun other hne => ⟨?_, ?_⟩, components_swapped .., usage_swapped ..,
        swapActive_of_active hfound rfl⟩
      · refine family_effect h (.swapped htarget author notes) ?_
        intro hwrites
        obtain ⟨t, ht, hid, hname⟩ := hwrites
        have hsame : t = target := h.template_eq ht hmem hid
        exact hne (hsame ▸ hname.symm)
      · rw [logOf_swapped, if_neg (Ne.symm hne), List.append_nil]

/-- **Any number of tries** on a version that has taken over. -/
theorem TakenOver.afterAll {t : TemplateVersion} (h : s.TakenOver id t after)
    (calls : List (Timestamp × StoreCall))
    (hcalls : ∀ call ∈ calls, ∃ author notes, call.2 =
      .swapActive id author notes) :
    after.afterAll calls = after := by
  induction calls with
  | nil => rfl
  | cons call rest ih =>
      obtain ⟨now, call⟩ := call
      obtain ⟨author, notes, rfl⟩ := hcalls _ List.mem_cons_self
      show (answer now (.swapActive id author notes) after).2.afterAll rest =
        after
      rw [h.again]
      exact ih fun call hcall => hcalls call (List.mem_cons_of_mem _ hcall)

/-- A call that is carried out or is not, whatever is reported of it. -/
def Reported (call : StoreCall) (s : Memory) (_ : Outcome call.Result)
    (after : Memory) : Prop :=
  after = s ∨ ∃ now, after = (answer now call s).2

end Memory

namespace Lifecycle

variable {config : Config} {id : Int} {author : String} {notes : Option String}
variable {outcomes : Nat → Outcome TemplateVersion}

/-! ### Tries that end as told -/

/-- An error after which an activation is tried again: a lost race, or a
timeout. -/
theorem isRetryable_iff (error : EngineError) :
    error.isRetryable = true ↔
      (∃ reason, error = .registry (.concurrencyConflict reason)) ∨
      ∃ operation after, error = .timeout operation after := by
  cases error with
  | registry error =>
      cases error <;> simp [EngineError.isRetryable, RegistryError.isRetryable]
  | database error => simp [EngineError.isRetryable]
  | timeout operation after => simp [EngineError.isRetryable]

/-- What a manager sees of the end of a try. -/
def seen (config : Config) (outcome : Outcome TemplateVersion) :
    Except EngineError TemplateVersion :=
  Service.within "swap_active" config.storeTimeout outcome

/-- The end of a try that is not repeated. -/
def Conclusive (config : Config) (outcome : Outcome TemplateVersion) : Prop :=
  ∀ error, seen config outcome = .error error → error.isRetryable = false

/-- Tries to activate a version that end as told, each counted. -/
inductive Scripted (id : Int) (author : String) (notes : Option String)
    (outcomes : Nat → Outcome TemplateVersion) :
    (call : StoreCall) → Nat → Outcome call.Result → Nat → Prop
  | next (n : Nat) :
      Scripted id author notes outcomes (.swapActive id author notes) n
        (outcomes n) (n + 1)

/-- A conclusive answer ends the call. -/
theorem afterSwap_of_conclusive {retries : Nat}
    {outcome : Outcome TemplateVersion} (h : Conclusive config outcome) :
    afterSwap config id author notes retries outcome =
      .done (seen config outcome) := by
  unfold Conclusive seen at h
  unfold afterSwap seen
  cases hseen : Service.within "swap_active" config.storeTimeout outcome with
  | ok t => rfl
  | error error => simp [h error hseen]

/-- Any other answer has the call tried again. -/
theorem afterSwap_of_not_conclusive {retries : Nat}
    {outcome : Outcome TemplateVersion} (h : ¬ Conclusive config outcome) :
    afterSwap config id author notes retries outcome =
      (swapActive config id author notes retries).run := by
  unfold Conclusive seen at h
  obtain ⟨error, herror⟩ := not_forall.mp h
  obtain ⟨hseen, hretry⟩ := Classical.not_imp.mp herror
  unfold afterSwap
  rw [hseen]
  simp [hretry]

/-- The runs of a program whose first request is a try. -/
theorem runs_ask_scripted {α : Type}
    {next : Outcome TemplateVersion → Program StoreCalls α} {n k : Nat}
    {value : α} :
    Program.Runs (I := StoreCalls) (Scripted id author notes outcomes)
        (.ask (I := StoreCalls) (.swapActive id author notes) next) n value k ↔
      Program.Runs (I := StoreCalls) (Scripted id author notes outcomes)
        (next (outcomes n)) (n + 1) value k := by
  constructor
  · intro h
    cases h with
    | ask hreply hrest =>
        cases hreply
        exact hrest
  · exact fun h => .ask (.next n) h

/-- A program that is over asks for no more answers. -/
theorem runs_done_scripted {α : Type} {value other : α} {n k : Nat} :
    Program.Runs (I := StoreCalls) (Scripted id author notes outcomes)
      (.done value) n other k ↔
      other = value ∧ k = n := by
  constructor
  · intro h
    cases h
    exact ⟨rfl, rfl⟩
  · intro h
    obtain ⟨rfl, rfl⟩ := h
    exact .done _ _

/-- **The tries of an activation**, from any of them on.  The last is the first
that is conclusive, or the one with no retries left. -/
theorem runs_swapActive_scripted (config : Config) (id : Int) (author : String)
    (notes : Option String) (outcomes : Nat → Outcome TemplateVersion)
    (retries n : Nat) :
    ∃ i ≤ retries, (∀ j < i, ¬ Conclusive config (outcomes (n + j))) ∧
      (i = retries ∨ Conclusive config (outcomes (n + i))) ∧
      ∀ result k,
        Program.Runs (I := StoreCalls) (Scripted id author notes outcomes)
            (swapActive config id author notes retries).run n result k ↔
          result = seen config (outcomes (n + i)) ∧ k = n + i + 1 := by
  -- on the retries that are left; what the tries before the `n`th were does not
  -- matter
  induction retries generalizing n with
  | zero =>
      refine ⟨0, Nat.le_refl 0, by simp, Or.inl rfl, fun result k => ?_⟩
      exact runs_ask_scripted.trans runs_done_scripted
  | succ retries ih =>
      rw [run_swapActive_succ]
      by_cases hlast : Conclusive config (outcomes n)
      · refine ⟨0, Nat.zero_le _, by simp, Or.inr hlast, fun result k => ?_⟩
        rw [runs_ask_scripted, afterSwap_of_conclusive hlast]
        exact runs_done_scripted
      · obtain ⟨i, hle, hbefore, hend, hruns⟩ := ih (n + 1)
        have hshift : ∀ j, n + 1 + j = n + (j + 1) := by omega
        refine ⟨i + 1, by omega, fun j hj => ?_, ?_, fun result k => ?_⟩
        · cases j with
          | zero => exact hlast
          | succ j => exact hshift j ▸ hbefore j (by omega)
        · exact hend.imp (congrArg (· + 1)) fun h => hshift i ▸ h
        · rw [runs_ask_scripted, afterSwap_of_not_conclusive hlast,
            hruns, hshift]

/-! ### Activations -/

/-- With a valid author and valid notes, an activation is a swap with all of its
tries. -/
theorem run_activate (hauthor : validateAuthor author = .ok ())
    (hnotes : validateNotes? notes = .ok ()) :
    (activate config id author notes).run =
      (swapActive config id author notes config.activationRetries).run := by
  unfold activate
  rw [Service.run_ofExcept_bind, hauthor]
  show (Service.ofExcept (validateNotes? notes) >>= fun _ =>
    swapActive config id author notes
    config.activationRetries).run = _
  rw [Service.run_ofExcept_bind, hnotes]

/-- Without a valid author and notes nothing is asked of the store. -/
theorem run_activate_of_invalid
    (h : ¬ (validateAuthor author = .ok () ∧ validateNotes? notes = .ok ())) :
    ∃ error, (activate config id author notes).run =
      .done (.error (.registry error)) := by
  unfold activate
  rw [Service.run_ofExcept_bind]
  cases hauthor : validateAuthor author with
  | error error => exact ⟨error, rfl⟩
  | ok _ =>
      show ∃ error, (Service.ofExcept (validateNotes? notes) >>= fun _ =>
        swapActive config id author
        notes config.activationRetries).run = .done (.error (.registry error))
      rw [Service.run_ofExcept_bind]
      cases hnotes : validateNotes? notes with
      | error error => exact ⟨error, rfl⟩
      | ok _ => exact (h ⟨hauthor, hnotes⟩).elim

/-- A store that no try has changed, or that is what one of them alone
leaves. -/
def Tried (s : Memory) (id : Int) (author : String) (notes : Option String)
    (x : Memory) : Prop :=
  x = s ∨ ∃ now, x = (Memory.answer now (.swapActive id author notes) s).2

/-- One more try changes nothing once one had its effect. -/
theorem Tried.next {s x y : Memory} {target : TemplateVersion}
    {outcome : Outcome (StoreCall.swapActive id author notes).Result}
    (hs : s.Consistent) (htarget : s.template? id = some target)
    (h : Tried s id author notes x)
    (hreported : Memory.Reported (.swapActive id author notes) x outcome y) :
    Tried s id author notes y := by
  rcases hreported with rfl | ⟨now, rfl⟩
  · exact h
  · rcases h with rfl | ⟨before, rfl⟩
    · exact Or.inr ⟨now, rfl⟩
    · obtain ⟨t, -, -, htaken⟩ :=
        Memory.takenOver_swapActive hs htarget before author notes
      rw [htaken.again]
      exact Or.inr ⟨before, rfl⟩

/-- **Any number of tries**, whatever is reported of them. -/
theorem ensures_swapActive_reported {s x : Memory} {target : TemplateVersion}
    (hs : s.Consistent) (htarget : s.template? id = some target) (retries : Nat)
    (h : Tried s id author notes x) :
    Program.Ensures (I := StoreCalls) Memory.Reported
      (fun _ last => Tried s id author notes last)
      (swapActive config id author notes retries).run x := by
  induction retries generalizing x with
  | zero => exact fun outcome y hreported => h.next hs htarget hreported
  | succ retries ih =>
      rw [run_swapActive_succ]
      intro outcome y hreported
      have hnext := h.next hs htarget hreported
      by_cases hlast : Conclusive config outcome
      · rw [afterSwap_of_conclusive hlast]
        exact hnext
      · rw [afterSwap_of_not_conclusive hlast]
        exact ih hnext

/-- **Activation.**  A manager tries until a try is conclusive or the retries
are used up, and gives what it sees of the last try.  A try leaves the version
as the one active version of its name, touches no other name, and more tries
change nothing, so that tries which time out after they had their effect leave
what one try leaves. -/
theorem activation_takes_effect_once (config : Config) (id : Int)
    (author : String) (notes : Option String) :
    (∀ error : EngineError, error.isRetryable = true ↔
      (∃ reason, error = .registry (.concurrencyConflict reason)) ∨
      ∃ operation after, error = .timeout operation after) ∧
    (¬ (validateAuthor author = .ok () ∧ validateNotes? notes = .ok ()) →
      ∃ error, (activate config id author notes).run =
        .done (.error (.registry error))) ∧
    (validateAuthor author = .ok () → validateNotes? notes = .ok () →
      ∀ outcomes : Nat → Outcome TemplateVersion, ∃ i,
        IsLeast (insert (config.activationRetries + 1)
          {p | ∃ j, p = j + 1 ∧ Conclusive config (outcomes j)}) (i + 1) ∧
        ∀ result k,
          Program.Runs (I := StoreCalls) (Scripted id author notes outcomes)
              (activate config id author notes).run 0 result k ↔
            result = seen config (outcomes i) ∧ k = i + 1) ∧
    ∀ s target, Memory.Reachable s → s.template? id = some target →
      (∀ now, ∃ t,
        (Memory.answer now (.swapActive id author notes) s).1 = .ok t ∧
        t.name = target.name ∧
        s.TakenOver id t (Memory.answer now (.swapActive id author notes) s).2 ∧
        ∀ calls : List (Timestamp × StoreCall),
          (∀ call ∈ calls, ∃ author notes, call.2 =
            .swapActive id author notes) →
          (Memory.answer now (.swapActive id author notes) s).2.afterAll calls =
            (Memory.answer now (.swapActive id author notes) s).2) ∧
      ∀ result last,
        Program.Runs (I := StoreCalls) Memory.Reported
          (activate config id author notes).run s result last →
        last = s ∨ ∃ now,
          last = (Memory.answer now (.swapActive id author notes) s).2 := by
  refine ⟨isRetryable_iff, run_activate_of_invalid,
    fun hauthor hnotes outcomes => ?_, fun s target hs htarget =>
      ⟨fun now => ?_, fun result last hruns => ?_⟩⟩
  · obtain ⟨i, hle, hbefore, hend, hruns⟩ :=
      runs_swapActive_scripted config id author notes outcomes
        config.activationRetries 0
    simp only [Nat.zero_add] at hbefore hend hruns
    rw [run_activate hauthor hnotes]
    refine ⟨i, ⟨?_, ?_⟩, hruns⟩
    · rcases hend with rfl | hconclusive
      · exact Set.mem_insert _ _
      · exact Set.mem_insert_of_mem _ ⟨i, rfl, hconclusive⟩
    · intro p hp
      rcases hp with rfl | ⟨j, rfl, hconclusive⟩
      · omega
      · by_contra hlt
        exact hbefore j (by omega) hconclusive
  · obtain ⟨t, hresult, hname, htaken⟩ :=
      Memory.takenOver_swapActive (Memory.consistent_of_reachable hs) htarget
        now author notes
    exact ⟨t, hresult, hname, htaken, htaken.afterAll⟩
  · by_cases hvalid : validateAuthor author = .ok () ∧
      validateNotes? notes = .ok ()
    · rw [run_activate hvalid.1 hvalid.2] at hruns
      exact (ensures_swapActive_reported (Memory.consistent_of_reachable hs)
        htarget config.activationRetries (Or.inl rfl)).of_runs hruns
    · obtain ⟨error, hdone⟩ :
          ∃ error, (activate config id author notes).run =
            .done (.error (.registry error)) :=
        run_activate_of_invalid hvalid
      rw [hdone] at hruns
      cases hruns
      exact Or.inl rfl

/-- Of two tries on the second version of a greeting the first times out and the
second is told that the version is missing, so there is no third.  What one try
leaves, more of them leave alone. -/
theorem activation_takes_effect_once_greeting :
    let s := Memory.empty.after ⟨0, 0⟩
      [.insertVersion (Memory.greeting 1 true) (Memory.greetingEntry 1),
        .insertVersion (Memory.greeting 2 false) (Memory.greetingEntry 2)]
    let outcomes : Nat → Outcome TemplateVersion := fun n =>
      if n = 0 then .hung
      else .ended (.error (.registry (.templateNotFound "3")))
    Memory.Reachable s ∧
    Program.Runs (I := StoreCalls) (Scripted 3 "ann" none outcomes)
      (activate .default 3 "ann" none).run 0
      (.error (.registry (.templateNotFound "3"))) 2 ∧
    ∃ t last, t.version = 2 ∧ s.TakenOver 3 t last ∧
      last.afterAll [(⟨1, 0⟩, .swapActive 3 "bob" none),
          (⟨2, 0⟩, .swapActive 3 "ann" none)] =
        last := by
  intro s outcomes
  have hs : Memory.Reachable s := Memory.Reachable.empty.after _ _
  obtain ⟨target, htarget, hversion⟩ :
    ∃ t, s.template? 3 = some t ∧ t.version = 2 := ⟨_, rfl, rfl⟩
  obtain ⟨-, -, hscripted, hmemory⟩ :=
    activation_takes_effect_once .default 3 "ann" none
  obtain ⟨i, ⟨hmem, hleast⟩, hruns⟩ := hscripted rfl rfl outcomes
  have htimeout : ¬ Conclusive .default (outcomes 0) :=
    fun h => by cases h _ rfl
  have hmissing : Conclusive .default (outcomes 1) := by
    intro error herror
    cases herror
    rfl
  obtain rfl : i = 1 := by
    have hle : i + 1 ≤ 2 := hleast (Set.mem_insert_of_mem _ ⟨1, rfl, hmissing⟩)
    have hne : i ≠ 0 := by
      rintro rfl
      rcases hmem with hused | ⟨j, hj, hconclusive⟩
      · cases hused
      · obtain rfl : j = 0 := by omega
        exact htimeout hconclusive
    omega
  obtain ⟨t, hresult, -, htaken, hafter⟩ :=
    (hmemory s target hs htarget).1 ⟨0, 0⟩
  have hsecond : t.version = 2 := by
    cases hresult
    rfl
  refine ⟨hs, (hruns _ _).mpr ⟨rfl, rfl⟩, t, _, hsecond, htaken, hafter _ ?_⟩
  rintro call (_ | ⟨_, _ | ⟨_, hcall⟩⟩)
  · exact ⟨"bob", none, rfl⟩
  · exact ⟨"ann", none, rfl⟩
  · cases hcall

end Lifecycle

end TemplateRegistry
