import TemplateRegistry.Proofs.ManagerRuns
import TemplateRegistry.Proofs.ProgramRuns
/-!
# Services that nothing disturbs

While one client alone uses a store in memory, every call it makes is carried
out, one after the other and each at an instant of its own.  Only what is
written depends on the instants, so the state in which a service starts tells
how it ends.

* `Memory.Answers` — calls that are carried out;
* `Service.Settles` — how a service ends and what it leaves, by the parts of the
  service.
-/

namespace TemplateRegistry

namespace Memory

variable {call : StoreCall} {s after : Memory} {outcome : Outcome call.Result}

/-- A call that is carried out, at some instant. -/
def Answers (call : StoreCall) (s : Memory) (outcome : Outcome call.Result)
    (after : Memory) :
    Prop :=
  ∃ now, reply now call s = (outcome, after)

/-- The reply of the store in memory is an answer. -/
theorem answers_reply (now : Timestamp) (call : StoreCall) (s : Memory) :
    Answers call s (reply now call s).1 (reply now call s).2 :=
  ⟨now, rfl⟩

/-- An answer is that of the store at some instant. -/
theorem Answers.answer (h : Answers call s outcome after) :
    ∃ now, outcome = .ended ((Memory.answer now call s).1.mapError .registry) ∧
      after = (Memory.answer now call s).2 := by
  obtain ⟨now, hreply⟩ := h
  exact ⟨now, (congrArg Prod.fst hreply).symm, (congrArg Prod.snd hreply).symm⟩

/-- An answered call is one that has ended. -/
theorem Answers.ends (h : Answers call s outcome after) :
    Ends call s outcome after := by
  obtain ⟨now, hreply⟩ := h
  have hends : Ends call s (reply now call s).1 (reply now call s).2 :=
    .carriedOut now
  rwa [hreply] at hends

/-- What holds however calls end holds where they are carried out. -/
theorem ensures_answers {α : Type} {Q : α → Memory → Prop}
    {p : Program StoreCalls α} (h : p.Ensures (I := StoreCalls) Ends Q s) :
    p.Ensures (I := StoreCalls) Answers Q s := by
  induction p generalizing s with
  | done value => exact h
  | ask call next ih =>
    exact fun outcome after hanswers => ih outcome (h _ _ hanswers.ends)

end Memory

namespace Service

variable {α β : Type} {Q : Except EngineError α → Memory → Prop} {s : Memory}
  {config : Config} {c : StoreCall}

/-- How a service ends, and what it leaves, while nothing else uses the
store. -/
def Settles (f : Service α) (Q : Except EngineError α → Memory → Prop)
    (s : Memory) : Prop :=
  Program.Ensures (I := StoreCalls) Memory.Answers Q f.run s

theorem settles_pure {value : α} (h : Q (.ok value) s) :
    Settles (pure value : Service α) Q s := h

theorem settles_fail {error : RegistryError}
    (h : Q (.error (.registry error)) s) :
    Settles (fail error : Service α) Q s := h

/-- A check settles with its error, or lets the service go on. -/
theorem settles_ofExcept_bind {result : Except RegistryError β}
    {f : β → Service α}
    (hfailed : ∀ error, result = .error error → Q (.error (.registry error)) s)
    (h : ∀ value, result = .ok value → Settles (f value) Q s) :
    Settles (ofExcept result >>= f) Q s := by
  unfold Settles
  rw [run_ofExcept_bind]
  cases result with
  | error error => exact hfailed error rfl
  | ok value => exact h value rfl

/-- A call whose result does not hang on the instant, and then the rest. -/
theorem settles_call_bind {result : Except RegistryError c.Result}
    {f : c.Result → Service α}
    (hresult : ∀ now, (Memory.answer now c s).1 = result)
    (hfailed : ∀ now error, result = .error error →
      Q (.error (.registry error)) (Memory.answer now c s).2)
    (h : ∀ now value, result = .ok value →
      Settles (f value) Q (Memory.answer now c s).2) :
    Settles (call config c >>= f) Q s := by
  unfold Settles
  rw [run_call_bind]
  intro outcome after hanswers
  obtain ⟨now, rfl, rfl⟩ := hanswers.answer
  rw [hresult now]
  cases hcase : result with
  | error error => exact hfailed now error hcase
  | ok value => exact h now value hcase

/-- A call that looks something up, and then the rest. -/
theorem settles_found_bind {error : RegistryError} {o : Option c.Result}
    {f : c.Result → Service α}
    (hread : ∀ now, Memory.answer now c s = (Memory.found error o, s))
    (hnone : o = none → Q (.error (.registry error)) s)
    (hsome : ∀ value, o = some value → Settles (f value) Q s) :
    Settles (call config c >>= f) Q s := by
  have hresult : ∀ now, (Memory.answer now c s).1 = Memory.found error o :=
    fun now => congrArg Prod.fst (hread now)
  refine settles_call_bind hresult (fun now failure hfailure => ?_)
    fun now value hvalue => ?_
  · rw [hread]
    cases o with
    | none => exact Except.error.inj hfailure ▸ hnone rfl
    | some value => cases hfailure
  · rw [hread]
    exact hsome value (Memory.found_eq_ok hvalue)

/-- A call that reads what there always is, and then the rest. -/
theorem settles_read_bind {value : c.Result} {f : c.Result → Service α}
    (hread : ∀ now, Memory.answer now c s = (.ok value, s))
    (h : Settles (f value) Q s) :
    Settles (call config c >>= f) Q s := by
  refine settles_call_bind (fun now => congrArg Prod.fst (hread now)) ?_
    fun now other hother => ?_
  · intro now error herror
    cases herror
  · rw [hread, ← Except.ok.inj hother]
    exact h

/-- A call as the end of a service. -/
theorem settles_call {Q : Except EngineError c.Result → Memory → Prop}
    (h :
      ∀ now, Q ((Memory.answer now c s).1.mapError .registry)
      (Memory.answer now c s).2) :
    Settles (call config c) Q s := by
  intro outcome after hanswers
  obtain ⟨now, rfl, rfl⟩ := hanswers.answer
  exact h now

end Service

end TemplateRegistry
