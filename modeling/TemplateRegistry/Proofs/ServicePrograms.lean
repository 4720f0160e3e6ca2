import TemplateRegistry.Proofs.Interleaving
import TemplateRegistry.Service.Basic
/-!
# What services run

A service is a program whose result may be an error.  Each of the things a
service is put together from, a program that cannot fail, a check and a call of
the store, is the start of the program that the service runs.

* `run_lift_bind`, `run_ofExcept_bind`, `run_call_bind` — the programs;
* `afterCall_cases` — how a program goes on after a call;
* `throughout_ofExcept_bind`, `throughout_call_bind`, `throughout_call` — what
  holds of each of their requests.
-/

namespace TemplateRegistry.Service

variable {α β : Type}

/-- A program that cannot fail, and then the rest. -/
theorem run_lift_bind (p : Program StoreCalls α) (f : α → Service β) :
    ((liftM p : Service α) >>= f).run = p >>= fun value => (f value).run :=
  ExceptT.run_bind_lift p f

/-- A check asks for nothing; the rest runs if it has passed. -/
theorem run_ofExcept_bind (result : Except RegistryError α)
    (f : α → Service β) :
    (ofExcept result >>= f).run =
      match result with
      | .error error => .done (.error (.registry error))
      | .ok value => (f value).run := by
  cases result with
  | error error => rfl
  | ok value => rfl

/-- What runs after a call: the rest, if the call has ended well in time. -/
def afterCall (config : Config) (c : StoreCall) (f : c.Result → Service β)
    (outcome : Outcome c.Result) : Program StoreCalls (Except EngineError β) :=
  match within c.operation config.storeTimeout outcome with
  | .error error => .done (.error error)
  | .ok value => (f value).run

/-- A call asks the store, and goes on with what came of it. -/
theorem run_call_bind (config : Config) (c : StoreCall)
    (f : c.Result → Service β) :
    (call config c >>= f).run =
      .ask (I := StoreCalls) c (afterCall config c f) := by
  show Program.ask (I := StoreCalls) c _ = _
  congr 1
  funext outcome
  show ((ExceptT.mk (.done (within c.operation config.storeTimeout outcome)) :
      Service _)
    >>= f).run = _
  unfold afterCall
  cases within c.operation config.storeTimeout outcome with
  | error error => rfl
  | ok value => rfl

/-- A call ends well in time only with a result. -/
theorem within_eq_ok {operation : String} {timeout : Duration}
    {outcome : Outcome α} {value : α}
    (h : within operation timeout outcome = .ok value) :
    outcome = .ended (.ok value) := by
  cases outcome with
  | ended result =>
      have hresult : result = .ok value := h
      rw [hresult]
  | hung => simp [within] at h

/-- Nothing that runs after a call is over with a result, unless the rest is. -/
theorem afterCall_ne_ok {config : Config} {c : StoreCall}
    {f : c.Result → Service β}
    (h : ∀ value result, (f value).run ≠ .done (.ok result))
    (outcome : Outcome c.Result) (result : β) :
    afterCall config c f outcome ≠ .done (.ok result) := by
  unfold afterCall
  split
  · simp
  · exact h _ result

/-- After a call the program is over with an error, or the rest runs on what the
call has given. -/
theorem afterCall_cases (config : Config) (c : StoreCall)
    (f : c.Result → Service β) (outcome : Outcome c.Result) :
    (∃ error, afterCall config c f outcome = .done (.error error)) ∨
      ∃ value, outcome = .ended (.ok value) ∧
        afterCall config c f outcome = (f value).run := by
  unfold afterCall
  split
  · exact Or.inl ⟨_, rfl⟩
  · rename_i value heq
    exact Or.inr ⟨value, within_eq_ok heq, rfl⟩

/-! ### What holds of each request -/

section Throughout

variable {credible : (c : StoreCall) → Outcome c.Result → Prop}
variable {ok : (c : StoreCall) →
  (Outcome c.Result → Program StoreCalls (Except EngineError β)) → Prop}

/-- A refusal asks nothing. -/
theorem throughout_fail (error : RegistryError) :
    Program.Throughout (I := StoreCalls) credible ok
      (fail error : Service β).run :=
  trivial

/-- A check asks nothing. -/
theorem throughout_ofExcept_bind {result : Except RegistryError α}
    {f : α → Service β}
    (h : ∀ value,
      Program.Throughout (I := StoreCalls) credible ok (f value).run) :
    Program.Throughout (I := StoreCalls) credible ok
      (ofExcept result >>= f).run := by
  rw [run_ofExcept_bind]
  cases result with
  | error error => exact trivial
  | ok value => exact h value

/-- A call is asked for, and so is what follows it. -/
theorem throughout_call_bind {config : Config} {c : StoreCall}
    {f : c.Result → Service β} (hok : ok c (afterCall config c f))
    (h : ∀ value, credible c (.ended (.ok value)) →
      Program.Throughout (I := StoreCalls) credible ok (f value).run) :
    Program.Throughout (I := StoreCalls) credible ok
      (call config c >>= f).run := by
  rw [run_call_bind]
  refine ⟨hok, fun outcome houtcome => ?_⟩
  unfold afterCall
  split
  · exact trivial
  · rename_i value heq
    rw [within_eq_ok heq] at houtcome
    exact h value houtcome

/-- A call alone is asked for. -/
theorem throughout_call {config : Config} {c : StoreCall}
    {ok : (c' : StoreCall) →
      (Outcome c'.Result → Program StoreCalls (Except EngineError c.Result)) →
      Prop}
    (hok : ok c fun outcome =>
      .done (within c.operation config.storeTimeout outcome)) :
    Program.Throughout (I := StoreCalls) credible ok (call config c).run :=
  ⟨hok, fun _ _ => trivial⟩

end Throughout

end TemplateRegistry.Service
