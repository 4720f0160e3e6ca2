import TemplateRegistry.Program
/-!
# Clients of a shared state

Any number of clients run programs over one state.  A call starts when its
client arrives; from then on the client goes from request to request, and the
requests of the others may be answered between any two of its own.  How a
request may be answered is a relation, so that time, failures and calls that are
given up stay open.

* `Sharing` — the calls, their programs, and how requests may be answered;
* `Step`, `IsRun` — one client arrives or goes on, and the runs this makes up;
* `IsRun.invariant` — what holds at the start and is kept by every step holds
  throughout;
* `IsRun.throughout` — what the requests of the programs keep, in particular;
* `play` — a run by a schedule.
-/

namespace TemplateRegistry

/-- Every request that a program comes to satisfies a condition, as long as the
replies are credible ones. -/
def Program.Throughout {I : Interface} {α : Type}
    (credible : (request : I.Request) → I.Reply request → Prop)
    (ok : (request : I.Request) → (I.Reply request → Program I α) → Prop) :
    Program I α → Prop
  | done _ => True
  | ask request next =>
    ok request next ∧ ∀ reply, credible request reply →
      Throughout credible ok (next reply)

/-! ### Places in a list -/

section Places

variable {α : Type} {l : List α} {a b : α} {i j : Nat}

/-- Once one has come, each was there before or is the new one. -/
theorem of_getElem?_append_singleton (h : (l ++ [b])[i]? = some a) :
    l[i]? = some a ∨ i = l.length ∧ a = b := by
  rw [List.getElem?_append] at h
  split at h
  · exact Or.inl h
  · obtain ⟨hindex, hlast⟩ := List.getElem?_eq_some_iff.mp h
    simp only [List.length_singleton] at hindex
    refine Or.inr ⟨by omega, ?_⟩
    simpa using hlast.symm

/-- Once one has moved, every other is as it was. -/
theorem of_getElem?_set (h : (l.set j b)[i]? = some a) :
    l[i]? = some a ∨ i = j ∧ a = b := by
  rw [List.getElem?_set] at h
  split at h
  · rename_i heq
    split at h
    · exact Or.inr ⟨heq.symm, (Option.some.inj h).symm⟩
    · cases h
  · exact Or.inl h

/-- An item that is replaced is the new one. -/
theorem getElem?_set_of_some (h : l[i]? = some a) (b : α) :
    (l.set i b)[i]? = some b := by
  obtain ⟨hi, -⟩ := List.getElem?_eq_some_iff.mp h
  exact List.getElem?_set_self hi

end Places

/-! ### Systems -/

/-- Calls that clients make, over requests to a state that they share. -/
structure Sharing where
  Requests : Interface
  State : Type
  Call : Type
  Result : Call → Type
  /-- What a client does for a call. -/
  program : (call : Call) → Program Requests (Result call)
  /-- How a request may be replied to in a state, and the state this leaves. -/
  answers : (request : Requests.Request) → State → Requests.Reply request →
    State → Prop

namespace Sharing

variable {M : Sharing}

/-- A client: its call, and what is left to do for it. -/
structure Client (M : Sharing) where
  call : M.Call
  rest : Program M.Requests (M.Result call)

/-- The state, and the clients in the order in which they came. -/
structure System (M : Sharing) where
  shared : M.State
  clients : List (Client M)

/-- A client that has nothing done yet. -/
def Client.new (call : M.Call) : Client M :=
  ⟨call, M.program call⟩

/-- One step of a system. -/
inductive Step : System M → System M → Prop
  /-- A client comes with a call. -/
  | arrive (s : System M) (call : M.Call) :
      Step s ⟨s.shared, s.clients ++ [.new call]⟩
  /-- A request of a client is replied to. -/
  | proceed {s : System M} {i : Nat} {call : M.Call}
      {request : M.Requests.Request}
      {next : M.Requests.Reply request → Program M.Requests (M.Result call)}
      {reply : M.Requests.Reply request} {after : M.State}
      (hclient : s.clients[i]? = some ⟨call, .ask request next⟩)
      (hanswer : M.answers request s.shared reply after) :
      Step s ⟨after, s.clients.set i ⟨call, next reply⟩⟩

/-- The systems of a run, one after another; nothing need happen in between. -/
def IsRun (start : M.State) (run : Nat → System M) : Prop :=
  run 0 = ⟨start, []⟩ ∧ ∀ k, run (k + 1) = run k ∨ Step (run k) (run (k + 1))

/-- A client is there and has not finished its call. -/
def InProgress (s : System M) (i : Nat) (call : M.Call) : Prop :=
  ∃ request next, s.clients[i]? = some ⟨call, .ask request next⟩

/-- **Invariants of runs.**  What holds at the start and is kept by every step
holds at every instant. -/
theorem IsRun.invariant {start : M.State} {run : Nat → System M}
    (h : IsRun start run) {P : Nat → System M → Prop} (hstart : P 0 ⟨start, []⟩)
    (hidle : ∀ k, P k (run k) → P (k + 1) (run k))
    (hstep : ∀ k, P k (run k) → Step (run k) (run (k + 1)) →
      P (k + 1) (run (k + 1))) :
    ∀ k, P k (run k) := by
  intro k
  induction k with
  | zero =>
      rw [h.1]
      exact hstart
  | succ k ih =>
      rcases h.2 k with hsame | hmoved
      · rw [hsame]
        exact hidle k ih
      · exact hstep k ih hmoved

/-- **Conditions on requests.**  If the programs make only requests that satisfy
a condition while replies are credible, and if such requests are answered
credibly and keep the state good, then the state is good at every instant and
whatever the clients have left to do satisfies the condition. -/
theorem IsRun.throughout {start : M.State} {run : Nat → System M}
    (h : IsRun start run) (good : M.State → Prop)
    {credible : (request : M.Requests.Request) →
      M.Requests.Reply request → Prop}
    {ok : (call : M.Call) → (request : M.Requests.Request) →
      (M.Requests.Reply request → Program M.Requests (M.Result call)) → Prop}
    (hstart : good start)
    (hprogram : ∀ call, (M.program call).Throughout credible (ok call))
    (hanswer : ∀ {s call request next reply after}, good s →
      ok call request next →
      M.answers request s reply after → credible request reply ∧ good after) :
    ∀ k, good (run k).shared ∧
      ∀ client ∈ (run k).clients,
        client.rest.Throughout credible (ok client.call) := by
  apply h.invariant (P := fun _ s => good s.shared ∧
    ∀ client ∈ s.clients, client.rest.Throughout credible (ok client.call))
  · exact ⟨hstart, by simp⟩
  · exact fun _ hbefore => hbefore
  · intro k ⟨hgood, hclients⟩ hmoved
    generalize run k = s at hgood hclients hmoved
    generalize run (k + 1) = t at hmoved
    cases hmoved with
    | arrive call =>
        refine ⟨hgood, fun client hclient => ?_⟩
        rcases List.mem_append.mp hclient with hold | hnew
        · exact hclients client hold
        · obtain rfl := List.mem_singleton.mp hnew
          exact hprogram call
    | proceed hclient hreply =>
        obtain ⟨hok, hnext⟩ := hclients _ (List.mem_of_getElem? hclient)
        obtain ⟨hcredible, hafter⟩ := hanswer hgood hok hreply
        refine ⟨hafter, fun client hmem => ?_⟩
        rcases List.mem_or_eq_of_mem_set hmem with hold | rfl
        · exact hclients client hold
        · exact hnext _ hcredible

/-! ### Runs by a schedule -/

/-- What happens next in a schedule. -/
inductive Event (M : Sharing)
  | arrive (call : M.Call)
  /-- The next request of a client, if it has one. -/
  | proceed (client : Nat)

/-- A system after an event, with requests answered by a function. -/
def System.play
    (answer : (r : M.Requests.Request) → M.State → M.Requests.Reply r × M.State)
    (s : System M) : Event M → System M
  | .arrive call => ⟨s.shared, s.clients ++ [.new call]⟩
  | .proceed i =>
    match s.clients[i]? with
    | some ⟨call, .ask request next⟩ =>
      let (reply, after) := answer request s.shared
      ⟨after, s.clients.set i ⟨call, next reply⟩⟩
    | _ => s

/-- The systems of a schedule, from its start and after its end. -/
def schedule
    (answer : (r : M.Requests.Request) → M.State → M.Requests.Reply r × M.State)
    (start : M.State) (events : List (Event M)) (k : Nat) : System M :=
  (events.take k).foldl (System.play answer) ⟨start, []⟩

/-- A schedule is a run, if its answers are possible ones. -/
theorem isRun_schedule
    {answer : (r : M.Requests.Request) → M.State → M.Requests.Reply r × M.State}
    (hanswer : ∀ request s,
      M.answers request s (answer request s).1 (answer request s).2)
    (start : M.State) (events : List (Event M)) :
    IsRun start (schedule answer start events) := by
  refine ⟨rfl, fun k => ?_⟩
  unfold schedule
  by_cases hk : k < events.length
  · rw [← List.take_append_getElem hk, List.foldl_append]
    generalize (events.take k).foldl (System.play answer) ⟨start, []⟩ = s
    show s.play answer events[k] = s ∨ Step s (s.play answer events[k])
    cases events[k] with
    | arrive call => exact Or.inr (.arrive s call)
    | proceed i =>
        simp only [System.play]
        split
        · rename_i hclient
          exact Or.inr (.proceed hclient (hanswer _ _))
        · exact Or.inl rfl
  · left
    rw [List.take_of_length_le (by omega), List.take_of_length_le (by omega)]

end Sharing

end TemplateRegistry
