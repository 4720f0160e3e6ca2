import TemplateRegistry.Database.Dialogue
import TemplateRegistry.Proofs.DatabaseSessions
/-!
# Transcripts

A transcript of a program is what it has said to the database and been replied,
from its start to its end.  Nothing is assumed of the database: every request
may get any reply that a request of its kind can get, rows that are not there,
counts that are not right, and errors included.

* `Exchange` — a request and its reply;
* `Program.Transcript` — the transcripts of a program, one for every sequence of
  replies (`Program.transcript_converse`);
* `Dialogue.says_bind`, `Dialogue.says_sendOr`, … — the transcripts of a
  dialogue, by its parts;
* `Dialogue.says_transaction` — the four ways in which a transaction can go;
* `Dialogue.Plain` — dialogues that only send statements and succeed only if all
  of them do.
-/

namespace TemplateRegistry

/-- A request to the database, and the reply to it. -/
structure Exchange where
  call : DatabaseCall
  reply : call.Result

namespace Exchange

/-- A statement, as opposed to the control of a transaction and all that has
nothing to do with one. -/
def isStatement (x : Exchange) : Bool :=
  match x.call with
  | .send _ => true
  | _ => false

/-- The statement of a request, if it writes. -/
def write? (x : Exchange) : Option Statement :=
  match x.call with
  | .send statement => if statement.isWrite then some statement else none
  | _ => none

/-- Whether the database has done what it was asked for. -/
def succeeded : Exchange → Bool
  | ⟨.connect _ _, reply⟩ => reply.isOk
  | ⟨.send _, reply⟩ => reply.isOk
  | ⟨.begin, reply⟩ => reply.isOk
  | ⟨.commit, reply⟩ => reply.isOk
  | ⟨.rollback, _⟩ => true
  | ⟨.appliedMigrations, reply⟩ => reply.isOk
  | ⟨.applyMigration _, reply⟩ => reply.isOk

end Exchange

namespace Program

variable {α β : Type}

/-- What a program has said, with the replies, once it is done with a value. -/
def Transcript : Program DatabaseCalls α → List Exchange → α → Prop
  | done value, said, result => said = [] ∧ result = value
  | ask call next, said, result =>
    ∃ reply rest, said = ⟨call, reply⟩ :: rest ∧
      Transcript (next reply) rest result

/-- The transcript of one program after another. -/
theorem transcript_bind {p : Program DatabaseCalls α}
    {f : α → Program DatabaseCalls β} {said : List Exchange} {result : β} :
    Transcript (p.bind f) said result ↔
      ∃ first value second, said = first ++ second ∧ Transcript p first value ∧
        Transcript (f value) second result := by
  induction p generalizing said with
  | done value =>
      constructor
      · exact fun h => ⟨[], value, said, rfl, ⟨rfl, rfl⟩, h⟩
      · rintro ⟨first, other, second, rfl, ⟨rfl, rfl⟩, h⟩
        exact h
  | ask call next ih =>
      constructor
      · rintro ⟨reply, rest, rfl, h⟩
        obtain ⟨first, value, second, rfl, hfirst, hsecond⟩ := (ih reply).mp h
        exact ⟨⟨call, reply⟩ :: first, value, second, rfl,
          ⟨reply, first, rfl, hfirst⟩, hsecond⟩
      · rintro ⟨first, value, second, rfl, ⟨reply, rest, rfl, hrest⟩, hsecond⟩
        exact ⟨reply, rest ++ second, rfl,
          (ih reply).mpr ⟨rest, value, second, rfl, hrest, hsecond⟩⟩

/-- A program with replies made up by a function of what was said before. -/
def converse (answer : List Exchange → (call : DatabaseCall) → call.Result)
    (p : Program DatabaseCalls α) (past : List Exchange) : α × List Exchange :=
  p.run (fun call past =>
    (answer past call, past ++ [⟨call, answer past call⟩])) past

/-- **Every sequence of replies** has its transcript. -/
theorem transcript_converse
    (answer : List Exchange → (call : DatabaseCall) → call.Result)
    (p : Program DatabaseCalls α) (past : List Exchange) :
    ∃ said, (converse answer p past).2 = past ++ said ∧
      Transcript p said (converse answer p past).1 := by
  induction p generalizing past with
  | done value => exact ⟨[], (List.append_nil past).symm, rfl, rfl⟩
  | ask call next ih =>
      obtain ⟨said, hsaid, hrest⟩ :=
        ih (answer past call) (past ++ [⟨call, answer past call⟩])
      rw [List.append_assoc] at hsaid
      exact ⟨_, hsaid, _, said, rfl, hrest⟩

end Program

namespace Dialogue

variable {α β : Type} {said : List Exchange} {result : Except EngineError α}

/-- What a dialogue has said, with the replies, once it is over with a
result. -/
def Says (d : Dialogue α) (said : List Exchange)
    (result : Except EngineError α) : Prop :=
  Program.Transcript d.run said result

theorem says_pure {value : α} :
    (pure value : Dialogue α).Says said result ↔
      said = [] ∧ result = .ok value :=
  Iff.rfl

theorem says_fail {error : RegistryError} :
    (fail error : Dialogue α).Says said result ↔
      said = [] ∧ result = .error (.registry error) :=
  Iff.rfl

/-- A check says nothing. -/
theorem says_ofExcept {check : Except RegistryError α} :
    (ofExcept check).Says said result ↔
      said = [] ∧ result = check.mapError .registry :=
  Iff.rfl

/-- Asking whether something was found says nothing. -/
theorem says_found {error : RegistryError} {o : Option α} :
    (found error o).Says said result ↔
      said = [] ∧ result = (Memory.found error o).mapError .registry := by
  cases o <;> exact Iff.rfl

/-- A statement says itself. -/
theorem says_sendOr {meaning : DatabaseError → EngineError}
    {statement : Statement} {result : Except EngineError statement.Result} :
    (sendOr meaning statement).Says said result ↔
      ∃ reply, said = [⟨.send statement, reply⟩] ∧
        result = reply.mapError meaning := by
  constructor
  · rintro ⟨reply, rest, rfl, rfl, rfl⟩
    exact ⟨reply, rfl, rfl⟩
  · rintro ⟨reply, rfl, rfl⟩
    exact ⟨reply, [], rfl, rfl, rfl⟩

/-- A dialogue after another is not begun if the other fails. -/
theorem says_bind {d : Dialogue β} {f : β → Dialogue α} :
    (d >>= f).Says said result ↔
      (∃ error, result = .error error ∧ d.Says said (.error error)) ∨
        ∃ first value second, said = first ++ second ∧
          d.Says first (.ok value) ∧ (f value).Says second result := by
  have hbind : (d >>= f).Says said result ↔
      ∃ first ended second, said = first ++ second ∧
      d.Says first ended ∧
      Program.Transcript (ExceptT.bindCont f ended) second result :=
    Program.transcript_bind
  rw [hbind]
  constructor
  · rintro ⟨first, ended, second, rfl, hfirst, hsecond⟩
    cases ended with
    | error error =>
        obtain ⟨rfl, rfl⟩ := hsecond
        rw [List.append_nil]
        exact Or.inl ⟨error, rfl, hfirst⟩
    | ok value => exact Or.inr ⟨first, value, second, rfl, hfirst, hsecond⟩
  · rintro (⟨error, rfl, h⟩ | ⟨first, value, second, rfl, hfirst, hsecond⟩)
    · exact ⟨said, .error error, [], (List.append_nil said).symm, h, rfl, rfl⟩
    · exact ⟨first, .ok value, second, rfl, hfirst, hsecond⟩

/-- A dialogue that succeeds after another: both do. -/
theorem says_bind_ok {d : Dialogue β} {f : β → Dialogue α} {value : α} :
    (d >>= f).Says said (.ok value) ↔
      ∃ first middle second, said = first ++ second ∧
        d.Says first (.ok middle) ∧ (f middle).Says second (.ok value) := by
  rw [says_bind]
  simp

/-- What is made of the result says nothing. -/
theorem says_map {d : Dialogue β} {g : β → α}
    (h : (d >>= fun value => pure (g value)).Says said result) :
    ∃ ended, d.Says said ended ∧ ∀ error, result = .error error →
      ended = .error error := by
  rcases says_bind.mp h with ⟨error, rfl, hd⟩ |
    ⟨first, value, second, rfl, hd, hg⟩
  · exact ⟨.error error, hd, fun other hother => by
      rw [Except.error.inj hother]⟩
  · obtain ⟨rfl, rfl⟩ := says_pure.mp hg
    rw [List.append_nil]
    exact ⟨.ok value, hd, fun error herror => by cases herror⟩

/-- A statement has succeeded if it was sent and got its rows. -/
theorem says_sendOr_ok {meaning : DatabaseError → EngineError}
    {statement : Statement} {value : statement.Result} :
    (sendOr meaning statement).Says said (.ok value) ↔
      said = [⟨.send statement, .ok value⟩] := by
  rw [says_sendOr]
  constructor
  · rintro ⟨reply, rfl, h⟩
    cases reply with
    | error error => cases h
    | ok other =>
        obtain rfl := Except.ok.inj h
        rfl
  · rintro rfl
    exact ⟨_, rfl, rfl⟩

/-- A check has passed, and has said nothing. -/
theorem says_ofExcept_ok {check : Except RegistryError α} {value : α} :
    (ofExcept check).Says said (.ok value) ↔ said = [] ∧ check = .ok value := by
  rw [says_ofExcept]
  cases check with
  | error error => simp [Except.mapError]
  | ok other => simp [Except.mapError, eq_comm]

/-- What was looked for was there, and nothing was said. -/
theorem says_found_ok {error : RegistryError} {o : Option α} {value : α} :
    (found error o).Says said (.ok value) ↔ said = [] ∧ o = some value := by
  rw [says_found]
  cases o with
  | none => simp [Memory.found, Except.mapError]
  | some other => simp [Memory.found, Except.mapError, eq_comm]

/-! ### Transactions -/

/-- How a transaction goes on when its body is over. -/
def closing (meaning : α → DatabaseError → EngineError) :
    Except EngineError α → Program DatabaseCalls (Except EngineError α)
  | .error error => .ask (I := DatabaseCalls) .rollback fun _ =>
    .done (.error error)
  | .ok value => .ask (I := DatabaseCalls) .commit fun committed =>
    match committed with
    | .ok () => .done (.ok value)
    | .error e => .ask (I := DatabaseCalls) .rollback fun _ =>
      .done (.error (meaning value e))

/-- **A transaction** is not begun, or given up, or committed, or its commit
fails. -/
theorem says_transaction {meaning : α → DatabaseError → EngineError}
    {body : Dialogue α} (h : (transaction meaning body).Says said result) :
    (∃ e, said = [⟨.begin, .error e⟩] ∧ result = .error (.database e)) ∨
    ∃ inside,
      ((∃ error, said = ⟨.begin, .ok ()⟩ :: (inside ++ [⟨.rollback, ()⟩]) ∧
          result = .error error ∧ body.Says inside (.error error)) ∨
        (∃ value, said = ⟨.begin, .ok ()⟩ :: (inside ++ [⟨.commit, .ok ()⟩]) ∧
          result = .ok value ∧ body.Says inside (.ok value)) ∨
        ∃ value e, said = ⟨.begin, .ok ()⟩ :: (inside ++
            [⟨.commit, .error e⟩, ⟨.rollback, ()⟩]) ∧
          result = .error (meaning value e) ∧
          body.Says inside (.ok value)) := by
  obtain ⟨begun, rest, rfl, hrest⟩ := h
  cases begun with
  | error e =>
      obtain ⟨rfl, rfl⟩ := hrest
      exact Or.inl ⟨e, rfl, rfl⟩
  | ok _ =>
      right
      have hrun :
          Program.Transcript (body.run.bind (closing meaning)) rest result :=
        hrest
      obtain ⟨inside, ended, last, rfl, hbody, hclosing⟩ :=
        Program.transcript_bind.mp hrun
      refine ⟨inside, ?_⟩
      cases ended with
      | error error =>
          obtain ⟨_, _, rfl, rfl, rfl⟩ := hclosing
          exact Or.inl ⟨error, rfl, rfl, hbody⟩
      | ok value =>
          obtain ⟨committed, after, rfl, hafter⟩ := hclosing
          cases committed with
          | ok _ =>
              obtain ⟨rfl, rfl⟩ := hafter
              exact Or.inr (Or.inl ⟨value, rfl, rfl, hbody⟩)
          | error e =>
              obtain ⟨_, _, rfl, rfl, rfl⟩ := hafter
              exact Or.inr (Or.inr ⟨value, e, rfl, rfl, hbody⟩)

/-- A transaction that succeeds is committed. -/
theorem says_transaction_ok {meaning : α → DatabaseError → EngineError}
    {body : Dialogue α} {value : α}
    (h : (transaction meaning body).Says said (.ok value)) :
    ∃ inside, said = ⟨.begin, .ok ()⟩ :: (inside ++ [⟨.commit, .ok ()⟩]) ∧
      body.Says inside (.ok value) := by
  rcases says_transaction h with ⟨e, -, herror⟩ | ⟨inside,
    ⟨error, -, herror, -⟩ |
    ⟨other, hsaid, hok, hbody⟩ | ⟨other, e, -, herror, -⟩⟩
  · cases herror
  · cases herror
  · obtain rfl := Except.ok.inj hok
    exact ⟨inside, hsaid, hbody⟩
  · cases herror

/-! ### Plain dialogues -/

/-- A dialogue that sends nothing but statements, and succeeds only if all of
them do. -/
def Plain (d : Dialogue α) : Prop :=
  ∀ said result, d.Says said result → (∀ x ∈ said, x.isStatement = true) ∧
    ((∃ value, result = .ok value) → ∀ x ∈ said, x.succeeded = true)

theorem plain_pure (value : α) : Plain (pure value : Dialogue α) := by
  rintro said result ⟨rfl, rfl⟩
  simp

theorem plain_fail (error : RegistryError) :
    Plain (fail error : Dialogue α) := by
  rintro said result ⟨rfl, rfl⟩
  simp

theorem plain_ofExcept (check : Except RegistryError α) :
    Plain (ofExcept check) := by
  rintro said result ⟨rfl, rfl⟩
  simp

theorem plain_found (error : RegistryError) (o : Option α) :
    Plain (found error o) := by
  cases o with
  | none => exact plain_fail error
  | some value => exact plain_pure value

/-- A statement is plain. -/
theorem plain_sendOr (meaning : DatabaseError → EngineError)
    (statement : Statement) :
    Plain (sendOr meaning statement) := by
  intro said result h
  obtain ⟨reply, rfl, rfl⟩ := says_sendOr.mp h
  refine ⟨by simp [Exchange.isStatement], ?_⟩
  rintro ⟨value, hvalue⟩ x hx
  obtain rfl := List.mem_singleton.mp hx
  cases reply with
  | error error => cases hvalue
  | ok _ => rfl

/-- Plain dialogues can follow one another. -/
theorem plain_bind {d : Dialogue β} {f : β → Dialogue α} (hd : Plain d)
    (hf : ∀ value, Plain (f value)) :
    Plain (d >>= f) := by
  intro said result h
  rcases says_bind.mp h with ⟨error, rfl, hfailed⟩ |
    ⟨first, value, second, rfl, hfirst, hsecond⟩
  · exact ⟨(hd _ _ hfailed).1, by simp⟩
  · obtain ⟨hstatements, hsucceeded⟩ := hd _ _ hfirst
    obtain ⟨hstatements', hsucceeded'⟩ := hf value _ _ hsecond
    refine ⟨List.forall_mem_append.mpr ⟨hstatements, hstatements'⟩,
      fun hok => ?_⟩
    exact List.forall_mem_append.mpr ⟨hsucceeded ⟨value, rfl⟩, hsucceeded' hok⟩

end Dialogue

end TemplateRegistry
