import TemplateRegistry.Proofs.DatabaseComponents
import TemplateRegistry.Proofs.DatabaseTemplates
import TemplateRegistry.Proofs.DatabaseTranscripts
/-!
# Writes are all or nothing

The calls of a store that write more than one row do so in one transaction,
whatever the database replies: rows that do not fit, counts that are not right,
and errors at any statement.  The rows of the name are locked before anything is
written, a transaction is committed only when all checks have passed and all
writes are sent, and an error means that nothing was committed, unless it is the
commit itself that has failed or, for a version that was made active, the
reading of its declarations after it.

* `StoreCall.Locks`, `StoreCall.Fulfilled` — what a call locks, and what it has
  done when it commits;
* `AllOrNothing` — what all of this means for a transcript;
* `Guarded`, `InParts` — the locks and the parts of a transaction;
* `allOrNothing_of_body` — a transaction is all or nothing if its body locks
  before it writes and ends well only when it is done.
-/

namespace TemplateRegistry

/-- A statement has succeeded, with a result. -/
def Replied (said : List Exchange) (statement : Statement)
    (value : statement.Result) : Prop :=
  (⟨.send statement, .ok value⟩ : Exchange) ∈ said

/-- The statements of a transcript that write. -/
def writesOf (said : List Exchange) : List Statement :=
  said.filterMap Exchange.write?

namespace StoreCall

open Database

/-- The calls that write in a transaction. -/
def InTransaction : StoreCall → Prop
  | insertVersion _ _ => True
  | swapActive _ _ _ => True
  | deleteFamily _ => True
  | putComponent _ => True
  | deactivateComponent _ => True
  | _ => False

/-- The statements that lock the rows of the name that a call is about.  Which
name it is may only be known from a version that was looked up. -/
def Locks (inside : List Exchange) : StoreCall → Statement → Prop
  | insertVersion new _, lock => lock = .lockTemplates new.name
  | swapActive id _ _, lock =>
    ∃ t, Replied inside (.templateById id) (some t) ∧
      lock = .lockTemplates t.name
  | deleteFamily name, lock => lock = .lockTemplates name
  | putComponent new, lock => lock = .lockComponents new.name
  | deactivateComponent name, lock => lock = .lockComponents name
  | _, _ => False

/-- What has been said in a transaction by the time a call commits it: the rows
are locked, the checks have passed with what was replied, and all writes have
been sent. -/
def Fulfilled (inside : List Exchange) : StoreCall → Prop
  | insertVersion new entry => ∃ family row,
      Replied inside (.lockTemplates new.name) family ∧
      checkSequence new.name
        (highestVersion (family.map TemplateVersion.version)) new.version =
        .ok () ∧
      (new.isActive = true → checkNoneActive new.name family = .ok ()) ∧
      Replied inside (.insertTemplate new) row ∧
      writesOf inside = versionWrites row.id new entry
  | swapActive id author notes => ∃ seen family target,
      Replied inside (.templateById id) (some seen) ∧
      Replied inside (.lockTemplates seen.name) family ∧
      family.find? (fun t => t.id = id) = some target ∧
      (target.isActive = true ∧ writesOf inside = [] ∨
        target.isActive = false ∧
          (∃ row, Replied inside (.setTemplateActive target.id true)
            (some row)) ∧
          writesOf inside =
            swapWrites { target with name := seen.name } author notes
            (family.find? fun t => t.isActive && t.id ≠ id))
  | deleteFamily name => ∃ family,
      Replied inside (.lockTemplates name) family ∧ family ≠ [] ∧
      writesOf inside = [.deleteLog name, .deleteTemplates name]
  | putComponent new => ∃ prepared family active,
      new.prepared = .ok prepared ∧
      Replied inside (.lockComponents new.name) family ∧
      Replied inside .activeComponents active ∧
      checkCycle prepared.name prepared.content (componentTexts active) =
        .ok () ∧
      writesOf inside = retireWrites (family.find? Component.isActive) ++
        [.insertComponent prepared
          (highestVersion (family.map Component.version) + 1)]
  | deactivateComponent name => ∃ family c row,
      Replied inside (.lockComponents name) family ∧
      family.find? Component.isActive = some c ∧ c.usageCount ≤ 0 ∧
      Replied inside (.componentById c.id) (some row) ∧
      writesOf inside = [.deactivateComponent c.id]
  | _ => False

/-- The errors that a commit that failed may mean. -/
def CommitFailure (e : DatabaseError) (error : EngineError) : StoreCall → Prop
  | insertVersion new _ => error = insertFailure new e
  | swapActive _ _ _ =>
    error = .database e ∨ ∃ name, error = .ofDatabase "Template" name e
  | putComponent new => error = .ofDatabase "Component" new.name e
  | _ => error = .database e

/-- A version was made active and the transaction committed, but its
declarations could not be read afterwards. -/
def Unread (said : List Exchange) (error : EngineError) : StoreCall → Prop
  | swapActive _ _ _ => ∃ first id reply,
      said = first ++ [⟨.commit, .ok ()⟩, ⟨.send (.parametersOf id), reply⟩] ∧
      ((∃ e, reply = .error e ∧ error = .database e) ∨
        ∃ rows e, reply = .ok rows ∧ definitions rows = .error e ∧
          error = .registry e)
  | _ => False

end StoreCall

/-- What is said for a call is all or nothing. -/
structure AllOrNothing {α : Type} (call : StoreCall) (said : List Exchange)
    (result : Except EngineError α) : Prop where
  /-- There is one transaction at most, and nothing is said before it. -/
  begun : ∀ before reply after, said = before ++ ⟨.begin, reply⟩ :: after →
    before = []
  /-- What is written is written in the transaction, and the rows were locked
  before. -/
  locked : ∀ before x after statement, said = before ++ x :: after →
    x.write? = some statement →
    ∃ inside, before = ⟨.begin, .ok ()⟩ :: inside ∧
      (∀ y ∈ inside, y.isStatement = true) ∧
      ∃ lock rows, call.Locks inside lock ∧ Replied inside lock rows
  /-- The commit comes when all has succeeded and is done, once, and ends all
  writing. -/
  committed : ∀ before reply after, said = before ++ ⟨.commit, reply⟩ :: after →
    (∀ x ∈ before, x.succeeded = true) ∧
    (∃ inside, before = ⟨.begin, .ok ()⟩ :: inside ∧ call.Fulfilled inside) ∧
    ∀ x ∈ after, x.call ≠ .commit ∧ x.write? = none
  /-- After an error nothing is committed, but for two kinds of errors. -/
  failed : ∀ error, result = .error error →
    (∀ x ∈ said, x.call ≠ .commit) ∨
    (∃ e, (⟨.commit, .error e⟩ : Exchange) ∈ said ∧
      call.CommitFailure e error) ∨
    call.Unread said error

namespace Database

open Dialogue

variable {α β : Type} {call : StoreCall} {said inside rest : List Exchange}
  {last : Exchange} {result : Except EngineError α}

/-! ### The parts of a transcript -/

/-- What was written is written part by part. -/
@[simp] theorem writesOf_append (first second : List Exchange) :
    writesOf (first ++ second) = writesOf first ++ writesOf second :=
  List.filterMap_append

@[simp] theorem writesOf_nil : writesOf [] = [] := rfl

/-- A statement counts if it writes. -/
@[simp] theorem writesOf_send (statement : Statement)
    (reply : (DatabaseCall.send statement).Result) (more : List Exchange) :
    writesOf (⟨.send statement, reply⟩ :: more) =
      if statement.isWrite = true then statement :: writesOf more
      else writesOf more := by
  have hwrite : (⟨.send statement, reply⟩ : Exchange).write? =
      if statement.isWrite = true then some statement else none := rfl
  unfold writesOf
  by_cases h : statement.isWrite = true
  · rw [if_pos h] at hwrite ⊢
    exact List.filterMap_cons_some hwrite
  · rw [if_neg h] at hwrite ⊢
    exact List.filterMap_cons_none hwrite

/-- A place in a list that was put together is in one of its parts. -/
theorem split_append {γ : Type} {first second before after : List γ} {x : γ}
    (h : first ++ second = before ++ x :: after) :
    (∃ rest, first = before ++ x :: rest) ∨
      ∃ rest, before = first ++ rest ∧ second = rest ++ x :: after := by
  rcases List.append_eq_append_iff.mp h with ⟨rest, hbefore, hsecond⟩ |
    ⟨rest, hfirst, hafter⟩
  · exact Or.inr ⟨rest, hbefore, hsecond⟩
  · cases rest with
    | nil =>
        rw [List.append_nil] at hfirst
        exact Or.inr ⟨[], by rw [List.append_nil, hfirst], hafter.symm⟩
    | cons y rest =>
        obtain ⟨rfl, -⟩ := List.cons.inj hafter
        exact Or.inl ⟨rest, hfirst⟩

/-- Everything that is written comes after a lock. -/
def Guarded (call : StoreCall) (inside : List Exchange) : Prop :=
  ∀ before x after statement, inside = before ++ x :: after →
    x.write? = some statement →
    ∃ lock rows, call.Locks before lock ∧ Replied before lock rows

/-- Where nothing is written, no lock is needed. -/
theorem guarded_of_reads (h : ∀ x ∈ inside, x.write? = none) :
    Guarded call inside := by
  rintro before x after statement rfl hwrite
  rw [h x (by simp)] at hwrite
  cases hwrite

/-- Once the rows are locked anything may follow. -/
theorem guarded_of_locked (reads : List Exchange) {lock : Statement}
    {rows : lock.Result} (hreads : ∀ x ∈ reads, x.write? = none)
    (hquery : lock.isWrite = false)
    (hlocks : ∀ more,
      call.Locks (reads ++ ⟨.send lock, .ok rows⟩ :: more) lock) :
    Guarded call (reads ++ ⟨.send lock, .ok rows⟩ :: rest) := by
  intro before x after statement hinside hwrite
  have hsplit :
      (reads ++ [⟨.send lock, .ok rows⟩]) ++ rest = before ++ x :: after := by
    rw [List.append_assoc]
    exact hinside
  rcases split_append hsplit with ⟨more, hfirst⟩ | ⟨more, rfl, -⟩
  · -- neither what comes before the lock nor the lock is a write
    have hx : x ∈ reads ++ [⟨.send lock, .ok rows⟩] := by
      rw [hfirst]
      simp
    have hnone : x.write? = none := by
      rcases List.mem_append.mp hx with hread | hlock
      · exact hreads x hread
      · obtain rfl := List.mem_singleton.mp hlock
        simp [Exchange.write?, hquery]
    rw [hnone] at hwrite
    cases hwrite
  · refine ⟨lock, rows, ?_, ?_⟩
    · rw [List.append_assoc]
      exact hlocks more
    · simp [Replied]

/-- A body that begins with the lock. -/
theorem guarded_of_lock_bind {meaning : DatabaseError → EngineError}
    {lock : Statement} {f : lock.Result → Dialogue α}
    (hquery : lock.isWrite = false) (hlocks : ∀ inside, call.Locks inside lock)
    (h : (sendOr meaning lock >>= f).Says said result) :
    Guarded call said := by
  rcases says_bind.mp h with ⟨error, -, hlock⟩ |
    ⟨first, rows, second, rfl, hlock, -⟩
  · obtain ⟨reply, rfl, -⟩ := says_sendOr.mp hlock
    exact guarded_of_reads (by simp [Exchange.write?, hquery])
  · obtain rfl := says_sendOr_ok.mp hlock
    exact guarded_of_locked [] (by simp) hquery fun _ => hlocks _

/-- What is said in a transaction that was begun: the statements in it, what
ends it, and what is said after that. -/
structure InParts (call : StoreCall) (inside : List Exchange) (last : Exchange)
    (rest : List Exchange) : Prop where
  statements : ∀ x ∈ inside, x.isStatement = true
  guarded : Guarded call inside
  quiet : ∀ x ∈ last :: rest, x.call ≠ .begin ∧ x.write? = none
  isLast : ∀ x ∈ rest, x.call ≠ .commit
  fulfilled : last.call = .commit →
    (∀ x ∈ inside, x.succeeded = true) ∧ call.Fulfilled inside

namespace InParts

/-- Between its beginning and its end a transaction says statements only. -/
theorem not_control (h : InParts call inside last rest) {x : Exchange}
    (hx : x ∈ inside) :
    x.call ≠ .begin ∧ x.call ≠ .commit := by
  have hstatement := h.statements x hx
  constructor <;> intro hcall <;>
    simp [Exchange.isStatement, hcall] at hstatement

/-- A transaction begins with the first thing that is said. -/
theorem begun (h : InParts call inside last rest) {before after : List Exchange}
    {reply : DatabaseCall.begin.Result}
    (hsaid : (⟨.begin, .ok ()⟩ : Exchange) :: (inside ++ last :: rest) =
      before ++ ⟨.begin, reply⟩ :: after) : before = [] := by
  cases before with
  | nil => rfl
  | cons first before =>
      have hmem : (⟨.begin, reply⟩ : Exchange) ∈ inside ++ last :: rest := by
        rw [(List.cons.inj hsaid).2]
        simp
      rcases List.mem_append.mp hmem with hmem | hmem
      · exact ((h.not_control hmem).1 rfl).elim
      · exact ((h.quiet _ hmem).1 rfl).elim

/-- What is written comes after the beginning and the lock of the call. -/
theorem locked (h : InParts call inside last rest)
    {before after : List Exchange} {x : Exchange} {statement : Statement}
    (hsaid : (⟨.begin, .ok ()⟩ : Exchange) :: (inside ++ last :: rest) =
      before ++ x :: after)
    (hwrite : x.write? = some statement) :
    ∃ inside, before = ⟨.begin, .ok ()⟩ :: inside ∧
      (∀ y ∈ inside, y.isStatement = true) ∧
      ∃ lock rows, call.Locks inside lock ∧ Replied inside lock rows := by
  cases before with
  | nil =>
      obtain ⟨rfl, -⟩ := List.cons.inj hsaid
      cases hwrite
  | cons first before =>
      obtain ⟨rfl, hrest⟩ := List.cons.inj hsaid
      rcases split_append hrest with ⟨more, rfl⟩ | ⟨more, rfl, hlast⟩
      · exact ⟨before, rfl,
          fun y hy => h.statements y (List.mem_append_left _ hy),
          h.guarded before x more statement rfl hwrite⟩
      · have hx : x ∈ last :: rest := by
          rw [hlast]
          simp
        rw [(h.quiet x hx).2] at hwrite
        cases hwrite

/-- What is committed is complete, and nothing is written after it. -/
theorem committed (h : InParts call inside last rest)
    {before after : List Exchange} {reply : DatabaseCall.commit.Result}
    (hsaid : (⟨.begin, .ok ()⟩ : Exchange) :: (inside ++ last :: rest) =
      before ++ ⟨.commit, reply⟩ :: after) :
    (∀ x ∈ before, x.succeeded = true) ∧
    (∃ inside, before = ⟨.begin, .ok ()⟩ :: inside ∧ call.Fulfilled inside) ∧
    ∀ x ∈ after, x.call ≠ .commit ∧ x.write? = none := by
  cases before with
  | nil =>
      have hcall := congrArg Exchange.call (List.cons.inj hsaid).1
      cases hcall
  | cons first before =>
      obtain ⟨rfl, hrest⟩ := List.cons.inj hsaid
      rcases split_append hrest with ⟨more, rfl⟩ | ⟨more, rfl, hlast⟩
      · exact ((h.not_control (x := ⟨.commit, reply⟩) (by simp)).2 rfl).elim
      · cases more with
        | cons second more =>
            -- the commit would come after what ends the transaction
            obtain ⟨rfl, hmore⟩ := List.cons.inj hlast
            exact (h.isLast ⟨.commit, reply⟩ (by rw [hmore]; simp) rfl).elim
        | nil =>
            obtain ⟨rfl, rfl⟩ := List.cons.inj hlast
            obtain ⟨hsucceeded, hfulfilled⟩ := h.fulfilled rfl
            rw [List.append_nil]
            refine ⟨?_, ⟨inside, rfl, hfulfilled⟩, fun x hx => ?_⟩
            · intro x hx
              rcases List.mem_cons.mp hx with rfl | hx
              · rfl
              · exact hsucceeded x hx
            · exact ⟨h.isLast x hx, (h.quiet x (List.mem_cons_of_mem _ hx)).2⟩

end InParts

/-- A transaction in these parts is all or nothing, if a failure is told as
such. -/
theorem allOrNothing_of_parts (h : InParts call inside last rest)
    (hfailed : ∀ error, result = .error error → last.call ≠ .commit ∨
      (∃ e, last = ⟨.commit, .error e⟩ ∧ call.CommitFailure e error) ∨
      call.Unread (⟨.begin, .ok ()⟩ :: (inside ++ last :: rest)) error) :
    AllOrNothing call (⟨.begin, .ok ()⟩ :: (inside ++ last :: rest))
      result := by
  refine ⟨fun _ _ _ => h.begun, fun _ _ _ _ => h.locked,
    fun _ _ _ => h.committed, ?_⟩
  intro error herror
  rcases hfailed error herror with hnone | ⟨e, rfl, hmeaning⟩ | hunread
  · left
    intro x hx
    rcases List.mem_cons.mp hx with rfl | hx
    · simp
    · rcases List.mem_append.mp hx with hx | hx
      · exact (h.not_control hx).2
      · rcases List.mem_cons.mp hx with rfl | hx
        · exact hnone
        · exact h.isLast x hx
  · exact Or.inr (Or.inl ⟨e, by simp, hmeaning⟩)
  · exact Or.inr (Or.inr hunread)

/-- A call that has asked for nothing. -/
theorem allOrNothing_of_silence : AllOrNothing call [] result := by
  refine ⟨?_, ?_, ?_, fun _ _ => Or.inl (by simp)⟩
  · intro before reply after h
    simp at h
  · intro before x after statement h
    simp at h
  · intro before reply after h
    simp at h

/-- A transaction that could not be begun. -/
theorem allOrNothing_of_notBegun (e : DatabaseError) :
    AllOrNothing call [⟨.begin, .error e⟩] result := by
  have hsplit : ∀ {before after : List Exchange} {x : Exchange},
      [⟨.begin, .error e⟩] = before ++ x :: after →
        before = [] ∧ x = ⟨.begin, .error e⟩ := by
    intro before after x h
    cases before with
    | nil => exact ⟨rfl, (List.cons.inj h).1.symm⟩
    | cons first before => simp at h
  refine ⟨?_, ?_, ?_, ?_⟩
  · exact fun before reply after h => (hsplit h).1
  · intro before x after statement h hwrite
    obtain ⟨-, rfl⟩ := hsplit h
    cases hwrite
  · intro before reply after h
    have hcall := congrArg Exchange.call (hsplit h).2
    cases hcall
  · exact fun error _ => Or.inl (by simp)

/-- Whether a call was all or nothing is a matter of what it said and of its
error. -/
theorem allOrNothing_of_result {ended : Except EngineError β}
    (h : AllOrNothing call said ended)
    (herror : ∀ error, result = .error error → ended = .error error) :
    AllOrNothing call said result :=
  ⟨h.begun, h.locked, h.committed, fun error hresult =>
    h.failed error (herror error hresult)⟩

/-- **A transaction** is all or nothing if its body sends statements only, locks
before it writes, and ends well only when the call is done. -/
theorem allOrNothing_of_body {meaning : α → DatabaseError → EngineError}
    {body : Dialogue α} (hplain : Plain body)
    (hguarded : ∀ inside ended, body.Says inside ended → Guarded call inside)
    (hfulfilled : ∀ inside value, body.Says inside (.ok value) →
      call.Fulfilled inside)
    (hmeaning : ∀ value e, call.CommitFailure e (meaning value e))
    (h : (transaction meaning body).Says said result) :
    AllOrNothing call said result := by
  have hparts : ∀ {inside last rest ended}, body.Says inside ended →
      (∀ x ∈ last :: rest, x.call ≠ .begin ∧ x.write? = none) →
      (∀ x ∈ rest, x.call ≠ .commit) →
      (last.call = .commit → ∃ value, ended = .ok value) →
      InParts call inside last rest := by
    intro inside last rest ended hbody hquiet hover hended
    refine ⟨(hplain _ _ hbody).1, hguarded _ _ hbody, hquiet, hover,
      fun hcommit => ?_⟩
    obtain ⟨value, rfl⟩ := hended hcommit
    exact ⟨(hplain _ _ hbody).2 ⟨value, rfl⟩, hfulfilled _ _ hbody⟩
  rcases says_transaction h with ⟨e, rfl, rfl⟩ | ⟨inside,
    ⟨error, rfl, rfl, hbody⟩ |
    ⟨value, rfl, rfl, hbody⟩ | ⟨value, e, rfl, rfl, hbody⟩⟩
  · exact allOrNothing_of_notBegun e
  · refine allOrNothing_of_parts (hparts hbody ?_ ?_ ?_) fun _ _ =>
      Or.inl (by simp)
    · simp [Exchange.write?]
    · simp
    · simp
  · refine allOrNothing_of_parts (hparts hbody ?_ ?_ ?_) fun _ herror => by
      simp at herror
    · simp [Exchange.write?]
    · simp
    · exact fun _ => ⟨value, rfl⟩
  · refine allOrNothing_of_parts (hparts hbody ?_ ?_ ?_) fun error herror => ?_
    · simp [Exchange.write?]
    · simp
    · exact fun _ => ⟨value, rfl⟩
    · obtain rfl := Except.error.inj herror
      exact Or.inr (Or.inl ⟨e, rfl, hmeaning value e⟩)

end Database

end TemplateRegistry
