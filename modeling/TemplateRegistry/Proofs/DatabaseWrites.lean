import TemplateRegistry.Proofs.DatabaseAtomicity
/-!
# The calls that write in a transaction

Each of them, a transaction with a lock at its start or soon after, is all or
nothing.  What is left to see for each call is which statements its transaction
sends, and that it ends well only when the checks have passed and the writes are
complete.

* `insertVersion_allOrNothing`, `swapActive_allOrNothing`,
  `deleteFamily_allOrNothing`, `putComponent_allOrNothing`,
  `deactivateComponent_allOrNothing` — the calls;
* `store_all_or_nothing` — all of them, whatever the database replies.
-/

namespace TemplateRegistry.Database

open Dialogue

variable {α : Type} {call : StoreCall} {said : List Exchange}
  {result : Except EngineError α}

/-! ### Writing a version -/

/-- Declarations are written by statements alone. -/
theorem plain_insertParameters (id : Int) (position : Nat)
    (params : List ParameterDef) :
    Plain (insertParameters id position params) := by
  induction params generalizing position with
  | nil => exact plain_pure ()
  | cons param rest ih =>
    exact plain_bind (plain_sendOr _ _) fun _ => ih (position + 1)

/-- Once they are written, all declarations have been sent in order. -/
theorem writesOf_insertParameters {id : Int} {position : Nat}
    {params : List ParameterDef}
    (h : (insertParameters id position params).Says said (.ok ())) :
    writesOf said = parameterWrites id position params := by
  induction params generalizing position said with
  | nil =>
      obtain ⟨rfl, -⟩ := says_pure.mp h
      rfl
  | cons param rest ih =>
      obtain ⟨first, _, second, rfl, hfirst, hsecond⟩ := says_bind_ok.mp h
      obtain rfl := says_sendOr_ok.mp hfirst
      rw [List.singleton_append, writesOf_send, ih hsecond]
      rfl

/-- What is left of an insertion once it is checked. -/
theorem plain_writeVersion (new : NewVersion) (entry : NewLogEntry) :
    Plain (do
      let row ← sendOr (insertFailure new) (.insertTemplate new)
      insertParameters row.id 0 new.fields.parameters
      let _ ← send (.insertLogEntry entry)
      return row) :=
  plain_bind (plain_sendOr _ _) fun row =>
    plain_bind (plain_insertParameters row.id 0 _)
    fun _ => plain_bind (plain_sendOr _ _) fun _ => plain_pure row

/-- What is written once an insertion is checked. -/
theorem says_writeVersion {new : NewVersion} {entry : NewLogEntry}
    {value : TemplateVersion} (h : (do
      let row ← sendOr (insertFailure new) (.insertTemplate new)
      insertParameters row.id 0 new.fields.parameters
      let _ ← send (.insertLogEntry entry)
      return row : Dialogue TemplateVersion).Says said (.ok value)) :
    Replied said (.insertTemplate new) value ∧
    writesOf said = versionWrites value.id new entry := by
  obtain ⟨first, row, afterRow, rfl, hfirst, hafterRow⟩ := says_bind_ok.mp h
  obtain rfl := says_sendOr_ok.mp hfirst
  obtain ⟨params, _, afterParams, rfl, hparams, hafterParams⟩ :=
    says_bind_ok.mp hafterRow
  obtain ⟨log, _, last, rfl, hlog, hlast⟩ := says_bind_ok.mp hafterParams
  obtain rfl := says_sendOr_ok.mp hlog
  obtain ⟨rfl, hvalue⟩ := says_pure.mp hlast
  obtain rfl := Except.ok.inj hvalue
  refine ⟨by simp [Replied], ?_⟩
  rw [List.singleton_append, writesOf_send, writesOf_append,
    writesOf_insertParameters hparams, List.append_nil, writesOf_send]
  rfl

/-- Storing a version is all or nothing. -/
theorem insertVersion_allOrNothing {new : NewVersion} {entry : NewLogEntry}
    {result : Except EngineError TemplateVersion}
    (h : (insertVersion new entry).Says said result) :
    AllOrNothing (.insertVersion new entry) said result := by
  obtain ⟨ended, htransaction, herror⟩ := says_map h
  refine allOrNothing_of_result (allOrNothing_of_body ?_
    (fun _ _ => guarded_of_lock_bind rfl fun _ => rfl) ?_
    (fun _ _ => rfl) htransaction) herror
  · refine plain_bind (plain_sendOr _ _) fun family =>
      plain_bind (plain_ofExcept _) fun _ => ?_
    split
    · exact plain_bind (plain_ofExcept _) fun _ => plain_writeVersion new entry
    · exact plain_writeVersion new entry
  · intro inside value hbody
    obtain ⟨first, family, afterLock, rfl, hfirst, hafterLock⟩ :=
      says_bind_ok.mp hbody
    obtain rfl := says_sendOr_ok.mp hfirst
    obtain ⟨none, _, checked, rfl, hcheck, hchecked⟩ :=
      says_bind_ok.mp hafterLock
    obtain ⟨rfl, hsequence⟩ := says_ofExcept_ok.mp hcheck
    have hwritten :
        (new.isActive = true → checkNoneActive new.name family = .ok ()) ∧
        Replied checked (.insertTemplate new) value ∧
        writesOf checked = versionWrites value.id new entry := by
      split at hchecked
      · obtain ⟨none, _, written, rfl, hfree, hwritten⟩ :=
          says_bind_ok.mp hchecked
        obtain ⟨rfl, hactive⟩ := says_ofExcept_ok.mp hfree
        exact ⟨fun _ => hactive, says_writeVersion hwritten⟩
      · rename_i hinactive
        exact ⟨fun hactive => (hinactive hactive).elim,
          says_writeVersion hchecked⟩
    obtain ⟨hfree, hreplied, hwrites⟩ := hwritten
    refine ⟨family, value, by simp [Replied], hsequence, hfree, ?_, ?_⟩
    · exact List.mem_cons_of_mem _ hreplied
    · exact hwrites

/-! ### Making a version active -/

/-- The previous version is switched off by statements alone. -/
theorem plain_deactivatePrevious (name : String) (target : VersionRef)
    (author : String) (notes : Option String)
    (previous : Option TemplateVersion) :
    Plain (deactivatePrevious name target author notes previous) := by
  cases previous with
  | none => exact plain_pure ()
  | some old =>
      exact plain_bind (plain_sendOr _ _) fun _ =>
        plain_bind (plain_sendOr _ _) fun _ => plain_pure ()

/-- Once it is switched off, the version and its entry of the log have been
sent. -/
theorem writesOf_deactivatePrevious {target : TemplateVersion} {author : String}
    {notes : Option String} {previous : Option TemplateVersion}
    (h : (deactivatePrevious target.name target.ref author notes previous).Says
      said (.ok ())) :
    writesOf said = asideWrites target author notes previous := by
  cases previous with
  | none =>
      obtain ⟨rfl, -⟩ := says_pure.mp h
      rfl
  | some old =>
      obtain ⟨first, _, second, rfl, hfirst, hsecond⟩ := says_bind_ok.mp h
      obtain rfl := says_sendOr_ok.mp hfirst
      obtain ⟨log, _, last, rfl, hlog, hlast⟩ := says_bind_ok.mp hsecond
      obtain rfl := says_sendOr_ok.mp hlog
      obtain ⟨rfl, -⟩ := says_pure.mp hlast
      rfl

/-- All of a swap after its lock is done by statements. -/
theorem plain_swapLocked (id : Int) (author : String) (notes : Option String) :
    Plain (swapLocked id author notes) := by
  refine plain_bind (plain_sendOr _ _) fun row =>
    plain_bind (plain_found _ _) fun seen =>
    plain_bind (plain_sendOr _ _) fun family =>
    plain_bind (plain_found _ _) fun target => ?_
  split
  · exact plain_pure _
  · exact plain_bind (plain_deactivatePrevious _ _ _ _ _) fun _ =>
      plain_bind (plain_sendOr _ _) fun _ =>
      plain_bind (plain_found _ _) fun _ =>
      plain_bind (plain_sendOr _ _) fun _ => plain_pure _

/-- Which rows are locked is known once the version was looked up. -/
theorem guarded_swapLocked {id : Int} {author : String} {notes : Option String}
    {result : Except EngineError Swap}
    (h : (swapLocked id author notes).Says said result) :
    Guarded (.swapActive id author notes) said := by
  rcases says_bind.mp h with ⟨error, -, hlooked⟩ |
    ⟨first, row, afterRow, rfl, hlooked, hafterRow⟩
  · obtain ⟨reply, rfl, -⟩ := says_sendOr.mp hlooked
    exact guarded_of_reads (by simp [Exchange.write?, Statement.isWrite])
  · obtain rfl := says_sendOr_ok.mp hlooked
    rcases says_bind.mp hafterRow with ⟨error, -, hfound⟩ |
      ⟨none, seen, afterSeen, rfl, hfound, hafterSeen⟩
    · obtain ⟨rfl, -⟩ := says_found.mp hfound
      exact guarded_of_reads (by simp [Exchange.write?, Statement.isWrite])
    · obtain ⟨rfl, rfl⟩ := says_found_ok.mp hfound
      rcases says_bind.mp hafterSeen with ⟨error, -, hlock⟩ |
        ⟨lock, rows, rest, rfl, hlock, -⟩
      · obtain ⟨reply, rfl, -⟩ := says_sendOr.mp hlock
        exact guarded_of_reads (by simp [Exchange.write?, Statement.isWrite])
      · obtain rfl := says_sendOr_ok.mp hlock
        exact guarded_of_locked [⟨.send (.templateById id), .ok (some seen)⟩]
          (by simp [Exchange.write?, Statement.isWrite]) rfl
          fun more => ⟨seen, by simp [Replied], rfl⟩

/-- What is written once a version is known to be inactive. -/
theorem says_activate (target : TemplateVersion) {author : String}
    {notes : Option String} {previous : Option TemplateVersion} {swap : Swap}
    (h : (do
      deactivatePrevious target.name target.ref author notes previous
      let row ← sendOr (.ofDatabase "Template" target.name)
        (.setTemplateActive target.id true)
      let activated ← found (.templateNotFound (toString target.id)) row
      let _ ← send (.insertLogEntry
        (.activated target.name target.ref (previous.map TemplateVersion.ref)
          author notes))
      return Swap.activated target.name activated : Dialogue Swap).Says said
        (.ok swap)) :
    (∃ row, Replied said (.setTemplateActive target.id true) (some row)) ∧
      writesOf said = swapWrites target author notes previous := by
  obtain ⟨aside, _, afterAside, rfl, haside, hafterAside⟩ := says_bind_ok.mp h
  obtain ⟨set, row, afterSet, rfl, hset, hafterSet⟩ :=
    says_bind_ok.mp hafterAside
  obtain rfl := says_sendOr_ok.mp hset
  obtain ⟨none, activated, afterFound, rfl, hfound, hafterFound⟩ :=
    says_bind_ok.mp hafterSet
  obtain ⟨rfl, rfl⟩ := says_found_ok.mp hfound
  obtain ⟨log, _, last, rfl, hlog, hlast⟩ := says_bind_ok.mp hafterFound
  obtain rfl := says_sendOr_ok.mp hlog
  obtain ⟨rfl, -⟩ := says_pure.mp hlast
  refine ⟨⟨activated, by simp [Replied]⟩, ?_⟩
  rw [writesOf_append, writesOf_deactivatePrevious haside, swapWrites,
    List.append_assoc]
  rfl

/-- A swap that gets to its end has locked, checked and written what the call
demands. -/
theorem fulfilled_swapLocked {id : Int} {author : String}
    {notes : Option String} {swap : Swap}
    (h : (swapLocked id author notes).Says said (.ok swap)) :
    (StoreCall.swapActive id author notes).Fulfilled said := by
  obtain ⟨first, row, afterRow, rfl, hfirst, hafterRow⟩ := says_bind_ok.mp h
  obtain rfl := says_sendOr_ok.mp hfirst
  obtain ⟨none, seen, afterSeen, rfl, hfound, hafterSeen⟩ :=
    says_bind_ok.mp hafterRow
  obtain ⟨rfl, rfl⟩ := says_found_ok.mp hfound
  obtain ⟨lock, family, afterLock, rfl, hlock, hafterLock⟩ :=
    says_bind_ok.mp hafterSeen
  obtain rfl := says_sendOr_ok.mp hlock
  obtain ⟨none, target, rest, rfl, hread, hrest⟩ := says_bind_ok.mp hafterLock
  obtain ⟨rfl, htarget⟩ := says_found_ok.mp hread
  have hid : target.id = id := by simpa using List.find?_some htarget
  subst hid
  refine ⟨seen, family, target, by simp [Replied], by simp [Replied],
    htarget, ?_⟩
  split at hrest
  · rename_i hactive
    obtain ⟨rfl, -⟩ := says_pure.mp hrest
    exact Or.inl ⟨hactive, rfl⟩
  · rename_i hinactive
    -- the entries name the version by the name it was looked up under
    obtain ⟨⟨row, hrow⟩, hwrites⟩ :=
      says_activate { target with name := seen.name } hrest
    exact Or.inr ⟨by simpa using hinactive,
      ⟨row, by simpa [Replied] using hrow⟩, hwrites⟩

/-- The declarations of a version are read with one statement. -/
theorem says_withParameters {t : TemplateVersion}
    {result : Except EngineError TemplateVersion}
    (h : (withParameters t).Says said result) :
    ∃ reply, said = [⟨.send (.parametersOf t.id), reply⟩] ∧
      ∀ error, result = .error error →
      (∃ e, reply = .error e ∧ error = .database e) ∨
        ∃ rows e, reply = .ok rows ∧ definitions rows = .error e ∧
          error = .registry e := by
  rcases says_bind.mp h with ⟨error, rfl, hread⟩ |
    ⟨first, rows, second, rfl, hread, hrest⟩
  · obtain ⟨reply, rfl, hreply⟩ := says_sendOr.mp hread
    refine ⟨reply, rfl, fun other hother => Or.inl ?_⟩
    obtain rfl := Except.error.inj hother
    cases reply with
    | error e => exact ⟨e, rfl, Except.error.inj hreply⟩
    | ok rows => cases hreply
  · obtain rfl := says_sendOr_ok.mp hread
    rcases says_bind.mp hrest with ⟨error, rfl, hcheck⟩ |
      ⟨none, parameters, last, rfl, hcheck, hlast⟩
    · obtain ⟨rfl, hdefinitions⟩ := says_ofExcept.mp hcheck
      refine ⟨.ok rows, rfl, fun other hother => Or.inr ⟨rows, ?_⟩⟩
      obtain rfl := Except.error.inj hother
      cases heq : definitions rows with
      | error e =>
          rw [heq] at hdefinitions
          exact ⟨e, rfl, rfl, Except.error.inj hdefinitions⟩
      | ok parameters =>
          rw [heq] at hdefinitions
          cases hdefinitions
    · obtain ⟨rfl, -⟩ := says_ofExcept_ok.mp hcheck
      obtain ⟨rfl, rfl⟩ := says_pure.mp hlast
      exact ⟨.ok rows, rfl, fun error herror => by cases herror⟩

/-- Making a version active is all or nothing. -/
theorem swapActive_allOrNothing {id : Int} {author : String}
    {notes : Option String} {result : Except EngineError TemplateVersion}
    (h : (swapActive id author notes).Says said result) :
    AllOrNothing (.swapActive id author notes) said result := by
  rcases says_bind.mp h with ⟨error, rfl, hfailed⟩ |
    ⟨first, swap, second, rfl, hswap, hread⟩
  · refine allOrNothing_of_result
      (allOrNothing_of_body (plain_swapLocked id author notes)
        (fun _ _ => guarded_swapLocked) (fun _ _ => fulfilled_swapLocked)
          (fun swap e => ?_) hfailed)
        fun other hother => by rw [Except.error.inj hother]
    cases swap with
    | unchanged target => exact Or.inl rfl
    | activated name target => exact Or.inr ⟨name, rfl⟩
  · obtain ⟨inside, rfl, hbody⟩ := says_transaction_ok hswap
    obtain ⟨reply, rfl, herror⟩ := says_withParameters hread
    obtain ⟨hstatements, hsucceeded⟩ :=
      plain_swapLocked id author notes _ _ hbody
    have hparts : InParts (.swapActive id author notes) inside ⟨.commit, .ok ()⟩
        [⟨.send (.parametersOf swap.target.id), reply⟩] := by
      refine ⟨hstatements, guarded_swapLocked hbody, ?_, ?_, fun _ =>
        ⟨hsucceeded ⟨swap, rfl⟩, fulfilled_swapLocked hbody⟩⟩
      · simp [Exchange.write?, Statement.isWrite]
      · simp
    rw [List.cons_append, List.append_assoc]
    refine allOrNothing_of_parts hparts fun error hresult => Or.inr (Or.inr ?_)
    exact ⟨⟨.begin, .ok ()⟩ :: inside, swap.target.id, reply, rfl,
      herror error hresult⟩

/-! ### Deleting a template -/

/-- Deleting a family is all or nothing. -/
theorem deleteFamily_allOrNothing {name : String}
    {result : Except EngineError Nat}
    (h : (deleteFamily name).Says said result) :
    AllOrNothing (.deleteFamily name) said result := by
  refine allOrNothing_of_body ?_
    (fun _ _ => guarded_of_lock_bind rfl fun _ => rfl) ?_ (fun _ _ => rfl) h
  · refine plain_bind (plain_sendOr _ _) fun family => ?_
    split
    · exact plain_fail _
    · exact plain_bind (plain_sendOr _ _) fun _ => plain_sendOr _ _
  · intro inside value hbody
    obtain ⟨first, family, afterLock, rfl, hfirst, hafterLock⟩ :=
      says_bind_ok.mp hbody
    obtain rfl := says_sendOr_ok.mp hfirst
    split at hafterLock
    · cases (says_fail.mp hafterLock).2
    · rename_i hne
      obtain ⟨log, _, last, rfl, hlog, hlast⟩ := says_bind_ok.mp hafterLock
      obtain rfl := says_sendOr_ok.mp hlog
      obtain rfl := says_sendOr_ok.mp hlast
      exact ⟨family, by simp [Replied], by simpa using hne, rfl⟩

/-! ### Components -/

/-- The active version of a component is switched off by a statement. -/
theorem plain_deactivateActive (family : List Component) :
    Plain (deactivateActive family) := by
  unfold deactivateActive
  split
  · exact plain_pure ()
  · exact plain_bind (plain_sendOr _ _) fun _ => plain_pure ()

/-- Once it is switched off, the statement has been sent if there was such a
version. -/
theorem writesOf_deactivateActive {family : List Component}
    (h : (deactivateActive family).Says said (.ok ())) :
    writesOf said = retireWrites (family.find? Component.isActive) := by
  unfold deactivateActive at h
  cases hactive : family.find? Component.isActive with
  | none =>
      rw [hactive] at h
      obtain ⟨rfl, -⟩ := says_pure.mp h
      rfl
  | some previous =>
      rw [hactive] at h
      obtain ⟨first, _, last, rfl, hfirst, hlast⟩ := says_bind_ok.mp h
      obtain rfl := says_sendOr_ok.mp hfirst
      obtain ⟨rfl, -⟩ := says_pure.mp hlast
      rfl

/-- Storing a component is all or nothing. -/
theorem putComponent_allOrNothing {new : NewComponent}
    {result : Except EngineError Component}
    (h : (putComponent new).Says said result) :
    AllOrNothing (.putComponent new) said result := by
  rcases says_bind.mp h with ⟨error, rfl, hcheck⟩ |
    ⟨none, prepared, rest, rfl, hcheck, htransaction⟩
  · -- a component that cannot be prepared is not even asked for
    obtain ⟨rfl, -⟩ := says_ofExcept.mp hcheck
    exact allOrNothing_of_silence
  · obtain ⟨rfl, hprepared⟩ := says_ofExcept_ok.mp hcheck
    have hname := (NewComponent.prepared_eq_ok hprepared).1
    refine allOrNothing_of_body ?_
      (fun _ _ => guarded_of_lock_bind rfl fun _ => ?_) ?_ (fun _ e => ?_)
      htransaction
    · exact plain_bind (plain_sendOr _ _) fun family =>
        plain_bind (plain_sendOr _ _) fun active =>
        plain_bind (plain_ofExcept _) fun _ =>
          plain_bind (plain_deactivateActive family) fun _ =>
          plain_sendOr _ _
    · exact congrArg Statement.lockComponents hname
    · intro inside value hbody
      obtain ⟨lock, family, afterLock, rfl, hlock, hafterLock⟩ :=
        says_bind_ok.mp hbody
      obtain rfl := says_sendOr_ok.mp hlock
      obtain ⟨read, active, afterRead, rfl, hread, hafterRead⟩ :=
        says_bind_ok.mp hafterLock
      obtain rfl := says_sendOr_ok.mp hread
      obtain ⟨none, _, checked, rfl, hcycle, hchecked⟩ :=
        says_bind_ok.mp hafterRead
      obtain ⟨rfl, hacyclic⟩ := says_ofExcept_ok.mp hcycle
      obtain ⟨retired, _, last, rfl, hretired, hlast⟩ :=
        says_bind_ok.mp hchecked
      obtain rfl := says_sendOr_ok.mp hlast
      refine ⟨prepared, family, active, hprepared, ?_, by simp [Replied],
        hacyclic, ?_⟩
      · rw [← hname]
        simp [Replied]
      · rw [← writesOf_deactivateActive hretired]
        simp [Statement.isWrite]
    · rw [hname]
      rfl

/-- Switching a component off is all or nothing. -/
theorem deactivateComponent_allOrNothing {name : String}
    {result : Except EngineError Component}
    (h : (deactivateComponent name).Says said result) :
    AllOrNothing (.deactivateComponent name) said result := by
  refine allOrNothing_of_body ?_
    (fun _ _ => guarded_of_lock_bind rfl fun _ => rfl) ?_ (fun _ _ => rfl) h
  · refine plain_bind (plain_sendOr _ _) fun family =>
      plain_bind (plain_found _ _) fun active => ?_
    split
    · exact plain_fail _
    · exact plain_bind (plain_sendOr _ _) fun _ =>
        plain_bind (plain_sendOr _ _) fun _ =>
        plain_found _ _
  · intro inside value hbody
    obtain ⟨lock, family, afterLock, rfl, hlock, hafterLock⟩ :=
      says_bind_ok.mp hbody
    obtain rfl := says_sendOr_ok.mp hlock
    obtain ⟨none, active, afterFound, rfl, hfound, hafterFound⟩ :=
      says_bind_ok.mp hafterLock
    obtain ⟨rfl, hactive⟩ := says_found_ok.mp hfound
    split at hafterFound
    · cases (says_fail.mp hafterFound).2
    · rename_i hunused
      obtain ⟨write, _, afterWrite, rfl, hwrite, hafterWrite⟩ :=
        says_bind_ok.mp hafterFound
      obtain rfl := says_sendOr_ok.mp hwrite
      obtain ⟨read, row, last, rfl, hread, hlast⟩ := says_bind_ok.mp hafterWrite
      obtain rfl := says_sendOr_ok.mp hread
      obtain ⟨rfl, rfl⟩ := says_found_ok.mp hlast
      exact ⟨family, active, value, by simp [Replied], hactive,
        Int.not_lt.mp hunused, by simp [Replied], rfl⟩

/-- Every call in a transaction is all or nothing. -/
theorem allOrNothing_of_says {call : StoreCall} (hcall : call.InTransaction)
    {said : List Exchange} {result : Except EngineError call.Result}
    (h : (store call).Says said result) : AllOrNothing call said result := by
  cases call with
  | insertVersion new entry => exact insertVersion_allOrNothing h
  | swapActive id author notes => exact swapActive_allOrNothing h
  | deleteFamily name => exact deleteFamily_allOrNothing h
  | putComponent new => exact putComponent_allOrNothing h
  | deactivateComponent name => exact deactivateComponent_allOrNothing h
  | _ => exact hcall.elim

/-- **Writes are all or nothing.**  Whatever the database replies to each
request, rows, counts or errors: all that a call writes is written in one
transaction and after the rows of its name were locked there; the transaction is
committed once at most, when every statement before has succeeded, every check
has passed and every write has been sent, and nothing is written after that; and
if the call ends with an error, nothing was committed, or the error is what
became of the commit, or of reading the declarations of the version that was
made active. -/
theorem store_all_or_nothing {call : StoreCall} (hcall : call.InTransaction)
    (answer : List Exchange → (request : DatabaseCall) → request.Result) :
    AllOrNothing call ((store call).run.converse answer []).2
      ((store call).run.converse answer []).1 := by
  obtain ⟨said, hsaid, htranscript⟩ :=
    Program.transcript_converse answer (store call).run []
  rw [hsaid]
  exact allOrNothing_of_says hcall htranscript

/-- A database that has a greeting, and fails when it is to be deleted. -/
def failingDeletion (_past : List Exchange) :
    (request : DatabaseCall) → request.Result
  | .send (.lockTemplates _) => .ok [(Memory.greeting 1 true).withId 1 ⟨0, 0⟩]
  | .send (.deleteLog _) => .ok 1
  | .send _ => .error .poolTimedOut
  | .begin => .ok ()
  | .commit => .ok ()
  | .rollback => ()
  | .connect _ _ => .ok ()
  | .appliedMigrations => .ok []
  | .applyMigration _ => .ok ()

/-- The deletion is given up after the log was deleted, and fails. -/
theorem deletion_given_up_when_failing :
    let ended :=
      (store (.deleteFamily "greeting")).run.converse failingDeletion []
    (StoreCall.deleteFamily "greeting").InTransaction ∧
    ended.1 = .error (.database .poolTimedOut) ∧
    ended.2.map Exchange.call =
      [.begin, .send (.lockTemplates "greeting"), .send (.deleteLog "greeting"),
        .send (.deleteTemplates "greeting"), .rollback] ∧
    AllOrNothing (.deleteFamily "greeting") ended.2 ended.1 := by
  have hcall : (StoreCall.deleteFamily "greeting").InTransaction := trivial
  exact ⟨hcall, rfl, rfl, store_all_or_nothing hcall failingDeletion⟩

end TemplateRegistry.Database
