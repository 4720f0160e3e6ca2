import TemplateRegistry.Proofs.Tables
import TemplateRegistry.Proofs.WholeNumbers
import TemplateRegistry.Record.Template
/-!
# What a version log tells

Read from its first entry on, the log of a template tells how many versions
there are and which of them is active.  An entry that does not fit what was told
before it ends the account.

* `Account`, `Account.enter`, `Account.replay` — what the entries of a log tell,
  one by one;
* `Handover`, `Paired` — logs in which a version stops being active only as
  another takes over at once;
* `LogEntry.number?` — the numbers that go with an entry.
-/

namespace TemplateRegistry

/-- What the log of a template has told: how many versions there are, and the
number of the active one. -/
structure Account where
  versions : Nat
  active : Option Int
  deriving DecidableEq

namespace Account

/-- Before the first entry. -/
def start : Account :=
  ⟨0, none⟩

/-- The account after one more entry, if the entry may follow.  The first
version is created active; a later one is the next in number, created or copied,
and is not active.  The active version may be deactivated, and any version may
be activated while none is active. -/
def enter (a : Account) (e : LogEntry) : Option Account :=
  match e.action? with
  | some .created =>
    if e.version = a.versions + 1 then
      some ⟨a.versions + 1, if a.versions = 0 then some e.version else a.active⟩
    else none
  | some .rollback =>
    if e.version = a.versions + 1 then some ⟨a.versions + 1, a.active⟩ else none
  | some .deactivated =>
    if a.active = some e.version then some ⟨a.versions, none⟩ else none
  | some .activated =>
    if 1 ≤ e.version ∧ e.version ≤ a.versions ∧ a.active = none then
      some ⟨a.versions, some e.version⟩
    else none
  | some .deleted => none
  | none => none

/-- What a log tells, if each of its entries may follow those before it. -/
def replay (entries : List LogEntry) : Option Account :=
  entries.foldlM enter start

/-- The last entry is entered into the account of the others. -/
theorem replay_append_singleton {entries : List LogEntry} {a : Account}
    (h : replay entries = some a) (e : LogEntry) :
    replay (entries ++ [e]) = a.enter e := by
  have hfold :
      replay (entries ++ [e]) = (replay entries).bind fun a =>
        [e].foldlM enter a :=
    List.foldlM_append
  rw [hfold, h]
  show (a.enter e).bind some = a.enter e
  exact Option.bind_fun_some _

/-- The first entry of a log. -/
theorem enter_first {e : LogEntry} (haction : e.action? = some .created)
    (hversion : e.version = 1) :
    start.enter e = some ⟨1, some 1⟩ := by
  simp [enter, start, haction, hversion]

/-- A version that is added to others. -/
theorem enter_added {a : Account} {e : LogEntry}
    (haction : e.action? = some .created ∨ e.action? = some .rollback)
    (hversion : e.version = a.versions + 1) (hothers : a.versions ≠ 0) :
    a.enter e = some ⟨a.versions + 1, a.active⟩ := by
  rcases haction with haction | haction <;>
    simp [enter, haction, hversion, hothers]

/-- The active version can be switched off. -/
theorem enter_deactivated {a : Account} {e : LogEntry}
    (haction : e.action? = some .deactivated)
    (hactive : a.active = some e.version) :
    a.enter e = some ⟨a.versions, none⟩ := by
  simp [enter, haction, hactive]

/-- A version that there is can be switched on while none is active. -/
theorem enter_activated {a : Account} {e : LogEntry}
    (haction : e.action? = some .activated) (hfirst : 1 ≤ e.version)
    (hlast : e.version ≤ a.versions) (hnone : a.active = none) :
    a.enter e = some ⟨a.versions, some e.version⟩ := by
  simp [enter, haction, hfirst, hlast, hnone]

end Account

/-- An entry keeps its action when it is stored. -/
@[simp] theorem NewLogEntry.action?_withId (id : Int) (now : Timestamp)
    (entry : NewLogEntry) :
    (entry.withId id now).action? = some entry.action :=
  VersionAction.find?_name entry.action

/-! ### Versions that take over -/

/-- Two entries by which one version takes over from another, each with the
other one in its metadata. -/
structure Handover (old new : VersionRef) (d a : LogEntry) : Prop where
  deactivated : d.action? = some .deactivated
  activated : a.action? = some .activated
  left : d.version = old.version
  taken : a.version = new.version
  replacedBy : d.metadata = deactivatedMetadata new
  replaces : a.metadata = activatedMetadata (some old)

/-- Logs in which every deactivation is followed by the activation that goes
with it, both of versions out of a list. -/
inductive Paired (known : List VersionRef) : List LogEntry → Prop
  | nil : Paired known []
  | single {e : LogEntry} {rest : List LogEntry}
      (he : e.action? ≠ some .deactivated)
      (hrest : Paired known rest) : Paired known (e :: rest)
  | handover {d a : LogEntry} {rest : List LogEntry} {old new : VersionRef}
      (hold : old ∈ known) (hnew : new ∈ known) (h : Handover old new d a)
      (hrest : Paired known rest) :
      Paired known (d :: a :: rest)

namespace Paired

variable {known more : List VersionRef} {entries others : List LogEntry}

theorem mono (h : Paired known entries) (hsub : known ⊆ more) :
    Paired more entries := by
  induction h with
  | nil => exact .nil
  | single he _ ih => exact .single he ih
  | handover hold hnew h _ ih => exact .handover (hsub hold) (hsub hnew) h ih

theorem append (h : Paired known entries) (h' : Paired known others) :
    Paired known (entries ++ others) := by
  induction h with
  | nil => exact h'
  | single he _ ih => exact .single he ih
  | handover hold hnew h _ ih => exact .handover hold hnew h ih

/-- What follows a deactivation, wherever it stands. -/
theorem next (h : Paired known entries) {before after : List LogEntry}
    {d : LogEntry} (hentries : entries = before ++ d :: after)
    (hd : d.action? = some .deactivated) :
    ∃ a rest, after = a :: rest ∧
      ∃ old ∈ known, ∃ new ∈ known, Handover old new d a := by
  induction h generalizing before with
  | nil => simp at hentries
  | @single e rest he _ ih =>
      cases before with
      | nil =>
          obtain ⟨rfl, -⟩ := List.cons.inj hentries
          exact (he hd).elim
      | cons first before => exact ih (List.cons.inj hentries).2
  | @handover d' a rest old new hold hnew h _ ih =>
      match before with
      | [] =>
          obtain ⟨rfl, rfl⟩ := List.cons.inj hentries
          exact ⟨a, rest, rfl, old, hold, new, hnew, h⟩
      | [first] =>
          -- the second of the two is an activation
          obtain ⟨rfl, -⟩ := List.cons.inj (List.cons.inj hentries).2
          have hactivated := h.activated
          rw [hd] at hactivated
          cases hactivated
      | first :: second :: before =>
          exact ih (List.cons.inj (List.cons.inj hentries).2).2

end Paired

/-! ### Numbers in metadata -/

/-- The whole number that goes with an entry under a key. -/
def LogEntry.number? (key : String) (e : LogEntry) : Option Int :=
  match Table.get? key e.metadata with
  | some (.number x) => x.toInt?
  | _ => none

/-- The metadata of the two entries name the versions, by id and number. -/
theorem Handover.numbers {old new : VersionRef} {d a : LogEntry}
    (h : Handover old new d a)
    (hold : old.id.natAbs < 9007199254740992 ∧
      old.version.natAbs < 9007199254740992)
    (hnew : new.id.natAbs < 9007199254740992 ∧
      new.version.natAbs < 9007199254740992) :
    d.number? "replaced_by_id" = some new.id ∧
    d.number? "replaced_by_version" = some new.version ∧
    a.number? "replaces_id" = some old.id ∧
    a.number? "replaces_version" = some old.version := by
  have hread :
      ∀ {key : String} {e : LogEntry} {i : Int}, i.natAbs < 9007199254740992 →
      Table.get? key e.metadata = some (Value.ofInt i) →
      e.number? key = some i := by
    intro key e i hi hget
    rw [LogEntry.number?, hget]
    exact Double.toInt?_ofInt hi
  refine ⟨hread hnew.1 ?_, hread hnew.2 ?_, hread hold.1 ?_, hread hold.2 ?_⟩
  · rw [h.replacedBy, deactivatedMetadata, Table.get?_ofList]
    simp
  · rw [h.replacedBy, deactivatedMetadata, Table.get?_ofList]
    simp
  · rw [h.replaces, activatedMetadata, Table.get?_ofList]
    simp
  · rw [h.replaces, activatedMetadata, Table.get?_ofList]
    simp

end TemplateRegistry
