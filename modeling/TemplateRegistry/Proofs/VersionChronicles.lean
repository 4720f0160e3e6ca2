import TemplateRegistry.Proofs.LogAccounts
import TemplateRegistry.Proofs.ManagedStates
import TemplateRegistry.Proofs.StoredHistory
/-!
# Logs that account for versions

Replayed from its first entry on, the log of a template accounts for the
versions that are stored and for the active one.  This is so of every name in
every state of a store that managers use one after another, as each of their
calls logs just what it does.

* `Memory.logOf`, `Memory.account` — the log of a name, and what there is to
  account for;
* `Chronicle` — the log of a name accounts for its versions;
* `Chronicle.started`, `Chronicle.added`, `Chronicle.swapped` — what the calls
  log;
* `chronicle_change` — no call breaks an account.
-/

namespace TemplateRegistry

/-- The first versions are those from 1 on. -/
theorem mem_firstVersions {n : Nat} {v : Int} :
    v ∈ firstVersions n ↔ 1 ≤ v ∧ v ≤ n := by
  constructor
  · intro h
    obtain ⟨i, hi, rfl⟩ := List.mem_map.mp h
    have hlt := List.mem_range.mp hi
    omega
  · rintro ⟨hfirst, hlast⟩
    exact List.mem_map.mpr ⟨(v - 1).toNat,
      List.mem_range.mpr (by omega), by omega⟩

namespace Memory

variable {s after : Memory} {now : Timestamp} {name : String}

/-- The log of a name, oldest entry first. -/
def logOf (name : String) (s : Memory) : List LogEntry :=
  s.log.filter fun e => e.templateName = name

/-- What there is to account for: the versions of a name, and which of them is
active. -/
def account (name : String) (s : Memory) : Account where
  versions := (s.family name).length
  active := (s.active? name).map TemplateVersion.version

/-- The log of a name accounts for its versions. -/
structure Chronicle (s : Memory) (name : String) : Prop where
  replayed : Account.replay (s.logOf name) = some (s.account name)
  begun : s.family name = [] → s.logOf name = []
  paired : Paired ((s.family name).map TemplateVersion.ref) (s.logOf name)

/-! ### The versions of a name -/

/-- The versions of a name are the first ones, as many as there are. -/
theorem Consistent.versions_family (h : s.Consistent) (name : String) :
    (s.family name).map TemplateVersion.version =
      firstVersions (s.family name).length := by
  obtain ⟨n, hn⟩ := h.templates.numbered name
  rw [versionsOf_templateRows] at hn
  have hlength := congrArg List.length hn
  rw [List.length_map, length_firstVersions] at hlength
  rw [hn, hlength]

/-- The highest version of a family is as many as it has. -/
theorem Consistent.maxVersion_family (h : s.Consistent) (name : String) :
    s.maxVersion name = (s.family name).length := by
  rw [maxVersion, h.versions_family name, highestVersion_firstVersions]

/-- Versions are numbered from one up to their number. -/
theorem Consistent.version_bounds (h : s.Consistent) {t : TemplateVersion}
    (ht : t ∈ s.family name) :
    1 ≤ t.version ∧ t.version ≤ (s.family name).length := by
  apply mem_firstVersions.mp
  rw [← h.versions_family name]
  exact List.mem_map_of_mem ht

/-- A version that is active is the active one. -/
theorem Consistent.active?_eq_some (h : s.Consistent) {t : TemplateVersion}
    (ht : t ∈ s.templates) (hactive : t.isActive = true) :
    s.active? t.name = some t := by
  cases hfound : s.active? t.name with
  | none =>
      have hinactive := active?_eq_none.mp hfound t ht rfl
      rw [hactive] at hinactive
      cases hinactive
  | some u =>
      obtain ⟨hu, hname, huActive⟩ := active?_mem hfound
      rw [h.active_eq hu ht hname huActive hactive]

/-- The active version besides one that is not active is the active version. -/
theorem Consistent.otherActive?_eq (h : s.Consistent) {target : TemplateVersion}
    (htarget : target ∈ s.templates) (hinactive : target.isActive = false) :
    s.otherActive? target = s.active? target.name := by
  cases hfound : s.otherActive? target with
  | some old =>
      obtain ⟨hold, hname, hactive, -⟩ := otherActive?_mem hfound
      rw [← hname]
      exact (h.active?_eq_some hold hactive).symm
  | none =>
      symm
      rw [active?_eq_none]
      intro t ht hname
      by_contra hactive
      have hid :=
        otherActive?_eq_none hfound t ht hname (by simpa using hactive)
      rw [h.template_eq ht htarget hid, hinactive] at hactive
      exact hactive rfl

/-! ### What a call leaves of other names -/

/-- A name whose versions and entries are as they were. -/
theorem Chronicle.of_same (h : s.Chronicle name)
    (hfamily : after.family name = s.family name)
    (hlog : after.logOf name = s.logOf name) : after.Chronicle name := by
  obtain ⟨hreplayed, hbegun, hpaired⟩ := h
  refine ⟨?_, ?_, ?_⟩
  · rw [hlog, hreplayed, account, account, active?, active?, hfamily]
  · rw [hlog, hfamily]
    exact hbegun
  · rw [hlog, hfamily]
    exact hpaired

/-- A new entry is the last one of the log of its name. -/
theorem logOf_appendLog (now : Timestamp) (entry : NewLogEntry) (s : Memory) :
    (s.appendLog now entry).logOf name =
      s.logOf name ++
        if entry.templateName = name then [entry.withId (s.lastId + 1) now]
        else [] := by
  have hname :
    (entry.withId (s.lastId + 1) now).templateName = entry.templateName := rfl
  simp only [logOf, appendLog, List.filter_append, List.filter_singleton, hname]
  by_cases h : entry.templateName = name <;> simp [h]

/-- A new version is the last one of its family. -/
theorem family_addVersion (t : TemplateVersion) (s : Memory) :
    (s.addVersion t).family name = s.family name ++ if t.name = name then [t]
      else [] := by
  simp only [family, addVersion, List.filter_append, List.filter_singleton]
  by_cases h : t.name = name <;> simp [h]

/-- Deleting a family empties its log and no other. -/
theorem logOf_withoutFamily (gone name : String) (s : Memory) :
    (s.withoutFamily gone).logOf name =
      if name = gone then [] else s.logOf name := by
  simp only [logOf, withoutFamily, List.filter_filter]
  split
  · rename_i h
    simp [h]
  · rename_i h
    apply List.filter_congr
    intro e _
    by_cases hname : e.templateName = name <;> simp [hname, h]

/-- Deleting a family empties it and no other. -/
theorem family_withoutFamily (h : s.Consistent) (gone name : String) :
    (s.withoutFamily gone).family name =
      if name = gone then [] else s.family name := by
  unfold family
  rw [templates_withoutFamily h, List.filter_filter]
  split
  · rename_i heq
    simp [heq]
  · rename_i hne
    apply List.filter_congr
    intro t _
    by_cases hname : t.name = name <;> simp [hname, hne]

/-- A swap changes rows of a family and moves none. -/
theorem family_swapped (now : Timestamp) (target : TemplateVersion)
    (author : String) (notes : Option String) (s : Memory) :
    (s.swapped now target author notes).family name =
      (s.family name).map (swappedRow now target (s.otherActive? target)) := by
  have hname : (fun t : TemplateVersion => decide (t.name = name)) ∘
      swappedRow now target (s.otherActive? target) = fun t =>
        decide (t.name = name) := by
    funext t
    simp
  rw [family, templates_swapped, List.filter_map, hname]
  rfl

/-! ### What a call does to the log of the name it writes -/

/-- A template and its first entry. -/
theorem Chronicle.started (h : s.Chronicle name) (hnone : s.family name = [])
    {t : TemplateVersion} {e : LogEntry} (hversion : t.version = 1)
    (hactive : t.isActive = true) (haction : e.action? = some .created)
    (hentry : e.version = 1)
    (hfamily : after.family name = s.family name ++ [t])
    (hlog : after.logOf name = s.logOf name ++ [e]) : after.Chronicle name := by
  rw [hnone, List.nil_append] at hfamily
  rw [h.begun hnone, List.nil_append] at hlog
  refine ⟨?_, ?_, ?_⟩
  · have hstart : Account.replay [] = some .start := rfl
    have hfirst : Account.replay [e] = some ⟨1, some 1⟩ :=
      (Account.replay_append_singleton hstart e).trans
        (Account.enter_first haction hentry)
    rw [hlog, hfirst, account, active?, hfamily]
    simp [hactive, hversion]
  · rw [hfamily]
    simp
  · rw [hlog]
    exact .single (by simp [haction]) .nil

/-- One version more, and its entry. -/
theorem Chronicle.added (h : s.Chronicle name) (hsome : s.family name ≠ [])
    {t : TemplateVersion} {e : LogEntry} (hinactive : t.isActive = false)
    (haction : e.action? = some .created ∨ e.action? = some .rollback)
    (hentry : e.version = (s.family name).length + 1)
    (hfamily : after.family name = s.family name ++ [t])
    (hlog : after.logOf name = s.logOf name ++ [e]) : after.Chronicle name := by
  refine ⟨?_, ?_, ?_⟩
  · have hothers : (s.account name).versions ≠ 0 := fun hzero =>
      hsome (List.length_eq_zero_iff.mp hzero)
    have hactive : after.active? name = s.active? name := by
      simp [active?, hfamily, List.find?_append, hinactive]
    rw [hlog, Account.replay_append_singleton h.replayed,
      Account.enter_added haction hentry hothers, account, account, hactive,
      hfamily, List.length_append, List.length_singleton]
  · intro hnil
    rw [hfamily] at hnil
    simp at hnil
  · rw [hlog]
    apply (h.paired.mono ?_).append
    · exact .single (by rcases haction with haction | haction <;>
        simp [haction]) .nil
    · rw [hfamily, List.map_append]
      exact List.subset_append_left _ _

/-- The entries of a swap. -/
theorem logOf_swapped (now : Timestamp) (target : TemplateVersion)
    (author : String) (notes : Option String) (name : String) (s : Memory) :
    (s.swapped now target author notes).logOf name = s.logOf name ++
      if target.name = name then
        match s.otherActive? target with
        | none =>
          [(NewLogEntry.activated target.name target.ref none
            author notes).withId (s.lastId + 1) now]
        | some old =>
          [(NewLogEntry.deactivated target.name old.ref target.ref
            author notes).withId (s.lastId + 1) now,
          (NewLogEntry.activated target.name target.ref (some old.ref)
            author notes).withId (s.lastId + 1 + 1) now]
      else [] := by
  unfold swapped stepAside
  dsimp only
  cases s.otherActive? target with
  | none =>
      rw [logOf_appendLog]
      rfl
  | some old =>
      rw [logOf_appendLog]
      show ((s.setActive now old.id false).appendLog now _).logOf name ++ _ = _
      rw [logOf_appendLog, List.append_assoc]
      by_cases htarget : target.name = name
      · simp [NewLogEntry.deactivated, NewLogEntry.activated, htarget]
        rfl
      · simp [NewLogEntry.deactivated, NewLogEntry.activated, htarget]
        rfl

/-- Once a version has taken over it is the active one. -/
theorem account_swapped (h : s.Consistent) {target : TemplateVersion}
    (htarget : s.template? target.id = some target) (now : Timestamp)
    (author : String) (notes : Option String) :
    (s.swapped now target author notes).account target.name =
      ⟨(s.family target.name).length, some target.version⟩ := by
  have hmem : swappedRow now target (s.otherActive? target) target ∈
      (s.swapped now target author notes).templates := by
    rw [templates_swapped]
    exact List.mem_map_of_mem (template?_mem htarget).1
  have hactive := (h.swapped now htarget author notes).active?_eq_some hmem
    (by simp [swappedRow])
  rw [swappedRow_name] at hactive
  rw [account, hactive, family_swapped, List.length_map, Option.map_some,
    swappedRow_version]

/-- The log goes on to tell the history of a family once its active version has
changed. -/
theorem Chronicle.swapped (h : s.Consistent) {target : TemplateVersion}
    (hchronicle : s.Chronicle target.name)
    (htarget : s.template? target.id = some target)
    (hinactive : target.isActive = false) (now : Timestamp) (author : String)
    (notes : Option String) :
    (s.swapped now target author notes).Chronicle target.name := by
  have hmem := (template?_mem htarget).1
  have hfamily : target ∈ s.family target.name := mem_family.mpr ⟨hmem, rfl⟩
  obtain ⟨hfirst, hlast⟩ := h.version_bounds hfamily
  have hlog := logOf_swapped now target author notes target.name s
  rw [if_pos rfl] at hlog
  refine ⟨?_, ?_, ?_⟩
  · rw [hlog, account_swapped h htarget]
    cases hother : s.otherActive? target with
    | none =>
        have hnone : (s.account target.name).active = none := by
          rw [account, ← h.otherActive?_eq hmem hinactive, hother]
          rfl
        exact (Account.replay_append_singleton hchronicle.replayed _).trans
          (Account.enter_activated (NewLogEntry.action?_withId ..) hfirst
            hlast hnone)
    | some old =>
        have hold : (s.account target.name).active = some old.version := by
          rw [account, ← h.otherActive?_eq hmem hinactive, hother]
          rfl
        have haside := (Account.replay_append_singleton hchronicle.replayed
          ((NewLogEntry.deactivated target.name old.ref target.ref
            author notes).withId (s.lastId + 1) now)).trans
          (Account.enter_deactivated (NewLogEntry.action?_withId ..) hold)
        have htaken := (Account.replay_append_singleton haside
          ((NewLogEntry.activated target.name target.ref (some old.ref)
            author notes).withId (s.lastId + 1 + 1) now)).trans
          (Account.enter_activated (NewLogEntry.action?_withId ..) hfirst
            hlast rfl)
        rw [List.append_assoc] at htaken
        exact htaken
  · intro hnil
    rw [family_swapped, List.map_eq_nil_iff] at hnil
    rw [hnil] at hfamily
    cases hfamily
  · have hrefs :
        ((s.swapped now target author notes).family target.name).map
          TemplateVersion.ref =
        (s.family target.name).map TemplateVersion.ref := by
      rw [family_swapped, List.map_map]
      apply List.map_congr_left
      intro t _
      simp [TemplateVersion.ref]
    rw [hrefs, hlog]
    apply hchronicle.paired.append
    cases hother : s.otherActive? target with
    | none => exact .single (by simp [NewLogEntry.activated]) .nil
    | some old =>
        obtain ⟨hold, hname, -⟩ := otherActive?_mem hother
        have hknown : old ∈ s.family target.name := mem_family.mpr ⟨hold, hname⟩
        exact .handover (List.mem_map_of_mem hknown)
          (List.mem_map_of_mem hfamily) ⟨NewLogEntry.action?_withId ..,
            NewLogEntry.action?_withId .., rfl, rfl, rfl, rfl⟩ .nil

/-- A version and its entry leave other names as they are. -/
theorem chronicle_inserted {new : NewVersion} {entry : NewLogEntry} {id : Int}
    (hchronicle : ∀ name, s.Chronicle name)
    (hname : entry.templateName = new.name)
    (hwritten : ∀ e : LogEntry, e.action? = some entry.action →
      e.version = entry.version →
      ∀ after : Memory, after.family new.name =
        s.family new.name ++ [new.withId id now] →
        after.logOf new.name = s.logOf new.name ++ [e] →
        after.Chronicle new.name) (name : String) :
    ((s.addVersion (new.withId id now)).appendLog now entry).Chronicle
      name := by
  have hfamily :
      ((s.addVersion (new.withId id now)).appendLog now entry).family name =
      s.family name ++ if new.name = name then [new.withId id now] else [] :=
    family_addVersion (new.withId id now) s
  have hlog :
      ((s.addVersion (new.withId id now)).appendLog now entry).logOf name =
      s.logOf name ++
        if new.name = name then [entry.withId (id + 1) now] else [] := by
    rw [logOf_appendLog, hname]
    rfl
  by_cases heq : new.name = name
  · subst heq
    rw [if_pos rfl] at hfamily hlog
    exact hwritten _ (NewLogEntry.action?_withId ..) rfl _ hfamily hlog
  · rw [if_neg heq, List.append_nil] at hfamily hlog
    exact (hchronicle name).of_same hfamily hlog

/-- **One call.**  The logs account for the versions of every name. -/
theorem chronicle_change (h : s.Consistent)
    (hchronicle : ∀ name, s.Chronicle name) (hchange : s.Change after)
    (name : String) : after.Chronicle name := by
  cases hchange with
  | nothing => exact hchronicle name
  | @started now new entry hfirst hfree hversion hactive hprevious hname hentry
      haction =>
      refine chronicle_inserted hchronicle hname
        (fun e he hnumber after hfamily hlog => ?_) name
      have hnone : s.family new.name = [] := by
        rw [h.maxVersion_family] at hfirst
        exact List.length_eq_zero_iff.mp (by omega)
      exact (hchronicle new.name).started hnone hversion hactive
        (he.trans (congrArg some haction))
        (hnumber.trans (hentry.trans hversion)) hfamily hlog
  | @added now new entry u hversion hinactive hu hprevious hname hentry
      haction =>
      refine chronicle_inserted hchronicle hname
        (fun e he hnumber after hfamily hlog => ?_) name
      refine (hchronicle new.name).added
        (List.ne_nil_of_mem hu) hinactive ?_ ?_ hfamily hlog
      · rw [he]
        exact haction.imp (congrArg some) (congrArg some)
      · rw [← h.maxVersion_family new.name, ← hversion]
        exact hnumber.trans hentry
  | @swapped now target htarget hinactive author notes =>
      by_cases heq : target.name = name
      · subst heq
        exact (hchronicle target.name).swapped h htarget hinactive now
          author notes
      · refine (hchronicle name).of_same ?_ ?_
        · apply family_effect h (.swapped htarget author notes)
          rintro ⟨t, ht, hid, rfl⟩
          exact heq (by rw [h.template_eq ht (template?_mem htarget).1 hid])
        · rw [logOf_swapped, if_neg heq, List.append_nil]
  | deleted gone =>
      have hfamily := family_withoutFamily h gone name
      have hlog := logOf_withoutFamily gone name s
      by_cases heq : name = gone
      · rw [if_pos heq] at hfamily hlog
        refine ⟨?_, fun _ => hlog, ?_⟩
        · rw [hlog, account, active?, hfamily]
          rfl
        · rw [hlog]
          exact .nil
      · rw [if_neg heq] at hfamily hlog
        exact (hchronicle name).of_same hfamily hlog

end Memory

end TemplateRegistry
