import TemplateRegistry.Proofs.ManagerRuns
import TemplateRegistry.Proofs.MemoryFrames
/-!
# When every template has an active version

Creating a template makes its first version active, and activation only ever
moves activity to another version, so a template should have exactly one active
version for as long as it has any.  With several clients there is one way
around this: a rollback looks up its template, another client deletes the
template, and the rollback then finds no version and inserts version 1, which
is not active.

* `covered_effect` — every other call keeps templates covered;
* `one_active_iff_no_first_rollback` — templates have exactly one active version
  at every instant if and only if no rollback ends with a version 1.
-/

namespace TemplateRegistry

namespace Memory

variable {s after : Memory} {now : Timestamp} {call : StoreCall}

/-- Every name with versions has an active one. -/
def Covered (s : Memory) : Prop :=
  ∀ name, s.family name ≠ [] → (s.active? name).isSome

/-- A name with an active version has one that is found. -/
theorem active?_isSome_of_mem {t : TemplateVersion} (ht : t ∈ s.templates)
    (hactive : t.isActive = true) : (s.active? t.name).isSome := by
  cases hnone : s.active? t.name with
  | some _ => rfl
  | none =>
      have hinactive := active?_eq_none.mp hnone t ht rfl
      rw [hinactive] at hactive
      contradiction

/-- A name has versions if its highest one is not 0. -/
theorem family_eq_nil_iff (h : s.Consistent) (name : String) :
    s.family name = [] ↔ s.maxVersion name = 0 := by
  rw [maxVersion_eq, h.templates.highest_eq_zero_iff, versionsOf_templateRows,
    List.map_eq_nil_iff]

/-- **One call.**  Names stay covered, unless a first version is inserted that
is not active. -/
theorem covered_effect (h : s.Consistent) (hcovered : s.Covered)
    (heffect : Effect now s call after)
    (hfirst : ∀ new entry, call = .insertVersion new entry →
      new.isActive = true ∨
      new.version ≠ 1) : after.Covered := by
  intro name hfamily
  by_cases hwrites : call.WritesTemplate s name
  · cases heffect with
    | nothing => exact hcovered name hfamily
    | inserted new entry hnext hfree =>
        obtain rfl : new.name = name := hwrites
        by_cases hactive : new.isActive = true
        · exact active?_isSome_of_mem (t := new.withId (s.lastId + 1) now)
            (List.mem_append_right _ (List.mem_singleton.mpr rfl)) hactive
        · -- the version follows others, one of which is active
          have hne : s.family new.name ≠ [] := by
            intro hnil
            rw [(family_eq_nil_iff h new.name).mp hnil] at hnext
            exact (hfirst new entry rfl).elim hactive fun hne => hne hnext
          obtain ⟨t, ht⟩ := Option.isSome_iff_exists.mp (hcovered new.name hne)
          obtain ⟨hmem, hname, htActive⟩ := active?_mem ht
          rw [← hname]
          exact active?_isSome_of_mem (List.mem_append_left _ hmem) htActive
    | @swapped target htarget author notes =>
        have hmem := (template?_mem htarget).1
        obtain ⟨t, ht, hid, rfl⟩ := hwrites
        obtain rfl := h.template_eq ht hmem hid
        have hrow : swappedRow now t (s.otherActive? t) t ∈
            (s.swapped now t author notes).templates := by
          rw [templates_swapped]
          exact List.mem_map_of_mem hmem
        have hsome := active?_isSome_of_mem hrow (by simp [swappedRow])
        rwa [swappedRow_name] at hsome
    | familyDeleted gone =>
        obtain rfl : gone = name := hwrites
        refine (hfamily ?_).elim
        unfold family
        rw [templates_withoutFamily h, List.filter_filter]
        simp
    | _ => exact hwrites.elim
  · have hsame := family_effect h heffect hwrites
    unfold active?
    rw [hsame] at hfamily ⊢
    exact hcovered name hfamily

/-- With versions covered there is exactly one active version of each. -/
theorem length_active_eq_one_iff (h : s.Consistent) (name : String) :
    ((s.family name).filter TemplateVersion.isActive).length = 1 ↔
      (s.active? name).isSome := by
  have hle := length_active_family_le_one h name
  have hnil : (s.family name).filter TemplateVersion.isActive = [] ↔
      s.active? name = none := by
    simp [active?, List.find?_eq_none]
  rw [Option.isSome_iff_ne_none, ne_eq, ← hnil, ← List.length_eq_zero_iff]
  omega

/-- A first version of a name that is not active is its only one, and leaves
the name uncovered. -/
theorem not_covered_of_first {t : TemplateVersion}
    (hfamily : s.family t.name = [t]) (hactive : t.isActive = false) :
    ¬ s.Covered := by
  intro hcovered
  have hsome := hcovered t.name (by simp [hfamily])
  simp [active?, hfamily, hactive] at hsome

/-- A version that was inserted is the last one of its name. -/
theorem insertVersion_eq_ok {new : NewVersion} {entry : NewLogEntry}
    {t : TemplateVersion} (h : insertVersion now new entry s = (.ok t, after)) :
    t.version = new.version ∧ t.isActive = new.isActive ∧
      t.version = s.maxVersion t.name + 1 ∧
      after.family t.name = s.family t.name ++ [t] := by
  rcases insertVersion_cases now new entry s with ⟨error, heq⟩ | ⟨hnext, -, heq⟩
  · rw [heq] at h
    exact absurd (Prod.mk.inj h).1 (by simp)
  · rw [heq] at h
    obtain ⟨hok, rfl⟩ := Prod.mk.inj h
    obtain rfl := Except.ok.inj hok
    refine ⟨rfl, rfl, hnext, ?_⟩
    simp [family, addVersion, appendLog, NewVersion.withId]

end Memory

namespace Lifecycle

open Sharing (System Step IsRun)

variable {config : Config}

/-- A rollback of a client has ended with a version 1. -/
def FirstByRollback (s : System (managers config)) : Prop :=
  ∃ (i : Nat) (id version : Int) (author : String) (t : TemplateVersion),
    s.clients[i]? = some ⟨.rollback id version author, .done (.ok t)⟩ ∧
    t.version = 1

/-- What a rollback asks for last. -/
theorem careful_rollback_done {id version : Int} {author : String}
    {request : StoreCall}
    {next : Outcome request.Result →
      Program StoreCalls (Except EngineError TemplateVersion)}
    (hcareful : (ManagerCall.rollback id version author).Careful request next)
    {outcome : Outcome request.Result} {t : TemplateVersion}
    (hdone : next outcome = .done (.ok t)) {s after : Memory}
    (hends : Memory.Ends request s outcome after) :
    ∃ now new entry, new.isActive = false ∧
      Memory.insertVersion now new entry s = (.ok t, after) := by
  cases request with
  | insertVersion new entry =>
      obtain ⟨hinactive, hlast⟩ := hcareful
      obtain ⟨now, hanswer⟩ := hends.answer_eq_ok ((hlast outcome t).mp hdone)
      exact ⟨now, new, entry, hinactive, hanswer⟩
  | _ => exact absurd hdone (hcareful outcome t)

/-- **One step.**  A rollback that ends with a version 1 leaves its name
uncovered. -/
theorem first_step {s t : System (managers config)} (h : Step s t)
    (hs : s.shared.Consistent)
    (hcareful : ∀ client ∈ s.clients, client.call.CarefulRest client.rest)
    (hfirst : FirstByRollback t) : FirstByRollback s ∨ ¬ t.shared.Covered := by
  obtain ⟨i, id, version, author, u, hclient, hone⟩ := hfirst
  cases h with
  | arrive call =>
      rcases of_getElem?_append_singleton hclient with hold | ⟨-, hnew⟩
      · exact Or.inl ⟨i, id, version, author, u, hold, hone⟩
      · obtain ⟨rfl, hrest⟩ := Sharing.Client.mk.inj hnew
        exact absurd (eq_of_heq hrest).symm
          (run_rollback_ne_ok config id version author u)
  | @proceed j call request next reply after hasked hends =>
      rcases of_getElem?_set hclient with hold | ⟨-, hmoved⟩
      · exact Or.inl ⟨i, id, version, author, u, hold, hone⟩
      · right
        obtain ⟨rfl, hrest⟩ := Sharing.Client.mk.inj hmoved
        obtain ⟨hask, -⟩ := hcareful _ (List.mem_of_getElem? hasked)
        obtain ⟨now, new, entry, hinactive, hinsert⟩ :=
          careful_rollback_done hask (eq_of_heq hrest).symm hends
        obtain ⟨-, hactive, hnext, hfamily⟩ :=
          Memory.insertVersion_eq_ok hinsert
        have hnil : s.shared.family u.name = [] := by
          rw [Memory.family_eq_nil_iff hs]
          omega
        rw [hnil] at hfamily
        exact Memory.not_covered_of_first hfamily (hactive.trans hinactive)

/-- **One step.**  Names stay covered until a rollback ends with a version 1. -/
theorem covered_step {s t : System (managers config)} (h : Step s t)
    (hs : s.shared.Consistent)
    (hcareful : ∀ client ∈ s.clients, client.call.CarefulRest client.rest)
    (hcovered : s.shared.Covered) (hfirst : ¬ FirstByRollback t) :
    t.shared.Covered := by
  cases h with
  | arrive call => exact hcovered
  | @proceed j call request next reply after hasked hends =>
      obtain ⟨hask, -⟩ := hcareful _ (List.mem_of_getElem? hasked)
      obtain ⟨now, heffect⟩ := Memory.Ends.effect hends
      by_cases hsame : after = s.shared
      · rw [hsame]
        exact hcovered
      · apply Memory.covered_effect hs hcovered heffect
        rintro new entry rfl
        cases call with
        | rollback id version author =>
            -- the rollback ends with the version it has inserted
            right
            intro hone
            obtain ⟨-, hlast⟩ := hask
            rcases Memory.Ends.insertVersion_cases hends with hkept |
              ⟨u, hreply, hversion⟩
            · exact hsame hkept
            · refine hfirst ⟨j, id, version, author, u, ?_, hversion.trans hone⟩
              rw [(hlast reply u).mpr hreply]
              exact getElem?_set_of_some hasked _
        | _ => exact hask

/-- **One active version.**  However the calls of any number of clients come
between each other, no name has two active versions, and every name with
versions has exactly one at every instant if and only if no rollback ends with a
version 1. -/
theorem one_active_iff_no_first_rollback {run : Nat → System (managers config)}
    (h : IsRun Memory.empty run) :
    (∀ k name,
      (((run k).shared.family name).filter
        TemplateVersion.isActive).length ≤ 1) ∧
    ((∀ k name, (run k).shared.family name ≠ [] →
        (((run k).shared.family name).filter
          TemplateVersion.isActive).length = 1) ↔
      ∀ k, ¬ FirstByRollback (run k)) := by
  have hrun := consistent_of_isRun h
  refine ⟨fun k name => Memory.length_active_family_le_one (hrun k).1 name, ?_⟩
  have hcovered : (∀ k name, (run k).shared.family name ≠ [] →
      (((run k).shared.family name).filter
        TemplateVersion.isActive).length = 1) ↔
      ∀ k, (run k).shared.Covered := by
    simp only [Memory.length_active_eq_one_iff (hrun _).1]
    rfl
  rw [hcovered]
  constructor
  · intro hall
    refine h.invariant (P := fun _ s => ¬ FirstByRollback s) ?_
      (fun _ hbefore => hbefore) ?_
    · rintro ⟨i, id, version, author, t, hclient, -⟩
      simp at hclient
    · intro k hbefore hmoved hfirst
      exact (first_step hmoved (hrun k).1 (hrun k).2 hfirst).elim hbefore
        (fun h => h (hall (k + 1)))
  · intro hnone
    refine h.invariant (P := fun _ s => s.shared.Covered) ?_
      (fun _ hbefore => hbefore) ?_
    · exact fun name hfamily => (hfamily rfl).elim
    · intro k hbefore hmoved
      exact covered_step hmoved (hrun k).1 (hrun k).2 hbefore (hnone (k + 1))

/-- A client creates a template; another one wants to roll it back, and has
looked up the version to copy when a third one deletes the template. -/
def deletionDuringRollback : Nat → System (managers .default) :=
  Sharing.schedule (Memory.reply ⟨0, 0⟩) Memory.empty
    [.arrive (.createTemplate ⟨"greeting",
        ⟨"Hello", defaultCategory, [], []⟩, "ann"⟩),
      .proceed 0, .proceed 0, .arrive (.rollback 1 1 "ann"), .proceed 1,
      .proceed 1, .arrive (.deleteFamily 1), .proceed 2, .proceed 2, .proceed 1,
      .proceed 1]

/-- The run is one that the clients can take. -/
theorem isRun_deletionDuringRollback :
    IsRun Memory.empty deletionDuringRollback := by
  unfold deletionDuringRollback
  apply Sharing.isRun_schedule
  exact fun _ _ => Memory.Ends.carriedOut ⟨0, 0⟩

/-- The version that the rollback inserts is the only one of the template, and
not active. -/
theorem no_active_version_after_deletion :
    ¬ ∀ (config : Config) (run : Nat → System (managers config)),
      IsRun Memory.empty run →
      ∀ k name, (run k).shared.family name ≠ [] →
        (((run k).shared.family name).filter TemplateVersion.isActive).length =
          1 := by
  intro hall
  have hone :=
    hall .default deletionDuringRollback isRun_deletionDuringRollback 11
      "greeting"
  revert hone
  decide +kernel

/-- In this run the rollback ends with a version 1. -/
theorem one_active_fails_after_deletion :
    IsRun Memory.empty deletionDuringRollback ∧
    FirstByRollback (deletionDuringRollback 11) ∧
    ¬ ∀ k name, (deletionDuringRollback k).shared.family name ≠ [] →
      (((deletionDuringRollback k).shared.family name).filter
        TemplateVersion.isActive).length = 1 := by
  have hrun := isRun_deletionDuringRollback
  have hfirst : FirstByRollback (deletionDuringRollback 11) :=
    ⟨1, 1, 1, "ann", _, rfl, rfl⟩
  obtain ⟨-, hiff⟩ := one_active_iff_no_first_rollback hrun
  exact ⟨hrun, hfirst, fun hall => hiff.mp hall 11 hfirst⟩

end Lifecycle

end TemplateRegistry
