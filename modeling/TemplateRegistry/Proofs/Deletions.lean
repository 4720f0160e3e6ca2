import TemplateRegistry.Proofs.ManagerRuns
import TemplateRegistry.Proofs.StoredHistory
/-!
# What a deletion removes

A deletion is given the id of a version.  It looks up the name of that version
in one call of the store, and removes all versions of the name in another.
Between the two other clients may delete the template and create another one of
the same name, and the deletion then removes versions that have nothing to do
with the one it was given.

* `keeps_of_isRun`, `version_stays` — what becomes of the records between two
  instants of a run;
* `Deletion` — the two instants of a deletion that succeeds;
* `Deleting`, `deleting_of_isRun` — how far a client is with its deletion;
* `deletion_includes_version_iff` — a deletion removes the version it was given
  if and only if its template was there all the time since the version was
  looked up.
-/

namespace TemplateRegistry

namespace Memory

variable {s after : Memory} {now : Timestamp} {call : StoreCall}

/-- **One call.**  A version stays until its name has no versions. -/
theorem version_effect (h : s.Consistent) (heffect : Effect now s call after)
    {t : TemplateVersion} (ht : t ∈ s.templates)
    (hfamily : after.family t.name ≠ []) :
    ∃ u ∈ after.templates, u.id = t.id ∧ u.name = t.name := by
  cases heffect with
  | inserted new entry hnext hfree =>
      exact ⟨t, List.mem_append_left _ ht, rfl, rfl⟩
  | @swapped target htarget author notes =>
      refine ⟨swappedRow now target (s.otherActive? target) t, ?_,
        swappedRow_id .., swappedRow_name ..⟩
      rw [templates_swapped]
      exact List.mem_map_of_mem ht
  | familyDeleted gone =>
      refine ⟨t, ?_, rfl, rfl⟩
      rw [templates_withoutFamily h]
      refine List.mem_filter.mpr ⟨ht, ?_⟩
      -- were it of the name that is deleted, the name would have no versions
      have hne : t.name ≠ gone := by
        rintro rfl
        apply hfamily
        unfold family
        rw [templates_withoutFamily h, List.filter_filter]
        simp
      simpa using hne
  | @put new prepared hprepared hcheck =>
      refine ⟨t, ?_, rfl, rfl⟩
      show t ∈ (s.retired now prepared.name).templates
      rw [templates_retired]
      exact ht
  | retired gone =>
      refine ⟨t, ?_, rfl, rfl⟩
      rw [templates_retired]
      exact ht
  | _ => exact ⟨t, ht, rfl, rfl⟩

end Memory

namespace Lifecycle

open Service (afterCall afterCall_cases run_call_bind)
open Sharing (System Step IsRun InProgress)

variable {config : Config} {run : Nat → System (managers config)}

/-! ### Between two instants -/

/-- From one instant of a run to the next, the store is as it was or a call has
had its effect. -/
theorem effect_of_isRun (h : IsRun Memory.empty run) (k : Nat) :
    ∃ now call, Memory.Effect now (run k).shared call (run (k + 1)).shared := by
  rcases h.2 k with hsame | hmoved
  · rw [hsame]
    exact ⟨⟨0, 0⟩, .listActiveComponents, .nothing _⟩
  · generalize run k = s at hmoved
    generalize run (k + 1) = t at hmoved
    cases hmoved with
    | arrive call => exact ⟨⟨0, 0⟩, .listActiveComponents, .nothing _⟩
    | proceed hclient hends =>
        obtain ⟨now, heffect⟩ := Memory.Ends.effect hends
        exact ⟨now, _, heffect⟩

/-- Along a run records are only kept. -/
theorem keeps_of_isRun (h : IsRun Memory.empty run) {j k : Nat} (hjk : j ≤ k) :
    (run j).shared.Keeps (run k).shared := by
  induction hjk with
  | refl => exact .refl _
  | @step k _ ih =>
      obtain ⟨now, call, heffect⟩ := effect_of_isRun h k
      exact ih.trans (Memory.keeps_effect heffect)

/-- A version is there for as long as its name has versions all the time. -/
theorem version_stays (h : IsRun Memory.empty run) {j k : Nat} (hjk : j ≤ k)
    {t : TemplateVersion} (ht : t ∈ (run j).shared.templates)
    (hfamily : ∀ m, j ≤ m → m ≤ k → (run m).shared.family t.name ≠ []) :
    ∃ u ∈ (run k).shared.templates, u.id = t.id ∧ u.name = t.name := by
  induction hjk with
  | refl => exact ⟨t, ht, rfl, rfl⟩
  | @step k hjk ih =>
      obtain ⟨u, hu, hid, hname⟩ :=
        ih fun m hm hmk => hfamily m hm (Nat.le_succ_of_le hmk)
      obtain ⟨now, call, heffect⟩ := effect_of_isRun h k
      have hnonempty : (run (k + 1)).shared.family u.name ≠ [] := by
        rw [hname]
        exact hfamily (k + 1) (Nat.le_succ_of_le hjk) (Nat.le_refl _)
      obtain ⟨v, hv, hid', hname'⟩ :=
        Memory.version_effect (consistent_of_isRun h k).1 heffect hu hnonempty
      exact ⟨v, hv, hid'.trans hid, hname'.trans hname⟩

/-- A version that is there at an instant was there at an earlier one, under the
same name, or was written since. -/
theorem version_origin (h : IsRun Memory.empty run) {j k : Nat} (hjk : j ≤ k)
    {t : TemplateVersion} (ht : t ∈ (run k).shared.templates) :
    (∃ u ∈ (run j).shared.templates, u.id = t.id ∧ u.name = t.name) ∨
      (run j).shared.lastId < t.id := by
  rcases (keeps_of_isRun h hjk).origin (.template t)
      (Memory.template_mem_records.mpr ht) with
    ⟨old, hold, hlasting⟩ | hnew
  · cases old with
    | template u =>
        have hrow := StoredRecord.template.inj hlasting
        exact Or.inl ⟨u, Memory.template_mem_records.mp hold,
          (congrArg TemplateVersion.id hrow).symm,
          (congrArg TemplateVersion.name hrow).symm⟩
    | component c => cases hlasting
    | logEntry e => cases hlasting
    | usage u => cases hlasting
  · exact Or.inr hnew

/-- What has a name that once had no versions was written after that. -/
theorem new_of_family_nil (h : IsRun Memory.empty run) {j k : Nat} (hjk : j ≤ k)
    {name : String} (hnone : (run j).shared.family name = [])
    {t : TemplateVersion} (ht : t ∈ (run k).shared.family name) :
    (run j).shared.lastId < t.id := by
  obtain ⟨hmem, hname⟩ := Memory.mem_family.mp ht
  rcases version_origin h hjk hmem with ⟨u, hu, -, huName⟩ | hnew
  · have hfamily : u ∈ (run j).shared.family name :=
      Memory.mem_family.mpr ⟨hu, huName.trans hname⟩
    rw [hnone] at hfamily
    cases hfamily
  · exact hnew

/-! ### Deletions -/

/-- A client's deletion of the template of a version has looked the version up
at an instant, and removed the versions of its name at a later one. -/
structure Deletion (run : Nat → System (managers config)) (i j k : Nat)
    (id : Int) (d : DeletedFamily) : Prop where
  inOrder : j < k
  asked : InProgress (run j) i (.deleteFamily id)
  found : ∃ t, (run j).shared.template? id = some t ∧ t.name = d.name
  counted : d.deletedVersions = ((run k).shared.family d.name).length
  removed : (run (k + 1)).shared = (run k).shared.withoutFamily d.name

/-- What is left of a deletion once the name is known. -/
def deleteNamed (config : Config) (name : String) : Service DeletedFamily := do
  let deletedVersions ← Service.call config (.deleteFamily name)
  return { name, deletedVersions }

/-- How far a client is with its deletion at an instant of a run. -/
inductive Deleting (run : Nat → System (managers config)) (i k : Nat)
    (id : Int) :
    Program StoreCalls (Except EngineError DeletedFamily) → Prop
  | asking : Deleting run i k id (deleteFamily config id).run
  | found {j : Nat} {t : TemplateVersion} (hj : j < k)
      (hasked : InProgress (run j) i (.deleteFamily id))
      (ht : (run j).shared.template? id = some t) :
      Deleting run i k id (deleteNamed config t.name).run
  | failed (error : EngineError) : Deleting run i k id (.done (.error error))
  | done {j k' : Nat} {d : DeletedFamily} (hk' : k' < k)
      (h : Deletion run i j k' id d) :
      Deleting run i k id (.done (.ok d))

/-- A deletion that was not continued is where it was. -/
theorem Deleting.later {i k : Nat} {id : Int}
    {rest : Program StoreCalls (Except EngineError DeletedFamily)}
    (h : Deleting run i k id rest) :
    Deleting run i (k + 1) id rest := by
  cases h with
  | asking => exact .asking
  | found hj hasked ht => exact .found (Nat.lt_succ_of_lt hj) hasked ht
  | failed error => exact .failed error
  | done hk' h => exact .done (Nat.lt_succ_of_lt hk') h

/-- **One request** of a deletion. -/
theorem Deleting.proceed {i k : Nat} {id : Int} {request : StoreCall}
    {next : Outcome request.Result →
      Program StoreCalls (Except EngineError DeletedFamily)}
    {outcome : Outcome request.Result}
    (hclient : (run k).clients[i]? = some ⟨.deleteFamily id,
      .ask (I := StoreCalls) request next⟩)
    (h : Deleting run i k id (.ask (I := StoreCalls) request next))
    (hends : Memory.Ends request (run k).shared outcome (run (k + 1)).shared) :
    Deleting run i (k + 1) id (next outcome) := by
  have hasked : InProgress (run k) i (.deleteFamily id) :=
    ⟨request, next, hclient⟩
  generalize hrest : Program.ask (I := StoreCalls) request next = rest at h
  cases h with
  | asking =>
      have hrun : (deleteFamily config id).run =
          .ask (I := StoreCalls) (.getTemplate id)
          (afterCall config (.getTemplate id) fun t =>
            deleteNamed config t.name) :=
        run_call_bind config (.getTemplate id) fun t =>
          deleteNamed config t.name
      rw [hrun] at hrest
      obtain ⟨rfl, hnext⟩ := Program.ask.inj hrest
      obtain rfl := eq_of_heq hnext
      rcases afterCall_cases config (.getTemplate id)
        (fun t => deleteNamed config t.name) outcome with ⟨error, heq⟩ |
        ⟨t, hreply, heq⟩
      · rw [heq]
        exact .failed error
      · rw [heq]
        obtain ⟨now, hanswer⟩ := hends.answer_eq_ok hreply
        exact .found (Nat.lt_succ_self k) hasked
          (Memory.found_eq_ok (congrArg Prod.fst hanswer))
  | @found j t hj hlooked ht =>
      have hrun : (deleteNamed config t.name).run =
          .ask (I := StoreCalls) (.deleteFamily t.name)
          (afterCall config (.deleteFamily t.name) fun n => pure ⟨t.name, n⟩) :=
        run_call_bind config (.deleteFamily t.name) fun n =>
          (pure ⟨t.name, n⟩ : Service DeletedFamily)
      rw [hrun] at hrest
      obtain ⟨rfl, hnext⟩ := Program.ask.inj hrest
      obtain rfl := eq_of_heq hnext
      rcases afterCall_cases config (.deleteFamily t.name)
        (fun n => (pure ⟨t.name, n⟩ : Service DeletedFamily)) outcome
          with ⟨error, heq⟩ | ⟨n, hreply, heq⟩
      · rw [heq]
        exact .failed error
      · rw [heq]
        obtain ⟨now, hanswer⟩ := hends.answer_eq_ok hreply
        rcases Memory.deleteFamily_cases t.name (run k).shared
          with ⟨-, error, hfailed⟩ | ⟨-, hremoved⟩
        · have hresult := congrArg Prod.fst (hanswer.symm.trans hfailed)
          cases hresult
        · obtain ⟨hcount, hafter⟩ := Prod.mk.inj (hanswer.symm.trans hremoved)
          exact .done (Nat.lt_succ_self k) ⟨hj, hlooked, ⟨t, ht, rfl⟩,
            Except.ok.inj hcount, hafter⟩
  | failed error => cases hrest
  | done hk' h => cases hrest

/-- **Every instant.**  A client with a deletion has done nothing yet, or knows
the name, or is done. -/
theorem deleting_of_isRun (h : IsRun Memory.empty run) (k : Nat) :
    ∀ i id rest, (run k).clients[i]? = some ⟨.deleteFamily id, rest⟩ →
      Deleting run i k id rest := by
  refine h.invariant (P := fun k s => ∀ i id rest,
    s.clients[i]? = some ⟨.deleteFamily id, rest⟩ →
      Deleting run i k id rest) ?_ ?_ ?_ k
  · intro i id rest hclient
    simp at hclient
  · intro k hbefore i id rest hclient
    exact (hbefore i id rest hclient).later
  · intro k hbefore hmoved i id rest hclient
    generalize hs : run k = s at hbefore hmoved
    generalize ht : run (k + 1) = t at hclient hmoved
    cases hmoved with
    | arrive call =>
        rcases of_getElem?_append_singleton hclient with hold | ⟨-, hnew⟩
        · exact (hbefore i id rest hold).later
        · obtain ⟨rfl, hrest⟩ := Sharing.Client.mk.inj hnew
          rw [eq_of_heq hrest]
          exact .asking
    | @proceed i' call request next reply after hasked hends =>
        rcases of_getElem?_set hclient with hold | ⟨rfl, hnew⟩
        · exact (hbefore i id rest hold).later
        · obtain ⟨rfl, hrest⟩ := Sharing.Client.mk.inj hnew
          rw [eq_of_heq hrest]
          have hstage := hbefore i id _ hasked
          have hclient' := hasked
          rw [← hs] at hclient'
          refine hstage.proceed hclient' ?_
          rw [hs, ht]
          exact hends

/-- **What a deletion removes.**  However the calls of any number of clients
come between each other, a deletion that has succeeded looked up the version it
was given at one instant and removed all versions of the name it found at a
later one.  The version it was given is one of those if and only if the name had
versions all the time between; if there was an instant at which it had none,
every version removed was written after it. -/
theorem deletion_includes_version_iff (h : IsRun Memory.empty run)
    {last i : Nat} {id : Int} {d : DeletedFamily}
    (hdone : (run last).clients[i]? = some ⟨.deleteFamily id, .done (.ok d)⟩) :
    ∃ j k, k < last ∧ Deletion run i j k id d ∧
      (run (k + 1)).shared.templates =
        (run k).shared.templates.filter (fun t => t.name ≠ d.name) ∧
      ((∃ t ∈ (run k).shared.family d.name, t.id = id) ↔
        ∀ m, j ≤ m → m ≤ k → (run m).shared.family d.name ≠ []) ∧
      ∀ m, j ≤ m → m ≤ k → (run m).shared.family d.name = [] →
        ∀ t ∈ (run k).shared.family d.name, (run m).shared.lastId < t.id := by
  cases deleting_of_isRun h last i id _ hdone with
  | @done j k _ hk hdeletion =>
      obtain ⟨t, ht, hname⟩ := hdeletion.found
      obtain ⟨hmem, rfl⟩ := Memory.template?_mem ht
      refine ⟨j, k, hk, hdeletion, ?_, ⟨?_, ?_⟩, ?_⟩
      · rw [hdeletion.removed,
          Memory.templates_withoutFamily (consistent_of_isRun h k).1]
      · rintro ⟨u, hu, hid⟩ m hjm hmk hnone
        have hnew := new_of_family_nil h hmk hnone hu
        -- the version was looked up before, so its id is not a new one
        have hgiven :=
          (consistent_of_isRun h j).1.id_le
            (Memory.template_mem_records.mpr hmem)
        have hcounter := (keeps_of_isRun h hjm).counter
        simp only [StoredRecord.id] at hgiven
        omega
      · intro hfamily
        rw [← hname] at hfamily
        obtain ⟨u, hu, hid, huName⟩ :=
          version_stays h (Nat.le_of_lt hdeletion.inOrder) hmem hfamily
        exact ⟨u, Memory.mem_family.mpr ⟨hu, huName.trans hname⟩, hid⟩
      · exact fun m _ hmk hnone u hu => new_of_family_nil h hmk hnone hu

/-- A client creates a template, and two others want to delete it.  The first of
them has looked up the name when the second deletes the template and the name is
taken again. -/
def recreationDuringDeletion : Nat → System (managers .default) :=
  Sharing.schedule (Memory.reply ⟨0, 0⟩) Memory.empty
    [.arrive (.createTemplate ⟨"greeting",
        ⟨"Hello", defaultCategory, [], []⟩, "ann"⟩),
      .proceed 0, .proceed 0, .arrive (.deleteFamily 1), .proceed 1,
      .arrive (.deleteFamily 1), .proceed 2, .proceed 2,
      .arrive (.createTemplate ⟨"greeting",
        ⟨"Hi", defaultCategory, [], []⟩, "bob"⟩),
      .proceed 3, .proceed 3, .proceed 1]

/-- The run is one that the clients can take. -/
theorem isRun_recreationDuringDeletion :
    IsRun Memory.empty recreationDuringDeletion := by
  unfold recreationDuringDeletion
  apply Sharing.isRun_schedule
  exact fun _ _ => Memory.Ends.carriedOut ⟨0, 0⟩

/-- The first deletion succeeds, and what it removes is the other template. -/
theorem deletion_misses_version :
    ¬ ∀ (config : Config) (run : Nat → System (managers config)),
      IsRun Memory.empty run →
      ∀ k i id d, InProgress (run k) i (.deleteFamily id) →
        (run (k + 1)).clients[i]? = some ⟨.deleteFamily id, .done (.ok d)⟩ →
        ∃ t ∈ (run k).shared.templates, t.id = id ∧
          ∀ u ∈ (run (k + 1)).shared.templates, u.id ≠ id := by
  intro hall
  have hremoved :=
    hall .default recreationDuringDeletion isRun_recreationDuringDeletion 11 1 1
    ⟨"greeting", 1⟩ ⟨_, _, rfl⟩ rfl
  revert hremoved
  decide +kernel

/-- In this run the name has no versions for a while, and the only version that
the first deletion removes was written after that. -/
theorem deletion_includes_version_iff_recreated :
    IsRun Memory.empty recreationDuringDeletion ∧
    (recreationDuringDeletion 12).clients[1]? =
      some ⟨.deleteFamily 1, .done (.ok ⟨"greeting", 1⟩)⟩ ∧
    ∃ j k, k < 12 ∧ Deletion recreationDuringDeletion 1 j k 1 ⟨"greeting", 1⟩ ∧
      ((∃ t ∈ (recreationDuringDeletion k).shared.family "greeting", t.id = 1) ↔
        ∀ m, j ≤ m → m ≤ k →
          (recreationDuringDeletion m).shared.family "greeting" ≠ []) := by
  have hrun := isRun_recreationDuringDeletion
  have hdone : (recreationDuringDeletion 12).clients[1]? =
      some ⟨.deleteFamily 1, .done (.ok ⟨"greeting", 1⟩)⟩ := rfl
  obtain ⟨j, k, hk, hdeletion, -, hiff, -⟩ :=
    deletion_includes_version_iff hrun hdone
  exact ⟨hrun, hdone, j, k, hk, hdeletion, hiff⟩

end Lifecycle

end TemplateRegistry
