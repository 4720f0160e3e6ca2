import TemplateRegistry.Proofs.AppendedVersions
/-!
# What is left when a template is deleted

Versions are kept by id, renders by the id of the version that was rendered, and
log entries by name.  Deleting a template takes all three of its name and
nothing else, so that the name is as if it had never been used.

* `Memory.usageOf` — the renders of the versions of a name;
* `StoreCall.ReadsOf`, `StoreCall.AnswersNothing` — reads about what is gone;
* `settles_deleteFamily` — the deletion;
* `deletion_complete_and_local` — what is gone, what stays, and how the name
  begins again.
-/

namespace TemplateRegistry

namespace StoreCall

/-- A read by a name, or by one of some ids of versions. -/
def ReadsOf (name : String) (ids : List Int) : StoreCall → Prop
  | getTemplate id => id ∈ ids
  | listParameters id => id ∈ ids
  | getVersion other _ => other = name
  | getActive other => other = name
  | listVersions other => other = name
  | maxVersion other => other = name
  | listLog other => other = name
  | _ => False

/-- The result of a read about what is not there: an empty list, 0 for the
highest number of none, and an error that says so. -/
def AnswersNothing :
    (call : StoreCall) → Except RegistryError call.Result → Prop
  | listVersions _, result => result = .ok []
  | listLog _, result => result = .ok []
  | maxVersion _, result => result = .ok 0
  | _, result => ∃ entity key, result = .error (.notFound entity key)

end StoreCall

namespace Memory

variable {s : Memory} {name : String}

/-- The renders of the versions of a name. -/
def usageOf (name : String) (s : Memory) : List UsageRecord :=
  s.usage.filter fun u => u.templateId ∈ (s.family name).map TemplateVersion.id

/-! ### The other names -/

/-- No version of one name has the id of a version of another. -/
theorem Consistent.id_not_mem_other (h : s.Consistent) {other : String}
    (hne : other ≠ name) {id : Int}
    (hid : id ∈ (s.family other).map TemplateVersion.id) :
    id ∉ (s.family name).map TemplateVersion.id := by
  intro hmem
  obtain ⟨t, ht, rfl⟩ := List.mem_map.mp hid
  obtain ⟨u, hu, heq⟩ := List.mem_map.mp hmem
  obtain ⟨htemplate, hname⟩ := mem_family.mp ht
  obtain ⟨hother, hnameOther⟩ := mem_family.mp hu
  obtain rfl := h.template_eq hother htemplate heq
  exact hne (hname.symm.trans hnameOther)

/-- The uses of other families stay. -/
theorem usageOf_withoutFamily (h : s.Consistent) {other : String}
    (hne : other ≠ name) :
    (s.withoutFamily name).usageOf other = s.usageOf other := by
  unfold usageOf
  rw [family_withoutFamily h, if_neg hne]
  simp only [withoutFamily, List.filter_filter]
  apply List.filter_congr
  intro u _
  by_cases hu : u.templateId ∈ (s.family other).map TemplateVersion.id
  · simp [hu, h.id_not_mem_other hne hu]
  · simp [hu]

/-! ### What is gone -/

/-- Nothing is left of the family. -/
theorem family_withoutFamily_self (h : s.Consistent) (name : String) :
    (s.withoutFamily name).family name = [] := by
  rw [family_withoutFamily h, if_pos rfl]

/-- Nothing is left of its log. -/
theorem logOf_withoutFamily_self (name : String) (s : Memory) :
    (s.withoutFamily name).logOf name = [] := by
  rw [logOf_withoutFamily, if_pos rfl]

/-- What is not there is answered by the error. -/
theorem found_none {α : Type} {error : RegistryError} {o : Option α}
    (h : o = none) :
    found error o = .error error := by
  rw [h]
  rfl

/-- No version of the family is found by its id. -/
theorem template?_withoutFamily {id : Int}
    (hid : id ∈ (s.family name).map TemplateVersion.id) :
    (s.withoutFamily name).template? id = none := by
  refine List.find?_eq_none.mpr fun t ht => ?_
  have hkept : t.id ∉ (s.family name).map TemplateVersion.id := by
    simpa using (List.mem_filter.mp ht).2
  simpa using fun heq : t.id = id => hkept (heq ▸ hid)

/-- Reads of what is gone find nothing. -/
theorem answersNothing_withoutFamily (h : s.Consistent) (now : Timestamp)
    {call : StoreCall}
    (hreads : call.ReadsOf name ((s.family name).map TemplateVersion.id)) :
    call.AnswersNothing (answer now call (s.withoutFamily name)).1 := by
  have hfamily := family_withoutFamily_self h name
  cases call with
  | getTemplate id =>
      exact ⟨"Template", toString id,
        found_none (template?_withoutFamily hreads)⟩
  | listParameters id =>
      refine ⟨"Template", toString id, found_none ?_⟩
      rw [template?_withoutFamily hreads]
      rfl
  | getVersion other version =>
      obtain rfl := hreads
      refine ⟨"Template", versionKey other version, found_none ?_⟩
      rw [hfamily]
      rfl
  | getActive other =>
      obtain rfl := hreads
      exact ⟨"Active template", other,
        found_none (active?_of_family_nil hfamily)⟩
  | listVersions other =>
      obtain rfl := hreads
      show Except.ok (sortByVersion ((s.withoutFamily other).family other)) =
        .ok []
      rw [hfamily]
      rfl
  | maxVersion other =>
      obtain rfl := hreads
      exact congrArg Except.ok
        (((h.withoutFamily other).maxVersion_eq_zero_iff other).mpr hfamily)
  | listLog other =>
      obtain rfl := hreads
      show Except.ok (sortNewestFirst ((s.withoutFamily other).logOf other)) =
        .ok []
      rw [logOf_withoutFamily_self]
      rfl
  | _ => exact hreads.elim

/-- No record of any kind is left of the family. -/
theorem familyCounts_withoutFamily (h : s.Consistent) :
    (s.withoutFamily name).familyCounts name = ⟨0, 0, 0, 0⟩ := by
  have hlog :
      (s.withoutFamily name).log.filter (fun e => e.templateName = name) = [] :=
    logOf_withoutFamily_self name s
  simp [familyCounts, family_withoutFamily_self h, hlog]

end Memory

namespace Lifecycle

open Service

variable {s : Memory} {config : Config}

/-! ### The deletion -/

/-- Deleting the family of a stored version removes it and says how many
versions it had. -/
theorem settles_deleteFamily {id : Int} {t : TemplateVersion}
    (ht : s.template? id = some t) :
    Settles (deleteFamily config id)
      (fun result after =>
        result = .ok ⟨t.name, (s.family t.name).length⟩ ∧
          after = s.withoutFamily t.name) s := by
  have hmem : t ∈ s.family t.name :=
    Memory.mem_family.mpr ⟨(Memory.template?_mem ht).1, rfl⟩
  have hdeleted : ∀ now, Memory.answer now (.deleteFamily t.name) s =
      (.ok (s.family t.name).length, s.withoutFamily t.name) := by
    intro now
    rcases Memory.deleteFamily_cases t.name s with ⟨hnone, -⟩ | ⟨-, heq⟩
    · exact absurd hnone (List.ne_nil_of_mem hmem)
    · exact heq
  unfold deleteFamily getTemplate
  refine settles_found_bind (fun _ => rfl) (fun hnone => ?_)
    fun found hfound => ?_
  · cases hnone.symm.trans ht
  obtain rfl := Option.some.inj (hfound.symm.trans ht)
  refine settles_call_bind (fun now => congrArg Prod.fst (hdeleted now)) ?_
    fun now count hcount => ?_
  · intro now error herror
    cases herror
  · obtain rfl := Except.ok.inj hcount
    rw [hdeleted]
    exact settles_pure ⟨rfl, rfl⟩

/-- **Deletion.**  Deleting a template by the id of any of its versions takes
all versions of the name, their renders and the log of the name, and leaves
everything else alone.  Reads of what is gone find nothing, and the name can be
used again from version 1. -/
theorem deletion_complete_and_local (h : Memory.Reachable s) {id : Int}
    {t : TemplateVersion} (ht : s.template? id = some t) (config : Config)
    {result : Except EngineError DeletedFamily} {after : Memory}
    (hruns :
      Program.Runs (I := StoreCalls) Memory.Answers
      (deleteFamily config id).run s result
      after) :
    result = .ok ⟨t.name, (s.family t.name).length⟩ ∧
    after = { s with
      templates := s.templates.filter fun u => u.name ≠ t.name
      usage := s.usage.filter fun u =>
        u.templateId ∉ (s.family t.name).map TemplateVersion.id
      log := s.log.filter fun e => e.templateName ≠ t.name } ∧
    (∀ other, other ≠ t.name →
      after.family other = s.family other ∧
      after.usageOf other = s.usageOf other ∧
      after.logOf other = s.logOf other) ∧
    (∀ now (call : StoreCall),
      call.ReadsOf t.name ((s.family t.name).map TemplateVersion.id) →
      call.AnswersNothing (Memory.answer now call after).1) ∧
    after.familyCounts t.name = ⟨0, 0, 0, 0⟩ ∧
    ∀ (later : Config) (request : TemplateRequest), request.name = t.name →
      validateName request.name = .ok () →
      Text.isBlankText request.author = false →
      (∃ fields, request.fields.validated = .ok fields) →
      ∀ created last,
        Program.Runs (I := StoreCalls) Memory.Answers
          (createTemplate later request).run after created last →
        ∃ u e, created = .ok u ∧ u.version = 1 ∧ u.isActive = true ∧
          u.previousId = none ∧
          last.family t.name = [u] ∧ last.logOf t.name = [e] := by
  have hconsistent := Memory.consistent_of_reachable h
  obtain ⟨rfl, rfl⟩ := (settles_deleteFamily ht).of_runs hruns
  have hfamily := Memory.family_withoutFamily_self hconsistent t.name
  have hlog := Memory.logOf_withoutFamily_self t.name s
  refine ⟨rfl, ?_,
    fun other hne => ⟨?_, Memory.usageOf_withoutFamily hconsistent hne, ?_⟩,
    fun now call hreads => Memory.answersNothing_withoutFamily hconsistent now
      hreads, Memory.familyCounts_withoutFamily hconsistent, ?_⟩
  · rw [← Memory.templates_withoutFamily hconsistent]
    rfl
  · rw [Memory.family_withoutFamily hconsistent, if_neg hne]
  · rw [Memory.logOf_withoutFamily, if_neg hne]
  · -- nothing is left under the name, so the request can be met, and is the
    -- first
    intro later request hname hvalid hauthor hfields created last hcreated
    have happends :=
      (settles_createTemplate (hconsistent.withoutFamily t.name)
        request).of_runs hcreated
    have hfree : (s.withoutFamily t.name).family request.name = [] :=
      hname ▸ hfamily
    obtain ⟨u, rfl⟩ :=
      happends.succeeds_iff.mpr ⟨hvalid, hauthor, hfields, hfree⟩
    obtain ⟨e, hadded, hfits⟩ := happends.appended u rfl
    have hsame : u.name = t.name := hfits.name.trans hname
    have hversion : u.version = 1 := by
      have hzero :=
        ((hconsistent.withoutFamily t.name).maxVersion_eq_zero_iff _).mpr
          hfamily
      rw [hadded.version, hsame, hzero]
      rfl
    obtain ⟨hversions, hentries⟩ := hadded.extends
    rw [hsame, hfamily] at hversions
    rw [hsame, hlog] at hentries
    exact ⟨u, e, rfl, hversion, hadded.isActive.mpr hversion, hfits.previousId,
      hversions, hentries⟩

/-- A greeting that was deleted before is deleted again by its second version,
while a name that it begins with stays. -/
theorem deletion_complete_and_local_greeting :
    let s := Memory.empty.after ⟨0, 0⟩
      [.insertVersion (Memory.greeting 1 true) (Memory.greetingEntry 1),
        .deleteFamily "greeting",
          .insertVersion { Memory.greeting 1 true with name := "greet" }
          { Memory.greetingEntry 1 with templateName := "greet" },
        .recordTemplateUsage 3 0,
        .insertVersion (Memory.greeting 1 true) (Memory.greetingEntry 1),
        .insertVersion (Memory.greeting 2 false) (Memory.greetingEntry 2),
        .recordTemplateUsage 6 1, .recordTemplateUsage 8 2]
    Memory.Reachable s ∧ s.familyCounts "greeting" = ⟨2, 0, 2, 2⟩ ∧
    ∃ after,
      Program.Runs (I := StoreCalls) Memory.Answers
        (deleteFamily .default 8).run s (.ok ⟨"greeting", 2⟩) after ∧
      after.familyCounts "greeting" = ⟨0, 0, 0, 0⟩ ∧
      after.familyCounts "greet" = ⟨1, 0, 1, 1⟩ ∧
      after.usageOf "greet" = s.usageOf "greet" := by
  intro s
  have hs : Memory.Reachable s := Memory.Reachable.empty.after _ _
  obtain ⟨t, ht, hname⟩ : ∃ t, s.template? 8 = some t ∧ t.name = "greeting" :=
    ⟨_, rfl, rfl⟩
  have hruns := Program.runs_run (I := StoreCalls) (Memory.answers_reply ⟨0, 0⟩)
    (deleteFamily .default 8).run s
  obtain ⟨hresult, -, hothers, -, hcounts, -⟩ :=
    deletion_complete_and_local hs ht .default hruns
  rw [hresult, hname] at hruns
  rw [hname] at hcounts hothers
  exact ⟨hs, by decide +kernel, _, hruns, hcounts, by decide +kernel,
    (hothers "greet" (by decide)).2.1⟩

end Lifecycle

end TemplateRegistry
