import TemplateRegistry.Proofs.LogReplay
import TemplateRegistry.Proofs.NormalFields
import TemplateRegistry.Proofs.UndisturbedServices
/-!
# What is written when a version is added

Creating a template, adding a version and rolling back each look a few things up
and then write once.  While nothing else uses the store they succeed exactly
under a condition on the request and the state, and what they write is one
version and one log entry, the next ones of their name.

* `Memory.Appended` — one version and one log entry more, and nothing else;
* `Memory.AppendsIf` — how a call ends that appends under a condition;
* `settles_createTemplate`, `settles_createVersion`, `settles_rollback` — the
  condition and the version of each call;
* `appended_versions_exact` — all three, in every state that managers lead to.
-/

namespace TemplateRegistry

namespace Memory

variable {s after : Memory} {name : String}

/-- All that a store has more is a version and its log entry: the next ones of
their name, under the next ids.  The version is active just if it is the
first. -/
structure Appended (s : Memory) (t : TemplateVersion) (e : LogEntry)
    (after : Memory) : Prop where
  state : after = { s with
    lastId := e.id
    templates := s.templates ++ [t]
    log := s.log ++ [e] }
  templateId : t.id = s.lastId + 1
  entryId : e.id = s.lastId + 2
  version : t.version = s.maxVersion t.name + 1
  isActive : t.isActive = true ↔ t.version = 1
  entryName : e.templateName = t.name
  entryVersion : e.version = t.version

/-- The versions of the name, and its log, end with what is new. -/
theorem Appended.extends {t : TemplateVersion} {e : LogEntry}
    (h : s.Appended t e after) :
    after.family t.name = s.family t.name ++ [t] ∧
    after.logOf t.name = s.logOf t.name ++ [e] := by
  rw [h.state]
  simp [family, logOf, h.entryName]

/-- A call succeeds just under a condition.  Then it gives a version that it has
appended, and version and log entry fit the call; otherwise it leaves the store
as it was. -/
structure AppendsIf (s : Memory) (condition : Prop)
    (Fits : TemplateVersion → LogEntry → Prop)
    (result : Except EngineError TemplateVersion) (after : Memory) : Prop where
  succeeds_iff : (∃ t, result = .ok t) ↔ condition
  appended : ∀ t, result = .ok t → ∃ e, s.Appended t e after ∧ Fits t e
  spared : ∀ error, result = .error error → after = s

section AppendsIf

variable {condition : Prop} {Fits : TemplateVersion → LogEntry → Prop}

/-- A call whose condition does not hold is refused and appends nothing. -/
theorem AppendsIf.refused {error : EngineError} (h : ¬ condition) :
    s.AppendsIf condition Fits (.error error) s where
  succeeds_iff := iff_of_false (by simp) h
  appended _ ht := by cases ht
  spared _ _ := rfl

/-- An insertion at the end of a call, whose version and entry are made from
what was read. -/
theorem AppendsIf.inserted {new : NewVersion} {entry : NewLogEntry}
    (h : condition) (hversion : new.version = s.maxVersion new.name + 1)
    (hactive : new.isActive = true ↔ new.version = 1)
    (hfree : new.isActive = true → s.active? new.name = none)
    (hname : entry.templateName = new.name)
    (hentry : entry.version = new.version)
    (hfits : ∀ now,
      Fits (new.withId (s.lastId + 1) now)
      (entry.withId (s.lastId + 1 + 1) now)) (now : Timestamp) :
    s.AppendsIf condition Fits
      ((answer now (.insertVersion new entry) s).1.mapError .registry)
      (answer now (.insertVersion new entry) s).2 := by
  have hcheck :
      checkSequence new.name (s.maxVersion new.name) new.version = .ok () :=
    if_pos hversion.symm
  have hinsert : answer now (.insertVersion new entry) s =
      (.ok (new.withId (s.lastId + 1) now),
        (s.addVersion (new.withId (s.lastId + 1) now)).appendLog now entry) :=
    insertVersion_of_checked hcheck hfree now entry
  rw [hinsert]
  refine ⟨iff_of_true ⟨_, rfl⟩ h, fun t ht => ?_,
    fun error herror => by cases herror⟩
  obtain rfl := Except.ok.inj ht
  refine ⟨entry.withId (s.lastId + 1 + 1) now, ?_, hfits now⟩
  exact ⟨rfl, rfl, Int.add_assoc .., hversion, hactive, hname, hentry⟩

end AppendsIf

/-! ### The versions there are -/

/-- The highest version is zero just for a name without versions. -/
theorem Consistent.maxVersion_eq_zero_iff (h : s.Consistent) (name : String) :
    s.maxVersion name = 0 ↔ s.family name = [] := by
  rw [h.maxVersion_family, ← List.length_eq_zero_iff]
  omega

/-- A name with versions has one with the highest number. -/
theorem Consistent.exists_highest (h : s.Consistent)
    (hsome : s.family name ≠ []) :
    ∃ t, (s.family name).find? (fun t => t.version = s.maxVersion name) =
      some t := by
  have hlength : 0 < (s.family name).length := List.length_pos_iff.mpr hsome
  have hmem :
      s.maxVersion name ∈ (s.family name).map TemplateVersion.version := by
    rw [h.versions_family, h.maxVersion_family]
    exact mem_firstVersions.mpr ⟨by omega, Int.le_refl _⟩
  obtain ⟨t, ht, hversion⟩ := List.mem_map.mp hmem
  exact Option.isSome_iff_exists.mp
    (List.find?_isSome.mpr ⟨t, ht, by simpa using hversion⟩)

/-- Without versions a name has no active one. -/
theorem active?_of_family_nil (h : s.family name = []) :
    s.active? name = none := by
  simp [active?, h]

end Memory

namespace Lifecycle

open Service

variable {s : Memory} {config : Config}

/-- A check that a call passes whenever it can be met, and then the rest. -/
theorem settles_required_bind {β : Type} {condition : Prop}
    {Fits : TemplateVersion → LogEntry → Prop} {result : Except RegistryError β}
    {f : β → Service TemplateVersion}
    (hrequired : condition → ∃ value, result = .ok value)
    (h : ∀ value, result = .ok value →
      Settles (f value) (s.AppendsIf condition Fits) s) :
    Settles (ofExcept result >>= f) (s.AppendsIf condition Fits) s := by
  refine settles_ofExcept_bind
    (fun error herror => .refused fun hcondition => ?_) h
  obtain ⟨value, hvalue⟩ := hrequired hcondition
  cases herror.symm.trans hvalue

/-- What the check of an author lets through. -/
theorem validateAuthor_eq_ok_iff {author : String} :
    validateAuthor author = .ok () ↔ Text.isBlankText author = false := by
  unfold validateAuthor
  cases Text.isBlankText author <;> simp

/-! ### Creating a template -/

/-- A request that can be met: its name, author and fields are valid, and the
name is free. -/
structure TemplateRequest.Admissible (s : Memory) (request : TemplateRequest) :
    Prop where
  name : validateName request.name = .ok ()
  author : Text.isBlankText request.author = false
  fields : ∃ fields, request.fields.validated = .ok fields
  free : s.family request.name = []

/-- What is written for a template that is created. -/
structure TemplateRequest.WrittenAs (request : TemplateRequest)
    (t : TemplateVersion) (e : LogEntry) : Prop where
  name : t.name = request.name
  fields : request.fields.validated = .ok t.fields
  author : t.createdBy = request.author ∧ e.author = request.author
  previousId : t.previousId = none
  action : e.action? = some .created
  notes : e.notes = none
  /-- There is no version before. -/
  metadata : e.metadata = []

/-- A family is created exactly if its request is admissible. -/
theorem settles_createTemplate (h : s.Consistent) (request : TemplateRequest) :
    Settles (createTemplate config request)
      (s.AppendsIf (request.Admissible s) request.WrittenAs) s := by
  unfold createTemplate
  refine settles_required_bind (fun h => ⟨(), h.name⟩) fun _ hname => ?_
  refine settles_required_bind
    (fun h => ⟨(), validateAuthor_eq_ok_iff.mpr h.author⟩)
    fun _ hauthor => ?_
  refine settles_required_bind (fun h => h.fields) fun fields hfields => ?_
  refine settles_read_bind (fun _ => rfl) ?_
  by_cases hfamily : s.family request.name = []
  · have hzero := (h.maxVersion_eq_zero_iff request.name).mpr hfamily
    rw [if_neg (hzero.symm ▸ Int.lt_irrefl 0)]
    refine settles_call
      (.inserted ?_ ?_ (iff_of_true rfl rfl) ?_ rfl rfl fun now => ?_)
    · exact ⟨hname, validateAuthor_eq_ok_iff.mp hauthor, ⟨fields, hfields⟩,
        hfamily⟩
    · show 1 = s.maxVersion request.name + 1
      omega
    · exact fun _ => Memory.active?_of_family_nil hfamily
    · exact ⟨rfl, hfields, ⟨rfl, rfl⟩, rfl, NewLogEntry.action?_withId ..,
        rfl, rfl⟩
  · have hpos : 0 < s.maxVersion request.name := by
      rw [h.maxVersion_family]
      exact Int.natCast_pos.mpr (List.length_pos_iff.mpr hfamily)
    rw [if_pos hpos]
    exact settles_fail (.refused fun hadmissible => hfamily hadmissible.free)

/-! ### Adding a version -/

/-- A request that can be met: its name, author, notes and fields are valid, the
name has versions, and the next of them is the one that is expected, if one
is. -/
structure VersionRequest.Admissible (s : Memory) (request : VersionRequest) :
    Prop where
  name : validateName request.templateName = .ok ()
  author : Text.isBlankText request.author = false
  notes : validateNotes? request.notes = .ok ()
  fields : ∃ fields, request.fields.validated = .ok fields
  taken : s.family request.templateName ≠ []
  expected : ∀ n, request.expectedVersion = some n →
    n = s.maxVersion request.templateName + 1

/-- What is written for a version that is added. -/
structure VersionRequest.WrittenAs (s : Memory) (request : VersionRequest)
    (t : TemplateVersion) (e : LogEntry) : Prop where
  name : t.name = request.templateName
  fields : request.fields.validated = .ok t.fields
  author : t.createdBy = request.author ∧ e.author = request.author
  previousId : ∃ highest ∈ s.family request.templateName,
    highest.version = s.maxVersion request.templateName ∧
    t.previousId = some highest.id
  action : e.action? = some .created
  notes : e.notes = request.notes
  metadata : e.metadata =
    [("previous_version", Value.ofInt (s.maxVersion request.templateName))]

/-- An expected number is accepted if it is the next one. -/
theorem checkExpected_eq_ok_iff {name : String} {next : Int}
    {expected : Option Int} :
    checkExpected name next expected = .ok () ↔
      ∀ n, expected = some n → n = next := by
  unfold checkExpected
  cases expected with
  | none => simp
  | some n => by_cases hn : n = next <;> simp [hn]

/-- A version is created exactly if its request is admissible. -/
theorem settles_createVersion (h : s.Consistent) (request : VersionRequest) :
    Settles (createVersion config request)
      (s.AppendsIf (request.Admissible s) (request.WrittenAs s)) s := by
  unfold createVersion
  refine settles_required_bind (fun h => ⟨(), h.name⟩) fun _ hname => ?_
  refine settles_required_bind
    (fun h => ⟨(), validateAuthor_eq_ok_iff.mpr h.author⟩)
    fun _ hauthor => ?_
  refine settles_required_bind (fun h => ⟨(), h.notes⟩) fun _ hnotes => ?_
  refine settles_required_bind (fun h => h.fields) fun fields hfields => ?_
  refine settles_read_bind (fun _ => rfl) ?_
  by_cases hfamily : s.family request.templateName = []
  · rw [if_pos ((h.maxVersion_eq_zero_iff _).mpr hfamily)]
    exact settles_fail (.refused fun hadmissible => hadmissible.taken hfamily)
  have hne := mt (h.maxVersion_eq_zero_iff request.templateName).mp hfamily
  rw [if_neg hne]
  refine settles_required_bind
    (fun h => ⟨(), checkExpected_eq_ok_iff.mpr h.expected⟩)
    fun _ hexpected => ?_
  obtain ⟨highest, hhighest⟩ := h.exists_highest hfamily
  have hversion : highest.version = s.maxVersion request.templateName := by
    simpa using List.find?_some hhighest
  refine settles_found_bind (fun _ => rfl) (fun hnone => ?_)
    fun latest hlatest => ?_
  · cases hnone.symm.trans hhighest
  obtain rfl := Option.some.inj (hlatest.symm.trans hhighest)
  have hmem := List.mem_of_find?_eq_some hlatest
  refine settles_call (.inserted ?_ rfl ?_ ?_ rfl rfl fun now => ?_)
  · exact ⟨hname, validateAuthor_eq_ok_iff.mp hauthor, hnotes,
      ⟨fields, hfields⟩, hfamily, checkExpected_eq_ok_iff.mp hexpected⟩
  · refine iff_of_false Bool.false_ne_true fun hfirst => hne ?_
    have hone : s.maxVersion request.templateName + 1 = 1 := hfirst
    omega
  · exact fun hactive => (Bool.false_ne_true hactive).elim
  · exact ⟨rfl, hfields, ⟨rfl, rfl⟩, ⟨latest, hmem, hversion, rfl⟩,
      NewLogEntry.action?_withId .., rfl, rfl⟩

/-! ### Rolling back -/

/-- A table of two keys in order. -/
theorem ofList_pair {α : Type} {a b : String} (x y : α) (hne : b ≠ a)
    (hlt : ¬ b < a) :
    Table.ofList [(a, x), (b, y)] = [(a, x), (b, y)] := by
  simp only [Table.ofList, List.foldl, Table.insert, if_neg hne, if_neg hlt]

/-- The metadata of going back: the version left and the one copied. -/
theorem rollbackMetadata_eq (left copied : Int) :
    rollbackMetadata left copied =
      [("rolled_back_from", Value.ofInt left),
        ("rolled_back_to", Value.ofInt copied)] :=
  ofList_pair _ _ (by decide +kernel) (by decide +kernel)

/-- Two versions of one template that a rollback is between: the one it leaves,
by its id, and the one it copies, by its number. -/
structure Between (s : Memory) (id version : Int)
    (left copied : TemplateVersion) : Prop where
  leaves : s.template? id = some left
  copies : copied ∈ s.family left.name
  version : copied.version = version

/-- What is written for a rollback. -/
structure RolledBackAs (s : Memory) (id version : Int) (author : String)
    (t : TemplateVersion) (e : LogEntry) : Prop where
  copies : ∃ left copied, Between s id version left copied ∧
    t.name = left.name ∧ t.fields = copied.fields ∧
    e.metadata = [("rolled_back_from", Value.ofInt left.version),
      ("rolled_back_to", Value.ofInt version)]
  author : t.createdBy = author ∧ e.author = author
  previousId : t.previousId = some id
  action : e.action? = some .rollback
  notes : e.notes = none

/-- Going back to a version succeeds exactly if there is a version to leave and
one to copy. -/
theorem settles_rollback (h : s.Consistent) (id version : Int)
    (author : String) :
    Settles (rollback config id version author)
      (s.AppendsIf (Text.isBlankText author = false ∧
          ∃ left copied, Between s id version left copied)
        (RolledBackAs s id version author)) s := by
  unfold rollback getTemplate
  refine settles_required_bind (fun h => ⟨(), validateAuthor_eq_ok_iff.mpr h.1⟩)
    fun _ hauthor => ?_
  refine settles_found_bind (fun _ => rfl) (fun hnone => .refused ?_)
    fun left hleft => ?_
  · intro hcondition
    obtain ⟨-, left, copied, hbetween⟩ := hcondition
    cases hnone.symm.trans hbetween.leaves
  refine settles_found_bind (fun _ => rfl) (fun hnone => .refused ?_)
    fun copied hcopied => ?_
  · intro hcondition
    obtain ⟨-, left', copied, hbetween⟩ := hcondition
    obtain rfl := Option.some.inj (hleft.symm.trans hbetween.leaves)
    simpa [hbetween.version]
      using List.find?_eq_none.mp hnone copied hbetween.copies
  have hmem := List.mem_of_find?_eq_some hcopied
  have hversion : copied.version = version := by
    simpa using List.find?_some hcopied
  have hbetween : Between s id version left copied := ⟨hleft, hmem, hversion⟩
  have hne :=
    mt (h.maxVersion_eq_zero_iff left.name).mp (List.ne_nil_of_mem hmem)
  refine settles_read_bind (fun _ => rfl) (settles_call
    (.inserted ?_ rfl ?_ ?_ rfl rfl fun now => ?_))
  · exact ⟨validateAuthor_eq_ok_iff.mp hauthor, left, copied, hbetween⟩
  · refine iff_of_false Bool.false_ne_true fun hfirst => hne ?_
    have hone : s.maxVersion left.name + 1 = 1 := hfirst
    omega
  · exact fun hactive => (Bool.false_ne_true hactive).elim
  · have hid : some left.id = some id :=
      congrArg some (Memory.template?_mem hleft).2
    exact ⟨⟨left, copied, hbetween, rfl, rfl, rollbackMetadata_eq ..⟩,
      ⟨rfl, rfl⟩, hid, NewLogEntry.action?_withId .., rfl⟩

/-! ### The three calls -/

/-- **What is appended.**  In every state that managers lead to one after
another, each call that adds a version succeeds just when it can be met, and
then it adds the next version of its name and the log entry for it, and nothing
else. -/
theorem appended_versions_exact (h : Managed s) (config : Config) :
    (∀ request result after,
      Program.Runs (I := StoreCalls) Memory.Answers
        (createTemplate config request).run s result after →
      s.AppendsIf (request.Admissible s) request.WrittenAs result after) ∧
    (∀ request result after,
      Program.Runs (I := StoreCalls) Memory.Answers
        (createVersion config request).run s result after →
      s.AppendsIf (request.Admissible s) (request.WrittenAs s) result after) ∧
    ∀ id version author result after,
      Program.Runs (I := StoreCalls) Memory.Answers
        (rollback config id version author).run s result after →
      s.AppendsIf (Text.isBlankText author = false ∧
          ∃ left copied, Between s id version left copied)
        (RolledBackAs s id version author) result after := by
  have hconsistent := (faithful_of_managed h).consistent
  refine ⟨fun request result after hruns => ?_,
    fun request result after hruns => ?_,
    fun id version author result after hruns => ?_⟩
  · exact (settles_createTemplate hconsistent request).of_runs hruns
  · exact (settles_createVersion hconsistent request).of_runs hruns
  · exact (settles_rollback hconsistent id version author).of_runs hruns

/-- A greeting that was deleted and created again is rolled back from its second
version to its first, which adds a fourth. -/
theorem appended_versions_exact_greeting :
    Managed (afterCalls greetingCalls) ∧
    ∃ t e after,
      Program.Runs (I := StoreCalls) Memory.Answers
        (rollback .default 5 1 "eve").run (afterCalls greetingCalls)
        (.ok t) after ∧
      (afterCalls greetingCalls).Appended t e after ∧
      t.name = "greeting" ∧ t.version = 4 ∧ t.fields.content = "Hi" ∧
      t.previousId = some 5 := by
  have hmanaged := managed_afterCalls greetingCalls
  obtain ⟨result, after, hruns, hvalue⟩ : ∃ result after,
      Program.Runs (I := StoreCalls) Memory.Answers
        (rollback .default 5 1 "eve").run
        (afterCalls greetingCalls) result after ∧
      result.map
          (fun t => (t.name, t.version, t.fields.content, t.previousId)) =
        .ok ("greeting", 4, "Hi", some 5) :=
    ⟨_, _, Program.runs_run (Memory.answers_reply ⟨0, 0⟩) _ _, rfl⟩
  obtain ⟨-, -, hrollback⟩ := appended_versions_exact hmanaged .default
  cases result with
  | error error => cases hvalue
  | ok t =>
      obtain ⟨e, hadded, -⟩ := (hrollback 5 1 "eve" _ _ hruns).appended t rfl
      have hfacts := Except.ok.inj hvalue
      simp only [Prod.mk.injEq] at hfacts
      exact ⟨hmanaged, t, e, after, hruns, hadded, hfacts⟩

/-- The first version of a name has none before it, and its entry tells of
none. -/
theorem first_entry_without_previous_version :
    ¬ ∀ s, Managed s → ∀ (config : Config) (request : TemplateRequest) t after,
      Program.Runs (I := StoreCalls) Memory.Answers
        (createTemplate config request).run s (.ok t) after →
      ∃ e, after.log = s.log ++ [e] ∧
        (Table.get? "previous_version" e.metadata =
            some (Value.ofInt (s.maxVersion request.name)) ∨
          (Table.get? "rolled_back_from" e.metadata).isSome) := by
  intro hall
  have hruns := Program.runs_run (I := StoreCalls) (Memory.answers_reply ⟨0, 0⟩)
    (createTemplate .default ⟨"greeting",
      ⟨"Hello", defaultCategory, [], []⟩, "ann"⟩).run .empty
  obtain ⟨e, hlog, hmetadata⟩ := hall _ .empty .default _ _ _ hruns
  obtain rfl :
      (NewLogEntry.withId 2 ⟨0, 0⟩ ⟨"greeting", 1, .created, "ann", none,
        []⟩) = e :=
    List.head_eq_of_cons_eq hlog
  rcases hmetadata with hprevious | hrolledBack
  · cases hprevious
  · cases hrolledBack

end Lifecycle

end TemplateRegistry
