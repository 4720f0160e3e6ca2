import TemplateRegistry.Proofs.DatabaseReads
/-!
# Writing templates in the database

Each write of the store in the database checks, under the lock of its rows, what
the store in memory checks, and then sends the statements that make of the
records what that store makes of them: a version, its declarations in their
order and its log entry; the version that steps aside and the one that takes
over, each with its entry; the log and the versions of a family; the record of a
render.

* `versionWrites`, `swapWrites` — the statements of an insertion and of a swap;
* `written_versionWrites`, `written_swapWrites`, `written_deletion` — what they
  make of a state;
* `insertVersion_agrees`, `swapActive_agrees`, `deleteFamily_agrees`,
  `recordTemplateUsage_agrees` — the calls.
-/

namespace TemplateRegistry.Database

open Dialogue

variable {s : Memory}

/-! ## Writing a version -/

/-- The statements that write declarations, the first of them at a place. -/
def parameterWrites (id : Int) (position : Nat) :
    List ParameterDef → List Statement
  | [] => []
  | param :: rest =>
    .insertParameter id position param :: parameterWrites id (position + 1) rest

/-- The statements that write a version. -/
def versionWrites (id : Int) (new : NewVersion) (entry : NewLogEntry) :
    List Statement :=
  .insertTemplate new ::
    (parameterWrites id 0 new.fields.parameters ++ [.insertLogEntry entry])

/-- Declarations are inserted one by one, and the journal has each of them. -/
theorem ensures_insertParameters {Q : Except EngineError Unit → Session → Prop}
    {id : Int} {params : List ParameterDef} {position : Nat} {records : Memory}
    {writes : List Statement}
    (h : ∀ after,
      Q (.ok ())
        ⟨after, [], some (writes ++ parameterWrites id position params)⟩) :
    Ensures (insertParameters id position params) Q
      ⟨records, [], some writes⟩ := by
  induction params generalizing position records writes with
  | nil =>
      have hend := h records
      rw [parameterWrites, List.append_nil] at hend
      exact hend
  | cons param rest ih =>
      refine ensures_sendOr_bind fun _ _ _ after _ _ => ih fun after => ?_
      have hend := h after
      rw [parameterWrites, List.append_cons] at hend
      exact hend

/-- What is left of an insertion once it is checked. -/
theorem ensures_writeVersion {new : NewVersion} {entry : NewLogEntry}
    {Q : Except EngineError TemplateVersion → Session → Prop}
    (h : ∀ id now after, (∀ t ∈ s.templates, t.id ≠ id) →
      Q (.ok (new.withId id now).row)
        ⟨after, [], some (versionWrites id new entry)⟩) :
    Ensures (do
      let row ← sendOr (insertFailure new) (.insertTemplate new)
      insertParameters row.id 0 new.fields.parameters
      let _ ← send (.insertLogEntry entry)
      return row) Q ⟨s, [], some []⟩ := by
  refine ensures_sendOr_bind fun id now row after hrow _ => ?_
  obtain ⟨rfl, hfresh⟩ := hrow
  refine ensures_bind (ensures_insertParameters fun after => ?_)
  exact ensures_sendOr_bind fun _ _ _ after _ _ => h id now after hfresh

/-- A declaration is added to the version it is of, after those it has. -/
theorem addParameter_addVersion {t : TemplateVersion}
    (hfresh : ∀ u ∈ s.templates, u.id ≠ t.id) (first : List ParameterDef)
    (param : ParameterDef) :
    (s.addVersion { t with parameters := first }).addParameter t.id
      first.length param =
      s.addVersion { t with parameters := first ++ [param] } := by
  have hothers : (s.templates.map fun u =>
      if u.id = t.id then
        { u with parameters := u.parameters.take first.length ++
            param :: u.parameters.drop first.length }
      else u) = s.templates := by
    conv_rhs => rw [← List.map_id s.templates]
    exact List.map_congr_left fun u hu => if_neg (hfresh u hu)
  simp [Memory.addParameter, Memory.addVersion, hothers]

/-- Declarations are added in their order. -/
theorem written_parameterWrites {t : TemplateVersion}
    (hfresh : ∀ u ∈ s.templates, u.id ≠ t.id) (now : Timestamp)
    (first params : List ParameterDef) :
    (s.addVersion { t with parameters := first }).written now
        (parameterWrites t.id first.length params) =
      s.addVersion { t with parameters := first ++ params } := by
  induction params generalizing first with
  | nil => rw [List.append_nil, parameterWrites, Memory.written]
  | cons param rest ih =>
      have hnext := ih (first ++ [param])
      have hplace : (first ++ [param]).length = first.length + 1 := by simp
      rw [hplace, ← addParameter_addVersion hfresh, List.append_assoc] at hnext
      rw [parameterWrites, Memory.written, Statement.carryOut_insertParameter]
      exact hnext

/-- The statements of a version write the version with its declarations, and its
entry of the log. -/
theorem written_versionWrites {new : NewVersion} {id : Int}
    (hfresh : ∀ u ∈ s.templates, u.id ≠ id) (now : Timestamp)
    (entry : NewLogEntry) :
    Memory.written now (versionWrites id new entry)
        { s with lastId := id - 1 } =
      (s.addVersion (new.withId id now)).appendLog now entry := by
  have hid : id - 1 + 1 = id := Int.sub_add_cancel id 1
  have hparams := written_parameterWrites (t := new.withId id now) hfresh now []
    new.fields.parameters
  rw [versionWrites, Memory.written, hid, Memory.written_append]
  have hfirst :
      (Statement.insertTemplate new).carryOut id now
        { s with lastId := id - 1 } =
      s.addVersion (new.withId id now).row :=
    Statement.carryOut_insertTemplate ..
  have hall : (s.addVersion (new.withId id now).row).written now
      (parameterWrites id 0 new.fields.parameters) =
        s.addVersion (new.withId id now) := hparams
  rw [hfirst, hall, Memory.written, Statement.carryOut_insertLogEntry]
  rfl

/-- Rows that are inserted are all there is to change. -/
theorem allChange_of_inserts {writes : List Statement}
    (h : ∀ write ∈ writes, ∀ s, write.Changes s) (now : Timestamp)
    (s : Memory) :
    s.AllChange now writes := by
  induction writes generalizing s with
  | nil => exact trivial
  | cons write rest ih =>
      exact ⟨h write List.mem_cons_self s,
        ih (fun other hother => h other (List.mem_cons_of_mem _ hother)) _⟩

/-- All of them add a row. -/
theorem changes_versionWrites (id : Int) (new : NewVersion)
    (entry : NewLogEntry) :
    ∀ write ∈ versionWrites id new entry, ∀ s, write.Changes s := by
  have hparams : ∀ (params : List ParameterDef) (position : Nat),
      ∀ write ∈ parameterWrites id position params, ∀ s, write.Changes s := by
    intro params
    induction params with
    | nil => intro position write hwrite; simp [parameterWrites] at hwrite
    | cons param rest ih =>
        intro position write hwrite
        rcases List.mem_cons.mp hwrite with rfl | hrest
        · exact fun _ => trivial
        · exact ih (position + 1) write hrest
  intro write hwrite
  rcases List.mem_cons.mp hwrite with rfl | hrest
  · exact fun _ => trivial
  · rcases List.mem_append.mp hrest with hparam | hentry
    · exact hparams new.fields.parameters 0 write hparam
    · obtain rfl := List.mem_singleton.mp hentry
      exact fun _ => trivial

/-- An insertion that passed the checks of the store in memory. -/
theorem agrees_of_inserted {new : NewVersion} {entry : NewLogEntry}
    (hcheck :
      checkSequence new.name (s.maxVersion new.name) new.version = .ok ())
    (hfree : new.isActive = true → s.active? new.name = none) {id : Int}
    (now : Timestamp) (hfresh : ∀ t ∈ s.templates, t.id ≠ id) (after : Memory) :
    Agrees s (.insertVersion new entry) (.ok (new.withId id now))
      ⟨after, versionWrites id new entry, none⟩ := by
  have hanswer :
      Memory.answer now (.insertVersion new entry) { s with lastId := id - 1 } =
      (.ok (new.withId id now),
        (s.addVersion (new.withId id now)).appendLog now entry) := by
    have hinsert :=
      Memory.insertVersion_of_checked
        (s := { s with lastId := id - 1 }) hcheck hfree
      now entry
    simp only [Int.sub_add_cancel] at hinsert
    exact hinsert
  refine agrees_of_answer _ hanswer ?_ (fun _ => ?_) after
  · rw [written_versionWrites hfresh]
  · exact allChange_of_inserts (changes_versionWrites id new entry) now _

/-- The check on active versions is decided by the active one of the family. -/
theorem checkNoneActive_rows (name : String) (s : Memory) :
    checkNoneActive name ((s.family name).map TemplateVersion.row) =
      match s.active? name with
      | some active => .error (.alreadyActive name active.version)
      | none => .ok () := by
  have hfind :
      ((s.family name).map TemplateVersion.row).find? TemplateVersion.isActive =
      (s.active? name).map TemplateVersion.row := List.find?_map
  rw [checkNoneActive, hfind]
  cases s.active? name with
  | none => rfl
  | some active => rfl

/-- Storing a version does what the store in memory does. -/
theorem insertVersion_agrees (h : s.Consistent) (new : NewVersion)
    (entry : NewLogEntry) :
    Ensures (insertVersion new entry) (Agrees s (.insertVersion new entry))
      ⟨s, .empty⟩ := by
  refine ensures_bind
    (ensures_transaction (ensures_query_bind rfl
      fun _ now family hfamily => ?_))
  obtain rfl := Memory.family_of_reply h hfamily
  have hhighest :
    highestVersion (((s.family new.name).map TemplateVersion.row).map
      TemplateVersion.version) = s.maxVersion new.name := by
    rw [List.map_map]
    rfl
  simp only [hhighest]
  refine ensures_ofExcept_bind (fun error herror after => ?_) fun _ hcheck => ?_
  · refine agrees_of_unchanged (.insertVersion new entry) now
      (.error error) ?_ _
    simp [Memory.answer, Memory.insertVersion, herror]
  · cases hactive : new.isActive with
    | true =>
        rw [if_pos rfl]
        refine ensures_ofExcept_bind (fun error herror after => ?_)
          fun _ hfree => ?_
        · rw [checkNoneActive_rows] at herror
          refine agrees_of_unchanged (.insertVersion new entry) now
            (.error error) ?_ _
          cases htaken : s.active? new.name with
          | none => simp [htaken] at herror
          | some active =>
              rw [htaken] at herror
              obtain rfl := Except.error.inj herror
              simp [Memory.answer, Memory.insertVersion, hcheck,
                hactive, htaken]
        · refine ensures_writeVersion fun id now after hfresh => ?_
          refine agrees_of_inserted hcheck (fun _ => ?_) now hfresh after
          rw [checkNoneActive_rows] at hfree
          cases htaken : s.active? new.name with
          | none => rfl
          | some active => simp [htaken] at hfree
    | false =>
        rw [if_neg (by simp)]
        refine ensures_writeVersion fun id now after hfresh => ?_
        exact agrees_of_inserted hcheck (fun htrue => by
          simp [hactive] at htrue) now hfresh after

/-! ## Making a version active -/

/-- The version of an id is found among those of its name. -/
theorem find?_family (h : s.Consistent) {t : TemplateVersion}
    (ht : s.template? t.id = some t) :
    (s.family t.name).find? (fun u => u.id = t.id) = some t := by
  have hmem : t ∈ s.family t.name :=
    Memory.mem_family.mpr ⟨(Memory.template?_mem ht).1, rfl⟩
  cases hfind : (s.family t.name).find? fun u => u.id = t.id with
  | none => simpa using List.find?_eq_none.mp hfind t hmem
  | some u =>
      have hid : u.id = t.id := by simpa using List.find?_some hfind
      have hu := (Memory.mem_family.mp (List.mem_of_find?_eq_some hfind)).1
      rw [h.template_eq hu (Memory.mem_family.mp hmem).1 hid]

/-- The statements that make a version inactive, in favour of another. -/
def asideWrites (target : TemplateVersion) (author : String)
    (notes : Option String) :
    Option TemplateVersion → List Statement
  | none => []
  | some old => [.setTemplateActive old.id false,
      .insertLogEntry
        (.deactivated target.name old.ref target.ref author notes)]

/-- The statements that make a version active. -/
def swapWrites (target : TemplateVersion) (author : String)
    (notes : Option String) (previous : Option TemplateVersion) :
    List Statement :=
  asideWrites target author notes previous ++
    [.setTemplateActive target.id true] ++
    [.insertLogEntry (.activated target.name target.ref
      (previous.map TemplateVersion.ref) author notes)]

/-- The statements of a swap make the swap. -/
theorem written_swapWrites (now : Timestamp) (target : TemplateVersion)
    (author : String) (notes : Option String) (s : Memory) :
    s.written now (swapWrites target author notes (s.otherActive? target)) =
      s.swapped now target author notes := by
  simp only [Memory.swapped, swapWrites, List.append_assoc,
    Memory.written_append]
  cases s.otherActive? target with
  | none =>
      simp only [asideWrites, Memory.written,
        Statement.carryOut_setTemplateActive, Statement.carryOut_insertLogEntry]
      rfl
  | some old =>
      simp only [asideWrites, Memory.written,
        Statement.carryOut_setTemplateActive, Statement.carryOut_insertLogEntry]
      rfl

/-- None of them is idle: the version that goes was active, and the one that
comes was not. -/
theorem changes_swapWrites (now : Timestamp) {target : TemplateVersion}
    (htarget : s.template? target.id = some target)
    (hinactive : target.isActive = false) (author : String)
    (notes : Option String) :
    s.AllChange now
      (swapWrites target author notes (s.otherActive? target)) := by
  have haside := (Memory.template?_mem
    (Memory.template?_stepAside htarget now author notes)).1
  rw [swapWrites]
  cases hother : s.otherActive? target with
  | none =>
      rw [hother] at haside
      exact ⟨⟨target, haside, rfl, by simp [hinactive]⟩, trivial, trivial⟩
  | some old =>
      obtain ⟨hold, -, hactive, -⟩ := Memory.otherActive?_mem hother
      rw [hother] at haside
      exact ⟨⟨old, hold, rfl, by simp [hactive]⟩, trivial,
        ⟨target, haside, rfl, by simp [hinactive]⟩, trivial, trivial⟩

/-- A session that made the swap agrees. -/
theorem agrees_of_swapped {target : TemplateVersion}
    (htarget : s.template? target.id = some target)
    (hinactive : target.isActive = false) (now : Timestamp) (author : String)
    (notes : Option String) (after : Memory) :
    Agrees s (.swapActive target.id author notes)
      (.ok { target with isActive := true, updatedAt := now })
      ⟨after, swapWrites target author notes (s.otherActive? target),
        none⟩ := by
  have hanswer : Memory.answer now (.swapActive target.id author notes) s =
      (.ok { target with isActive := true, updatedAt := now },
        s.swapped now target author notes) :=
    Memory.swapActive_of_inactive htarget hinactive now author notes
  refine agrees_of_answer _ hanswer ?_ (fun _ => ?_) after
  · rw [← written_swapWrites]
  · exact changes_swapWrites now htarget hinactive author notes

/-- Switching a version leaves the ids alone. -/
theorem templateIds_setActive (now : Timestamp) (id : Int) (isActive : Bool)
    (s : Memory) :
    (s.setActive now id isActive).templates.map TemplateVersion.id =
      s.templates.map TemplateVersion.id := by
  rw [Memory.setActive, List.map_map]
  refine List.map_congr_left fun t _ => ?_
  simp only [Function.comp]
  split <;> rfl

/-- Making place for a version leaves that version as it is, and all ids. -/
theorem ensures_deactivatePrevious {target : TemplateVersion}
    (htarget : s.template? target.id = some target)
    (hids : (s.templates.map TemplateVersion.id).Nodup) {author : String}
    {notes : Option String} {Q : Except EngineError Unit → Session → Prop}
    (hQ : ∀ after, (after.templates.map TemplateVersion.id).Nodup →
      after.template? target.id = some target →
      Q (.ok ())
        ⟨after, [],
          some (asideWrites target author notes (s.otherActive? target))⟩) :
    Ensures (deactivatePrevious target.name target.ref author notes
      ((s.otherActive? target).map TemplateVersion.row)) Q
        ⟨s, [], some []⟩ := by
  cases hother : s.otherActive? target with
  | none =>
      rw [hother] at hQ
      exact hQ s hids htarget
  | some old =>
      rw [hother] at hQ
      have hne : target.id ≠ old.id :=
        (Memory.otherActive?_mem hother).2.2.2.symm
      refine ensures_sendOr_bind fun id now row after _ hafter => ?_
      obtain rfl : after = s.setActive now old.id false := hafter
      refine ensures_sendOr_bind fun id' now' entry after _ hafter => ?_
      obtain rfl : after = (Statement.insertLogEntry _).carryOut id' now'
        (s.setActive now old.id false) := hafter
      refine hQ _ ?_ ?_
      · show ((s.setActive now old.id false).templates.map
          TemplateVersion.id).Nodup
        rw [templateIds_setActive]
        exact hids
      · have hset := Memory.template?_setActive now old.id target.id false s
        rw [htarget, Option.map_some, if_neg hne] at hset
        exact hset

/-- What is left of making a version active once it is known to be inactive. -/
theorem ensures_activate (h : s.Consistent) {target : TemplateVersion}
    (htarget : s.template? target.id = some target)
    (hinactive : target.isActive = false) {author : String}
    {notes : Option String} {previous : Option TemplateVersion}
    (hprevious : previous = (s.otherActive? target).map TemplateVersion.row) :
    Ensures (do
      deactivatePrevious target.name target.ref author notes previous
      let row ← sendOr (.ofDatabase "Template" target.name)
        (.setTemplateActive target.id true)
      let activated ← found (.templateNotFound (toString target.id)) row
      let _ ← send (.insertLogEntry
        (.activated target.name target.ref (previous.map TemplateVersion.ref)
          author notes))
      return Swap.activated target.name activated)
      (Ended (Afterwards (fun swap => withParameters swap.target)
        (Agrees s (.swapActive target.id author notes)))) ⟨s, [], some []⟩ := by
  have href : previous.map TemplateVersion.ref =
      (s.otherActive? target).map TemplateVersion.ref := by
    rw [hprevious, Option.map_map]
    rfl
  rw [href, hprevious]
  refine ensures_bind (ensures_deactivatePrevious htarget h.templateIds
    fun aside hids hstays => ?_)
  refine ensures_sendOr_bind fun _ now row after hrow hafter => ?_
  obtain rfl : after = aside.setActive now target.id true := hafter
  have hset := Memory.template?_setActive now target.id target.id true aside
  rw [hstays, Option.map_some, if_pos rfl] at hset
  rw [← templateIds_setActive now target.id true] at hids
  obtain rfl := Memory.template_of_firstOf hids hrow
  rw [hset]
  refine ensures_found_bind (fun hnone => by simp at hnone) fun row hrow => ?_
  obtain rfl := Option.some.inj hrow
  refine ensures_sendOr_bind fun id' now' _ after _ hafter => ?_
  obtain rfl : after = (Statement.insertLogEntry _).carryOut id' now'
    (aside.setActive now target.id true) := hafter
  refine ensures_withParameters hids (Memory.template?_mem hset).1 ?_
  exact agrees_of_swapped htarget hinactive now author notes _

/-- Making a version active does what the store in memory does. -/
theorem swapActive_agrees (h : s.Consistent) (id : Int) (author : String)
    (notes : Option String) :
    Ensures (swapActive id author notes)
      (Agrees s (.swapActive id author notes)) ⟨s, .empty⟩ := by
  refine ensures_bind
    (ensures_transaction (ensures_query_bind rfl fun _ now row hrow => ?_))
  obtain rfl := Memory.template_of_firstOf h.templateIds hrow
  cases htarget : s.template? id with
  | none =>
      refine ensures_found_bind (fun _ after => ?_) fun row hrow => by
        simp at hrow
      refine agrees_of_unchanged (.swapActive _ author notes) now
        (.error _) ?_ _
      rw [Memory.answer, Memory.swapActive, htarget]
  | some target =>
      obtain ⟨hmem, rfl⟩ := Memory.template?_mem htarget
      refine ensures_found_bind (fun hnone => by simp at hnone)
        fun row hrow => ?_
      obtain rfl := Option.some.inj hrow
      refine ensures_query_bind rfl fun _ _ family hfamily => ?_
      obtain rfl := Memory.family_of_reply h hfamily
      have hfind : ((s.family target.name).map TemplateVersion.row).find?
          (fun t => t.id = target.id) = some target.row := by
        rw [List.find?_map]
        exact congrArg _ (find?_family h htarget)
      have hprevious :
          ((s.family target.row.name).map TemplateVersion.row).find?
          (fun t => t.isActive && t.id ≠ target.id) =
            (s.otherActive? target).map TemplateVersion.row := List.find?_map
      refine ensures_found_bind (fun hnone => ?_) fun row hrow => ?_
      · exact absurd (hnone.symm.trans hfind) (by simp)
      · obtain rfl := Option.some.inj (hfind.symm.trans hrow)
        cases hactive : target.isActive with
        | true =>
            rw [if_pos (show target.row.isActive = true from hactive)]
            refine ensures_withParameters h.templateIds hmem ?_
            refine agrees_of_unchanged (.swapActive _ author notes) now
              (.ok target) ?_ _
            simp [Memory.answer, Memory.swapActive, htarget, hactive]
        | false =>
            rw [if_neg (show ¬ target.row.isActive = true by
              simp [TemplateVersion.row, hactive])]
            exact ensures_activate h htarget hactive hprevious

/-! ## Deleting a family, recording a render -/

/-- The two statements of a deletion leave nothing of the family. -/
theorem written_deletion (h : s.Consistent) (now : Timestamp) (name : String) :
    s.written now [.deleteLog name, .deleteTemplates name] =
      s.withoutFamily name := by
  have htemplates := Memory.templates_withoutFamily h name
  have hall : s.withoutFamily name =
      { s.withoutFamily name with
        templates := (s.withoutFamily name).templates } := rfl
  rw [hall, htemplates]
  rfl

/-- Deleting a family does what the store in memory does. -/
theorem deleteFamily_agrees (h : s.Consistent) (name : String) :
    Ensures (deleteFamily name) (Agrees s (.deleteFamily name))
      ⟨s, .empty⟩ := by
  refine ensures_transaction
    (ensures_query_bind rfl fun _ now family hfamily => ?_)
  obtain rfl := Memory.family_of_reply h hfamily
  cases hempty : ((s.family name).map TemplateVersion.row).isEmpty with
  | true =>
      have hfamily : s.family name = [] :=
        List.map_eq_nil_iff.mp (List.isEmpty_iff.mp hempty)
      rw [if_pos rfl]
      refine ensures_fail fun after => ?_
      refine agrees_of_unchanged (.deleteFamily name) now (.error _) ?_ _
      simp [Memory.answer, Memory.deleteFamily, hfamily]
  | false =>
      rw [if_neg (by simp)]
      refine ensures_sendOr_bind fun id now _ after _ hafter => ?_
      obtain rfl : after = (Statement.deleteLog name).carryOut id now s :=
        hafter
      refine ensures_sendOr fun _ now count after hcount _ => ?_
      have hne : s.family name ≠ [] := by
        intro hnil
        simp [hnil] at hempty
      have hanswer : Memory.answer now (.deleteFamily name) s =
          (.ok (s.family name).length, s.withoutFamily name) := by
        rcases Memory.deleteFamily_cases name s with ⟨hnil, -⟩ | ⟨-, heq⟩
        · exact (hne hnil).elim
        · exact heq
      obtain rfl : count = (s.family name).length := by
        rw [hcount, Memory.filter_templateTable (fun _ => rfl), List.length_map]
        rfl
      refine agrees_of_answer [.deleteLog name, .deleteTemplates name] hanswer
        ?_ (fun _ => ⟨trivial, ?_, trivial⟩) after
      · rw [← written_deletion h now]
      · obtain ⟨t, ht⟩ := List.exists_mem_of_ne_nil _ hne
        exact ⟨t, (Memory.mem_family.mp ht).1, (Memory.mem_family.mp ht).2⟩

/-- Recording a use does what the store in memory does. -/
theorem recordTemplateUsage_agrees (h : s.Consistent)
    (id unresolvedCount : Int) :
    Ensures (recordTemplateUsage id unresolvedCount)
      (Agrees s (.recordTemplateUsage id unresolvedCount)) ⟨s, .empty⟩ := by
  refine ensures_query_bind rfl fun _ now row hrow => ?_
  obtain rfl := Memory.template_of_firstOf h.templateIds hrow
  cases htarget : s.template? id with
  | none =>
      refine ensures_found_bind (fun _ => ?_) fun row hrow => by simp at hrow
      refine agrees_of_unchanged (.recordTemplateUsage id unresolvedCount) now
        (.error _) ?_ _
      rw [Memory.answer, Memory.recordTemplateUsage, htarget]
  | some t =>
      refine ensures_found_bind (fun hnone => by simp at hnone)
        fun row hrow => ?_
      refine ensures_sendOr_bind fun _ now _ after _ _ => ?_
      have hanswer :
          Memory.answer now (.recordTemplateUsage id unresolvedCount) s =
          (.ok (), s.addUsage ⟨s.lastId + 1, id, unresolvedCount, now⟩) := by
        rw [Memory.answer, Memory.recordTemplateUsage, htarget]
        rfl
      exact agrees_of_answer [.insertUsage id unresolvedCount] hanswer rfl
        (fun _ => ⟨trivial, trivial⟩) after

end TemplateRegistry.Database
