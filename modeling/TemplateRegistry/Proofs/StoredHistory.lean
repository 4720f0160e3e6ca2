import TemplateRegistry.Proofs.MemoryFrames
/-!
# What is stored stays as it was written

A store in memory changes very little of what it holds.  A version of a template
is made active or inactive, a component besides counts its uses, and a deletion
takes a template with its log and its usage records; all else of a record is as
it was written for as long as the record is there, and no id is given twice, not
even after the record that had it is gone.

* `StoredRecord`, `StoredRecord.lasting` — the records of all kinds, and the
  part of them that no call changes;
* `Keeps` — what a call, or a run of calls, leaves of the records before it;
* `keeps_effect`, `keeps_afterAll` — every call keeps them, and every run;
* `log_afterAll` — a log entry goes only with the template it is of;
* `stored_history_immutable` — all of this, for the states and calls of any run.
-/

namespace TemplateRegistry

/-- A record of a store, of any kind. -/
inductive StoredRecord
  | template (t : TemplateVersion)
  | component (c : Component)
  | logEntry (e : LogEntry)
  | usage (u : UsageRecord)

namespace StoredRecord

/-- The id of a record. -/
def id : StoredRecord → Int
  | template t => t.id
  | component c => c.id
  | logEntry e => e.id
  | usage u => u.id

/-- A record without what calls may change of it: whether a version is active
and when that changed last, and for a component how often it was used. -/
def lasting : StoredRecord → StoredRecord
  | template t => template { t with isActive := false, updatedAt := ⟨0, 0⟩ }
  | component c =>
    component { c with isActive := false, usageCount := 0, updatedAt := ⟨0, 0⟩ }
  | logEntry e => logEntry e
  | usage u => usage u

/-- What lasts of a record has its id. -/
@[simp] theorem id_lasting (r : StoredRecord) : r.lasting.id = r.id := by
  cases r <;> rfl

/-- Records of which the same lasts have one id. -/
theorem id_eq_of_lasting_eq {r r' : StoredRecord} (h : r.lasting = r'.lasting) :
    r.id = r'.id := by
  rw [← id_lasting r, h, id_lasting]

end StoredRecord

namespace Memory

variable {s after later : Memory} {now : Timestamp} {call : StoreCall}

/-- All records of a state. -/
def records (s : Memory) : List StoredRecord :=
  s.templates.map .template ++ (s.components.map .component ++
    (s.log.map .logEntry ++ s.usage.map .usage))

/-- A record is a version, a component, an entry of the log or a use. -/
theorem mem_records {r : StoredRecord} :
    r ∈ s.records ↔
      (∃ t ∈ s.templates, .template t = r) ∨
      (∃ c ∈ s.components, .component c = r) ∨
      (∃ e ∈ s.log, .logEntry e = r) ∨ ∃ u ∈ s.usage, .usage u = r := by
  simp [records]

theorem map_id_records (s : Memory) :
    s.records.map StoredRecord.id = s.ids := by
  simp only [records, ids, List.map_append, List.map_map]
  rfl

/-- The record of a template version is one of the state just if the version
is. -/
theorem template_mem_records {t : TemplateVersion} :
    StoredRecord.template t ∈ s.records ↔ t ∈ s.templates := by
  simp [records]

/-- The components among the records are those of the store. -/
theorem component_mem_records {c : Component} :
    StoredRecord.component c ∈ s.records ↔ c ∈ s.components := by
  simp [records]

/-- The id of a record was given. -/
theorem Consistent.id_le (h : s.Consistent) {r : StoredRecord}
    (hr : r ∈ s.records) :
    r.id ≤ s.lastId := by
  apply h.idsBounded
  rw [← map_id_records]
  exact List.mem_map_of_mem hr

/-- Records with one id are one. -/
theorem Consistent.record_eq (h : s.Consistent) {r r' : StoredRecord}
    (hr : r ∈ s.records) (hr' : r' ∈ s.records) (hid : r.id = r'.id) :
    r = r' := by
  have hdistinct := h.idsDistinct
  rw [← map_id_records] at hdistinct
  exact List.inj_on_of_nodup_map hdistinct hr hr' hid

/-! ### What is kept -/

/-- What is left of the records of an earlier state: each record there is now
was there then, but for what may change of it, or has an id that was given
since; and no component is gone. -/
structure Keeps (s after : Memory) : Prop where
  counter : s.lastId ≤ after.lastId
  origin : ∀ r ∈ after.records,
    (∃ old ∈ s.records, r.lasting = old.lasting) ∨ s.lastId < r.id
  components : ∀ c ∈ s.components, ∃ d ∈ after.components, d.id = c.id

namespace Keeps

theorem refl (s : Memory) : s.Keeps s :=
  ⟨Int.le_refl _, fun r hr => Or.inl ⟨r, hr, rfl⟩, fun c hc => ⟨c, hc, rfl⟩⟩

theorem trans (h : s.Keeps after) (h' : after.Keeps later) : s.Keeps later := by
  refine ⟨Int.le_trans h.counter h'.counter, fun r hr => ?_, fun c hc => ?_⟩
  · rcases h'.origin r hr with ⟨old, hold, hlasting⟩ | hnew
    · rcases h.origin old hold with ⟨first, hfirst, hlasting'⟩ | hnew
      · exact Or.inl ⟨first, hfirst, hlasting.trans hlasting'⟩
      · rw [← StoredRecord.id_eq_of_lasting_eq hlasting] at hnew
        exact Or.inr hnew
    · exact Or.inr (Int.lt_of_le_of_lt h.counter hnew)
  · obtain ⟨d, hd, hid⟩ := h.components c hc
    obtain ⟨e, he, hid'⟩ := h'.components d hd
    exact ⟨e, he, hid'.trans hid⟩

/-- A record more, with an id beyond the last. -/
theorem of_added {r : StoredRecord} (hid : s.lastId < r.id)
    (hlast : after.lastId = r.id)
    (hrecords : ∀ r' ∈ after.records, r' = r ∨ r' ∈ s.records)
    (hcomponents : ∀ c ∈ s.components, c ∈ after.components) :
    s.Keeps after := by
  refine ⟨by omega, fun r' hr' => ?_, fun c hc => ⟨c, hcomponents c hc, rfl⟩⟩
  rcases hrecords r' hr' with rfl | hold
  · exact Or.inr hid
  · exact Or.inl ⟨r', hold, rfl⟩

/-- Some records fewer, none of them a component. -/
theorem of_removed (hlast : after.lastId = s.lastId)
    (hrecords : ∀ r ∈ after.records, r ∈ s.records)
    (hcomponents : after.components = s.components) : s.Keeps after := by
  refine ⟨by omega, fun r hr => Or.inl ⟨r, hrecords r hr, rfl⟩, fun c hc => ?_⟩
  rw [hcomponents]
  exact ⟨c, hc, rfl⟩

end Keeps

/-- An entry of the log changes no other record. -/
theorem keeps_appendLog (now : Timestamp) (entry : NewLogEntry) (s : Memory) :
    s.Keeps (s.appendLog now entry) := by
  refine .of_added (r := .logEntry (entry.withId (s.lastId + 1) now))
    (Int.lt_succ _) rfl ?_ fun _ hc => hc
  intro r hr
  rcases mem_records.mp hr with htemplate | hcomponent | ⟨e, he, rfl⟩ | husage
  · exact Or.inr (mem_records.mpr (Or.inl htemplate))
  · exact Or.inr (mem_records.mpr (Or.inr (Or.inl hcomponent)))
  · rcases List.mem_append.mp he with hold | hnew
    · exact Or.inr (mem_records.mpr (Or.inr (Or.inr (Or.inl ⟨e, hold, rfl⟩))))
    · obtain rfl := List.mem_singleton.mp hnew
      exact Or.inl rfl
  · exact Or.inr (mem_records.mpr (Or.inr (Or.inr (Or.inr husage))))

/-- A version under a new id changes no other record. -/
theorem keeps_addVersion {t : TemplateVersion} (hid : s.lastId < t.id) :
    s.Keeps (s.addVersion t) := by
  refine .of_added (r := .template t) hid rfl ?_ fun _ hc => hc
  intro r hr
  rcases mem_records.mp hr with ⟨u, hu, rfl⟩ | hother
  · rcases List.mem_append.mp hu with hold | hnew
    · exact Or.inr (mem_records.mpr (Or.inl ⟨u, hold, rfl⟩))
    · obtain rfl := List.mem_singleton.mp hnew
      exact Or.inl rfl
  · exact Or.inr (mem_records.mpr (Or.inr hother))

theorem keeps_addComponent {c : Component} (hid : s.lastId < c.id) :
    s.Keeps (s.addComponent c) := by
  refine .of_added (r := .component c) hid rfl ?_ fun _ hd =>
    List.mem_append_left _ hd
  intro r hr
  rcases mem_records.mp hr with htemplate | ⟨d, hd, rfl⟩ | hother
  · exact Or.inr (mem_records.mpr (Or.inl htemplate))
  · rcases List.mem_append.mp hd with hold | hnew
    · exact Or.inr (mem_records.mpr (Or.inr (Or.inl ⟨d, hold, rfl⟩)))
    · obtain rfl := List.mem_singleton.mp hnew
      exact Or.inl rfl
  · exact Or.inr (mem_records.mpr (Or.inr (Or.inr hother)))

theorem keeps_addUsage {u : UsageRecord} (hid : s.lastId < u.id) :
    s.Keeps (s.addUsage u) := by
  refine .of_added (r := .usage u) hid rfl ?_ fun _ hc => hc
  intro r hr
  rcases mem_records.mp hr with htemplate | hcomponent | hlog | ⟨v, hv, rfl⟩
  · exact Or.inr (mem_records.mpr (Or.inl htemplate))
  · exact Or.inr (mem_records.mpr (Or.inr (Or.inl hcomponent)))
  · exact Or.inr (mem_records.mpr (Or.inr (Or.inr (Or.inl hlog))))
  · rcases List.mem_append.mp hv with hold | hnew
    · exact Or.inr (mem_records.mpr (Or.inr (Or.inr (Or.inr ⟨v, hold, rfl⟩))))
    · obtain rfl := List.mem_singleton.mp hnew
      exact Or.inl rfl

/-- A version that is made active or inactive is the same version. -/
theorem keeps_setActive (now : Timestamp) (id : Int) (isActive : Bool)
    (s : Memory) :
    s.Keeps (s.setActive now id isActive) := by
  refine ⟨Int.le_refl _, fun r hr => Or.inl ?_, fun c hc => ⟨c, hc, rfl⟩⟩
  rcases mem_records.mp hr with ⟨t, ht, rfl⟩ | hother
  · obtain ⟨old, hold, rfl⟩ := List.mem_map.mp ht
    refine ⟨.template old, template_mem_records.mpr hold, ?_⟩
    split <;> rfl
  · exact ⟨r, mem_records.mpr (Or.inr hother), rfl⟩

/-- A component that is changed within what may change is the same component. -/
theorem keeps_updateComponent (change : Component → Component)
    (hchange : ∀ c, (StoredRecord.component (change c)).lasting =
      (StoredRecord.component c).lasting)
    (id : Int) (s : Memory) : s.Keeps (s.updateComponent id change) := by
  refine ⟨Int.le_refl _, fun r hr => Or.inl ?_, fun c hc => ?_⟩
  · rcases mem_records.mp hr with htemplate | ⟨c, hc, rfl⟩ | hother
    · exact ⟨r, mem_records.mpr (Or.inl htemplate), rfl⟩
    · obtain ⟨old, hold, rfl⟩ := List.mem_map.mp hc
      refine ⟨.component old, component_mem_records.mpr hold, ?_⟩
      split
      · exact hchange old
      · rfl
    · exact ⟨r, mem_records.mpr (Or.inr (Or.inr hother)), rfl⟩
  · refine ⟨_, List.mem_map_of_mem hc, ?_⟩
    split
    · exact StoredRecord.id_eq_of_lasting_eq (hchange c)
    · rfl

/-- Deleting a family changes nothing that is left. -/
theorem keeps_withoutFamily (name : String) (s : Memory) :
    s.Keeps (s.withoutFamily name) := by
  refine .of_removed rfl (fun r hr => ?_) rfl
  rcases mem_records.mp hr with ⟨t, ht, rfl⟩ | hcomponent | ⟨e, he, rfl⟩ |
    ⟨u, hu, rfl⟩
  · exact template_mem_records.mpr (List.mem_filter.mp ht).1
  · exact mem_records.mpr (Or.inr (Or.inl hcomponent))
  · exact mem_records.mpr
      (Or.inr (Or.inr (Or.inl ⟨e, (List.mem_filter.mp he).1, rfl⟩)))
  · exact mem_records.mpr
      (Or.inr (Or.inr (Or.inr ⟨u, (List.mem_filter.mp hu).1, rfl⟩)))

/-- Changing the active version only switches versions. -/
theorem keeps_swapped (now : Timestamp) (target : TemplateVersion)
    (author : String) (notes : Option String) (s : Memory) :
    s.Keeps (s.swapped now target author notes) := by
  have haside :
      s.Keeps (s.stepAside now target author notes
        (s.otherActive? target)) := by
    cases s.otherActive? target with
    | none => exact .refl s
    | some old =>
        exact (keeps_setActive now old.id false s).trans
          (keeps_appendLog now _ _)
  exact (haside.trans (keeps_setActive now target.id true _)).trans
    (keeps_appendLog now _ _)

/-- Switching versions of a component off changes nothing else. -/
theorem keeps_retired (now : Timestamp) (name : String) (s : Memory) :
    s.Keeps (s.retired now name) := by
  unfold retired
  split
  · exact .refl s
  · rename_i previous _
    exact keeps_updateComponent (Component.deactivated now)
      (fun _ => rfl) previous.id s

/-- **One call.**  Whatever a call does, it keeps the records. -/
theorem keeps_effect (heffect : Effect now s call after) : s.Keeps after := by
  cases heffect with
  | nothing => exact .refl s
  | inserted new entry hnext hfree =>
      exact (keeps_addVersion (Int.lt_succ _)).trans
        (keeps_appendLog now entry _)
  | @swapped target htarget author notes =>
      exact keeps_swapped now target author notes s
  | familyDeleted name => exact keeps_withoutFamily name s
  | rendered ht unresolvedCount => exact keeps_addUsage (Int.lt_succ _)
  | @put new prepared hprepared hcheck =>
      have hretired := keeps_retired now prepared.name s
      refine hretired.trans (keeps_addComponent ?_)
      rw [lastId_retired]
      exact Int.lt_succ _
  | retired name => exact keeps_retired now name s
  | used id =>
      exact keeps_updateComponent Component.usedOnceMore (fun _ => rfl) id s

/-- **Log entries.**  A call that takes an entry out of the log deletes the
template it is of, and succeeds. -/
theorem log_effect {e : LogEntry} (he : e ∈ s.log) (now : Timestamp)
    (call : StoreCall) :
    e ∈ (answer now call s).2.log ∨
      ∃ count, call = .deleteFamily e.templateName ∧
        answer now (.deleteFamily e.templateName) s = (.ok count,
          s.withoutFamily e.templateName) := by
  have heffect := effect_answer now call s
  generalize hafter : (answer now call s).2 = after at heffect
  cases heffect with
  | nothing => exact Or.inl he
  | inserted new entry hnext hfree => exact Or.inl (List.mem_append_left _ he)
  | @swapped target htarget author notes =>
      left
      show e ∈
        (s.stepAside now target author notes (s.otherActive? target)).log ++ _
      apply List.mem_append_left
      cases s.otherActive? target with
      | none => exact he
      | some old => exact List.mem_append_left _ he
  | familyDeleted name =>
      by_cases hname : e.templateName = name
      · subst hname
        rcases deleteFamily_cases e.templateName s with ⟨hnone, error, heq⟩ |
          ⟨-, heq⟩
        · -- a deletion that finds nothing leaves the log alone
          left
          have hsame : s.withoutFamily e.templateName = s := by
            rw [← hafter]
            exact congrArg Prod.snd heq
          rw [hsame]
          exact he
        · exact Or.inr ⟨_, rfl, heq⟩
      · left
        exact List.mem_filter.mpr ⟨he, by simpa using hname⟩
  | rendered ht unresolvedCount => exact Or.inl he
  | @put new prepared hprepared hcheck =>
      left
      show e ∈ (s.retired now prepared.name).log
      unfold retired
      split <;> exact he
  | retired name =>
      left
      unfold retired
      split <;> exact he
  | used id => exact Or.inl he

/-! ### Runs of calls -/

/-- The state after some calls, one after another, each at its instant. -/
def afterAll (calls : List (Timestamp × StoreCall)) (s : Memory) : Memory :=
  calls.foldl (fun s call => (answer call.1 call.2 s).2) s

/-- Calls are carried out one sequence after another. -/
theorem afterAll_append (first second : List (Timestamp × StoreCall))
    (s : Memory) :
    s.afterAll (first ++ second) = (s.afterAll first).afterAll second :=
  List.foldl_append

/-- Calls at any instants lead from reachable stores to reachable ones. -/
theorem Reachable.afterAll (h : Reachable s)
    (calls : List (Timestamp × StoreCall)) :
    Reachable (s.afterAll calls) := by
  induction calls generalizing s with
  | nil => exact h
  | cons call rest ih => exact ih (h.call call.1 call.2)

/-- **Every run** keeps the records. -/
theorem keeps_afterAll (calls : List (Timestamp × StoreCall)) (s : Memory) :
    s.Keeps (s.afterAll calls) := by
  induction calls generalizing s with
  | nil => exact .refl s
  | cons call rest ih =>
      exact (keeps_effect (effect_answer call.1 call.2 s)).trans (ih _)

/-- **Every run.**  A log entry that goes does so with the template it is of. -/
theorem log_afterAll {e : LogEntry} (he : e ∈ s.log)
    (calls : List (Timestamp × StoreCall)) :
    e ∈ (s.afterAll calls).log ∨
      ∃ first now rest count,
        calls = first ++ (now, .deleteFamily e.templateName) :: rest ∧
        e ∈ (s.afterAll first).log ∧
        (answer now (.deleteFamily e.templateName) (s.afterAll first)).1 =
          .ok count := by
  induction calls generalizing s with
  | nil => exact Or.inl he
  | cons call rest ih =>
      obtain ⟨now, call⟩ := call
      rcases log_effect he now call with hstays | ⟨count, rfl, hdeleted⟩
      · rcases ih hstays with hlast |
          ⟨first, now', rest', count, rfl, hmem, hok⟩
        · exact Or.inl hlast
        · exact Or.inr ⟨(now, call) :: first, now', rest', count, rfl,
            hmem, hok⟩
      · exact Or.inr ⟨[], now, rest, count, rfl, he, congrArg Prod.fst hdeleted⟩

/-- An id that was given is not given to another record. -/
theorem Keeps.lasting_eq (h : s.Keeps after) (hs : s.Consistent)
    {r r' : StoredRecord} (hr : r ∈ s.records) (hr' : r' ∈ after.records)
    (hid : r'.id = r.id) :
    r'.lasting = r.lasting := by
  rcases h.origin r' hr' with ⟨old, hold, hlasting⟩ | hnew
  · have hsame : old = r :=
      hs.record_eq hold hr
        ((StoredRecord.id_eq_of_lasting_eq hlasting).symm.trans hid)
    rw [hlasting, hsame]
  · have hle := hs.id_le hr
    omega

/-- **What is stored stays as it was written.**  For every state that calls lead
to and all calls after it, whatever they are and whether they succeed: a record
that is there before and after has changed in nothing but, if it is a version,
whether it is active and when that changed last, and how often a component was
used; no component is gone, and no log entry but by a deletion of its own
template that succeeds; no two records have one id, and a record that a call
adds has an id that no record ever had. -/
theorem stored_history_immutable (past later : List (Timestamp × StoreCall)) :
    let s := Memory.empty.afterAll past
    let after := s.afterAll later
    (∀ r ∈ s.records, ∀ r' ∈ after.records, r'.id = r.id →
      r'.lasting = r.lasting) ∧
    (∀ c ∈ s.components, ∃ d ∈ after.components, d.id = c.id) ∧
    (∀ e ∈ s.log, e ∈ after.log ∨
      ∃ first now rest count,
        later = first ++ (now, .deleteFamily e.templateName) :: rest ∧
        e ∈ (s.afterAll first).log ∧
        (answer now (.deleteFamily e.templateName) (s.afterAll first)).1 =
          .ok count) ∧
    (s.records.map StoredRecord.id).Nodup ∧
    ∀ now call, ∀ r ∈ (answer now call s).2.records,
      (∃ old ∈ s.records, r.lasting = old.lasting) ∨
        ∀ earlier, earlier <+: past →
          ∀ old ∈ (Memory.empty.afterAll earlier).records,
          old.id ≠ r.id := by
  intro s after
  have hs : s.Consistent :=
    consistent_of_reachable (Reachable.empty.afterAll past)
  have hkeeps : s.Keeps after := keeps_afterAll later s
  refine ⟨fun r hr r' hr' => hkeeps.lasting_eq hs hr hr', hkeeps.components,
    fun e he => log_afterAll he later, ?_, fun now call r hr => ?_⟩
  · rw [map_id_records]
    exact hs.idsDistinct
  · rcases (keeps_effect (effect_answer now call s)).origin r hr
      with hold | hnew
    · exact Or.inl hold
    · right
      rintro earlier ⟨rest, rfl⟩ old hold hid
      have hbound : old.id ≤ (Memory.empty.afterAll earlier).lastId :=
        (consistent_of_reachable (Reachable.empty.afterAll earlier)).id_le hold
      have hcounter : (Memory.empty.afterAll earlier).lastId ≤ s.lastId := by
        show _ ≤ (Memory.empty.afterAll (earlier ++ rest)).lastId
        rw [afterAll_append]
        exact (keeps_afterAll rest _).counter
      omega

end Memory

end TemplateRegistry
