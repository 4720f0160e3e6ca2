import Mathlib.Data.List.Induction
import Mathlib.Data.List.Sort
import Mathlib.Data.String.Basic
import TemplateRegistry.Proofs.DatabaseSessions
import TemplateRegistry.Proofs.DeclaredRows
import TemplateRegistry.Proofs.MemoryConsistency
import TemplateRegistry.Proofs.Tables
/-!
# The rows that a database selects

The records of a store in memory belong together, so the rows that a statement
asks for are not only the same in number and kind as what the store itself looks
up, but that very thing: a row asked for by an id, by a name and a number, or as
the active one of its name is the only such row; rows asked for in an order have
but one order.

* `FirstOf.eq_find?`, `Listing.unique` — rows that can come in one way only;
* `template_of_reply`, … — one lemma for each statement that selects;
* `definitions_of_reply`, `attachParameters_of_reply` — the declarations of a
  version, out of their rows.
-/

namespace TemplateRegistry

section Rows
variable {α : Type} {rows matching : List α} {p : α → Bool}

/-- The first row of a kind is the one that is found, if there is but one. -/
theorem FirstOf.eq_find? {row : Option α} (h : FirstOf row (rows.filter p))
    (hone : ∀ a ∈ rows, ∀ b ∈ rows, p a = true → p b = true → a = b) :
    row = rows.find? p := by
  obtain ⟨listed, hperm, rfl⟩ := h
  rw [← List.head?_filter]
  cases listed with
  | nil => rw [List.nil_perm.mp hperm]
  | cons first rest =>
      obtain ⟨hfirst, hp⟩ :=
        List.mem_filter.mp (hperm.mem_iff.mp List.mem_cons_self)
      cases hfilter : rows.filter p with
      | nil => simp [hfilter] at hperm
      | cons found others =>
          have hmem : found ∈ rows.filter p := by
            rw [hfilter]; exact List.mem_cons_self
          obtain ⟨hfound, hpf⟩ := List.mem_filter.mp hmem
          rw [List.head?_cons, List.head?_cons,
            hone first hfirst found hfound hp hpf]

/-- Rows in order. -/
theorem listing_insertionSort {α : Type} (r : α → α → Prop) [DecidableRel r]
    [Std.Total r] [IsTrans α r] (rows : List α) :
    Listing r (rows.insertionSort r) rows :=
  ⟨List.perm_insertionSort r rows, List.pairwise_insertionSort r rows⟩

/-- The order of some key is one that rows can be listed in. -/
theorem listing_by {α β : Type} [LinearOrder β] (key : α → β) (rows : List α) :
    Listing (fun a b => key a ≤ key b)
      (rows.insertionSort fun a b => key a ≤ key b) rows := by
  have : Std.Total fun a b => key a ≤ key b :=
    ⟨fun a b => le_total (key a) (key b)⟩
  have : IsTrans α fun a b => key a ≤ key b := ⟨fun _ _ _ => le_trans⟩
  exact listing_insertionSort _ rows

/-- Rows with distinct keys are listed by them in one way. -/
theorem Listing.unique {β : Type} [LinearOrder β] (key : α → β)
    {others : List α} (h : Listing (fun a b => key a ≤ key b) rows matching)
    (h' : Listing (fun a b => key a ≤ key b) others matching)
    (hinj : ∀ a ∈ matching, ∀ b ∈ matching, key a = key b → a = b) :
    rows = others :=
  List.Perm.eq_of_pairwise
    (fun a b ha hb hab hba =>
      hinj a (h.perm.mem_iff.mp ha) b (h'.perm.mem_iff.mp hb)
      (le_antisymm hab hba)) h.pairwise h'.pairwise (h.perm.trans h'.perm.symm)

/-- Rows whose keys ascend are listed as they are. -/
theorem Listing.eq_of_ascending {β : Type} [LinearOrder β] (key : α → β)
    (h : Listing (fun a b => key a ≤ key b) rows matching)
    (hascending : matching.Pairwise fun a b => key a < key b) :
    rows = matching := by
  have hdistinct : (matching.map key).Nodup :=
    List.pairwise_map.mpr (hascending.imp fun hlt => ne_of_lt hlt)
  exact h.unique key ⟨List.Perm.refl matching,
      hascending.imp fun hlt => le_of_lt hlt⟩
    fun a ha b hb => List.inj_on_of_nodup_map hdistinct ha hb

end Rows

/-! ## Numbers and places -/

/-- No version is above the highest. -/
theorem le_highestVersion {versions : List Int} {v : Int} (h : v ∈ versions) :
    v ≤ highestVersion versions := by
  induction versions using List.reverseRecOn with
  | nil => simp at h
  | append_singleton versions last ih =>
      rw [highestVersion_append_singleton]
      rcases List.mem_append.mp h with hold | hlast
      · have hle := ih hold
        rw [if_neg (List.ne_nil_of_mem hold)]
        omega
      · obtain rfl := List.mem_singleton.mp hlast
        split <;> omega

/-- The highest of some versions is one of them. -/
theorem highestVersion_mem {versions : List Int} (h : versions ≠ []) :
    highestVersion versions ∈ versions := by
  induction versions using List.reverseRecOn with
  | nil => exact (h rfl).elim
  | append_singleton versions last ih =>
      rw [highestVersion_append_singleton]
      split
      · exact List.mem_append_right _ List.mem_cons_self
      · rename_i hne
        rcases Int.max_def (highestVersion versions) last with hmax
        rw [hmax]
        split
        · exact List.mem_append_right _ List.mem_cons_self
        · exact List.mem_append_left _ (ih hne)

/-- Rows numbered 1, 2, … ascend. -/
theorem pairwise_of_numbered {α : Type} {version : α → Int} {rows : List α}
    {n : Nat} (h : rows.map version = firstVersions n) :
    rows.Pairwise fun a b => version a < version b := by
  rw [← List.pairwise_map, h, firstVersions, List.pairwise_map]
  exact List.pairwise_lt_range.imp fun hlt => by omega

/-- Rows that are numbered one after another are told by their numbers. -/
theorem inj_of_numbered {α : Type} {version : α → Int} {rows : List α} {n : Nat}
    (h : rows.map version = firstVersions n) {a b : α} (ha : a ∈ rows)
    (hb : b ∈ rows) (heq : version a = version b) : a = b := by
  have hnodup : (rows.map version).Nodup :=
    List.pairwise_map.mpr ((pairwise_of_numbered h).imp fun hlt => ne_of_lt hlt)
  exact List.inj_on_of_nodup_map hnodup ha hb heq

/-- Two keys may be stored in either order. -/
theorem Table.insert_comm {α : Type} {key other : String} (hne : key ≠ other)
    (v w : α) (table : Table α) :
    insert other w (insert key v table) =
      insert key v (insert other w table) := by
  induction table with
  | nil =>
      rcases lt_or_gt_of_ne hne with hlt | hlt
      · simp [insert, hne, hne.symm, hlt, not_lt_of_gt hlt]
      · simp [insert, hne, hne.symm, hlt, not_lt_of_gt hlt]
  | cons entry rest ih =>
      obtain ⟨k, u⟩ := entry
      rcases lt_trichotomy key k with hk | hk | hk
      · grind [insert]
      · grind [insert]
      · grind [insert]

namespace Memory

variable {s : Memory} {name : String} {id : Int} {now : Timestamp}

/-! ## Versions -/

/-- A condition on rows that does not ask for declarations selects the rows of
the versions it holds of. -/
theorem filter_templateTable {p : TemplateVersion → Bool}
    (hp : ∀ t, p t.row = p t) (s : Memory) :
    s.templateTable.filter p =
      (s.templates.filter p).map TemplateVersion.row := by
  rw [templateTable, List.filter_map]
  congr 1
  exact List.filter_congr fun t _ => hp t

/-- The first row of a condition is that of the first version. -/
theorem find?_templateTable {p : TemplateVersion → Bool}
    (hp : ∀ t, p t.row = p t) (s : Memory) :
    s.templateTable.find? p =
      (s.templates.find? p).map TemplateVersion.row := by
  rw [← List.head?_filter, filter_templateTable hp, List.head?_map,
    List.head?_filter]

/-- A row asked for by something only one version has. -/
theorem row_of_firstOf {p : TemplateVersion → Bool} (hp : ∀ t, p t.row = p t)
    (hone : ∀ t ∈ s.templates, ∀ u ∈ s.templates, p t = true →
      p u = true → t = u)
    {row : Option TemplateVersion}
    (h : FirstOf row (s.templateTable.filter p)) :
    row = (s.templates.find? p).map TemplateVersion.row := by
  rw [← find?_templateTable hp]
  refine h.eq_find? ?_
  intro a ha b hb hpa hpb
  obtain ⟨t, ht, rfl⟩ := List.mem_map.mp ha
  obtain ⟨u, hu, rfl⟩ := List.mem_map.mp hb
  rw [hone t ht u hu (hp t ▸ hpa) (hp u ▸ hpb)]

/-- The version of an id, if ids are distinct. -/
theorem template_of_firstOf (hids : (s.templates.map TemplateVersion.id).Nodup)
    {row : Option TemplateVersion}
    (h : FirstOf row (s.templateTable.filter fun t => t.id = id)) :
    row = (s.template? id).map TemplateVersion.row := by
  refine row_of_firstOf (fun _ => rfl) (fun t ht u hu hpt hpu => ?_) h
  exact List.inj_on_of_nodup_map hids ht hu
    ((of_decide_eq_true hpt).trans (of_decide_eq_true hpu).symm)

/-- Versions are sorted in by their numbers. -/
theorem insertByVersion_eq (t : TemplateVersion)
    (versions : List TemplateVersion) :
    insertByVersion t versions =
      versions.orderedInsert (fun t u => t.version ≤ u.version) t := by
  induction versions with
  | nil => rfl
  | cons first rest ih => rw [insertByVersion, List.orderedInsert, ih]

/-- The store sorts by insertion. -/
theorem sortByVersion_eq (versions : List TemplateVersion) :
    sortByVersion versions = versions.insertionSort fun t u =>
      t.version ≤ u.version := by
  induction versions with
  | nil => rfl
  | cons t rest ih =>
      rw [List.insertionSort_cons, ← ih, ← insertByVersion_eq]
      rfl

section Consistent
variable (h : s.Consistent)
include h

/-- No two versions have one id. -/
theorem Consistent.templateIds : (s.templates.map TemplateVersion.id).Nodup :=
  (List.nodup_append.mp h.idsDistinct).1

/-- The versions of a family are numbered one after another. -/
theorem Consistent.family_numbered (name : String) :
    ∃ n, (s.family name).map TemplateVersion.version = firstVersions n := by
  rw [← versionsOf_templateRows]
  exact h.templates.numbered name

/-- So are those of a component. -/
theorem Consistent.components_numbered (name : String) :
    ∃ n, (s.components.filter fun c => c.name = name).map Component.version =
      firstVersions n := by
  rw [← versionsOf_componentRows]
  exact h.components.numbered name

/-- The row with a name and a version is that of the version in the family. -/
theorem version_of_reply {version : Int} {row : Option TemplateVersion}
    (hreply : FirstOf row (s.templateTable.filter fun t => t.name = name ∧
      t.version = version)) :
    row = ((s.family name).find? fun t => t.version = version).map
      TemplateVersion.row := by
  obtain ⟨n, hn⟩ := h.family_numbered name
  rw [row_of_firstOf (fun _ => rfl) _ hreply]
  · congr 1
    rw [family, List.find?_filter]
    congr 1
    funext t
    simp
  · intro t ht u hu hpt hpu
    simp only [decide_eq_true_eq] at hpt hpu
    exact inj_of_numbered hn (mem_family.mpr ⟨ht, hpt.1⟩)
      (mem_family.mpr ⟨hu, hpu.1⟩) (hpt.2.trans hpu.2.symm)

/-- The active row of a name is that of its active version. -/
theorem active_of_reply {row : Option TemplateVersion}
    (hreply : FirstOf row (s.templateTable.filter fun t => t.name = name ∧
      t.isActive = true)) :
    row = (s.active? name).map TemplateVersion.row := by
  rw [row_of_firstOf (fun _ => rfl) _ hreply]
  · congr 1
    rw [active?, family, List.find?_filter]
    congr 1
    funext t
    simp
  · intro t ht u hu hpt hpu
    simp only [decide_eq_true_eq] at hpt hpu
    exact h.active_eq ht hu (hpt.1.trans hpu.1.symm) hpt.2 hpu.2

/-- The rows of a name by version are those of its family. -/
theorem family_of_reply {rows : List TemplateVersion}
    (hreply : Listing (fun t u => t.version ≤ u.version) rows
      (s.templateTable.filter fun t => t.name = name)) :
    rows = (s.family name).map TemplateVersion.row := by
  obtain ⟨n, hn⟩ := h.family_numbered name
  rw [filter_templateTable (fun _ => rfl)] at hreply
  refine hreply.eq_of_ascending TemplateVersion.version ?_
  rw [List.pairwise_map]
  exact pairwise_of_numbered hn

/-- The versions of a name are in their order as they are. -/
theorem sortByVersion_family (name : String) :
    sortByVersion (s.family name) = s.family name := by
  obtain ⟨n, hn⟩ := h.family_numbered name
  have hsorted := (pairwise_of_numbered hn).imp fun hlt => le_of_lt hlt
  rw [sortByVersion_eq]
  exact List.Pairwise.insertionSort_eq hsorted

end Consistent

/-- The highest number of a name is one that may be replied. -/
theorem replies_maxVersion (name : String) (s : Memory) :
    (Statement.maxVersion name).Replies id now s (s.maxVersion name) := by
  refine ⟨fun t ht hname => ?_, ?_⟩
  · obtain ⟨u, hu, rfl⟩ := List.mem_map.mp ht
    have hmem : u ∈ s.family name := mem_family.mpr ⟨hu, hname⟩
    have hversion : u.version ∈ (s.family name).map TemplateVersion.version :=
      List.mem_map_of_mem hmem
    exact le_highestVersion hversion
  · by_cases hempty : (s.family name).map TemplateVersion.version = []
    · refine Or.inr ⟨fun t ht hname => ?_, ?_⟩
      · obtain ⟨u, hu, rfl⟩ := List.mem_map.mp ht
        have hmem : u ∈ s.family name := mem_family.mpr ⟨hu, hname⟩
        simp [List.map_eq_nil_iff.mp hempty] at hmem
      · rw [maxVersion, hempty]
        rfl
    · obtain ⟨u, hu, heq⟩ := List.mem_map.mp (highestVersion_mem hempty)
      obtain ⟨hmem, hname⟩ := mem_family.mp hu
      exact Or.inl ⟨u.row, List.mem_map_of_mem hmem, hname, heq⟩

/-- No other number may be replied. -/
theorem maxVersion_of_reply {highest : Int}
    (hreply : (Statement.maxVersion name).Replies id now s highest) :
    highest = s.maxVersion name := by
  obtain ⟨hle, hattained⟩ := hreply
  obtain ⟨hle', hattained'⟩ :
      (Statement.maxVersion name).Replies id now s (s.maxVersion name) :=
    replies_maxVersion name s
  rcases hattained with ⟨t, ht, hname, rfl⟩ | ⟨hnone, rfl⟩
  · rcases hattained' with ⟨u, hu, hname', heq⟩ | ⟨hnone, -⟩
    · exact le_antisymm (hle' t ht hname) (heq ▸ hle u hu hname')
    · exact (hnone t ht hname).elim
  · rcases hattained' with ⟨u, hu, hname', -⟩ | ⟨-, heq⟩
    · exact (hnone u hu hname').elim
    · exact heq.symm

/-! ## Declarations -/

/-- The rows of declarations give the declarations. -/
theorem definitions_parameterRows (key : Nat → Int) (t : TemplateVersion) :
    Database.definitions (t.parameterRows key) = .ok t.parameters := by
  have hparams : t.parameters.zipIdx.map Prod.fst = t.parameters :=
    List.zipIdx_map_fst 0 _
  have hrows : List.Forall₂ ParameterRow.Declares (t.parameterRows key)
      (t.parameters.zipIdx.map Prod.fst) := by
    rw [TemplateVersion.parameterRows, List.forall₂_map_left_iff,
      List.forall₂_map_right_iff, List.forall₂_same]
    exact fun param _ => rfl
  rw [hparams] at hrows
  exact Database.definitions_eq_ok_iff.mpr hrows

/-- The rows of a declaration refer to their version. -/
theorem templateId_of_mem_parameterRows {key : Nat → Int} {t : TemplateVersion}
    {row : ParameterRow} (h : row ∈ t.parameterRows key) :
    row.templateId = t.id := by
  obtain ⟨param, -, rfl⟩ := List.mem_map.mp h
  rfl

/-- The rows of the declarations of a version are in the order of their
places. -/
theorem pairwise_parameterRows (key : Nat → Int) (t : TemplateVersion) :
    (t.parameterRows key).Pairwise fun p q => p.position < q.position := by
  rw [TemplateVersion.parameterRows, List.pairwise_map]
  have hplaces : (t.parameters.zipIdx.map Prod.snd).Pairwise (· < ·) := by
    rw [List.zipIdx_map_snd]
    exact List.pairwise_lt_range'
  exact (List.pairwise_map.mp hplaces).imp fun hlt => by
    simp only [ParameterRow.of]
    omega

/-- The rows of a version are its own, if ids are distinct. -/
theorem filter_parameterTable
    (hids : (s.templates.map TemplateVersion.id).Nodup) {t : TemplateVersion}
    (ht : t ∈ s.templates) (key : Int → Nat → Int) :
    ((s.parameterTable key).filter fun p => p.templateId = t.id) =
      t.parameterRows (key t.id) := by
  have hself :
      ((t.parameterRows (key t.id)).filter fun p => p.templateId = t.id) =
      t.parameterRows (key t.id) :=
    List.filter_eq_self.mpr fun row hrow => by
      simp [templateId_of_mem_parameterRows hrow]
  have hother : ∀ us : List TemplateVersion, (∀ u ∈ us, u.id ≠ t.id) →
      (us.flatMap fun u =>
        (u.parameterRows (key u.id)).filter fun p =>
          p.templateId = t.id) = [] := by
    intro us hne
    refine List.flatMap_eq_nil_iff.mpr fun u hu =>
      List.filter_eq_nil_iff.mpr fun row hrow => ?_
    simp [templateId_of_mem_parameterRows hrow, hne u hu]
  obtain ⟨before, after, hsplit⟩ := List.append_of_mem ht
  rw [hsplit, List.map_append, List.map_cons] at hids
  obtain ⟨-, hnodup, hdisjoint⟩ := List.nodup_append.mp hids
  have hbefore := hother before fun u hu =>
    hdisjoint u.id (List.mem_map_of_mem hu) t.id List.mem_cons_self
  have hafter := hother after fun u hu heq =>
    (List.nodup_cons.mp hnodup).1 (heq ▸ List.mem_map_of_mem hu)
  rw [parameterTable, List.filter_flatMap, hsplit, List.flatMap_append,
    List.flatMap_cons, hbefore, hafter, hself, List.nil_append, List.append_nil]

/-- Rows of one version in the order of their places are those of its
declarations. -/
theorem definitions_of_listing {key : Nat → Int} {t : TemplateVersion}
    {rows : List ParameterRow}
    (h : Listing (fun p q => p.position ≤ q.position) rows
      (t.parameterRows key)) :
    Database.definitions rows = .ok t.parameters := by
  rw [h.eq_of_ascending ParameterRow.position (pairwise_parameterRows key t),
    definitions_parameterRows]

/-- The rows of declarations that a version is asked for are read as its
declarations. -/
theorem definitions_of_reply (hids : (s.templates.map TemplateVersion.id).Nodup)
    {t : TemplateVersion} (ht : t ∈ s.templates) {rows : List ParameterRow}
    (hreply : (Statement.parametersOf t.id).Replies id now s rows) :
    Database.definitions rows = .ok t.parameters := by
  obtain ⟨key, hlisting⟩ := hreply
  rw [filter_parameterTable hids ht] at hlisting
  exact definitions_of_listing hlisting

/-- Each version gets its own declarations. -/
theorem attachParameters_eq {versions : List TemplateVersion}
    (hids : (versions.map TemplateVersion.id).Nodup) {rows : List ParameterRow}
    (hrows : ∀ t ∈ versions,
      Database.definitions
      (rows.filter fun p => p.templateId = t.id) = .ok t.parameters) :
    Database.attachParameters rows (versions.map TemplateVersion.row) =
      .ok versions := by
  have hrowIds :
      ((versions.map TemplateVersion.row).map TemplateVersion.id).Nodup := by
    rw [List.map_map]
    exact hids
  rw [Database.attachParameters_eq_mapM hrowIds, mapM_eq_ok_iff,
    List.forall₂_map_left_iff, List.forall₂_same]
  intro t ht
  have hown : Database.definitions (t.row.ownRows rows) = .ok t.parameters :=
    hrows t ht
  rw [TemplateVersion.loaded, hown]
  rfl

/-- The rows of declarations of a whole family are attached to their
versions. -/
theorem attachParameters_of_reply (h : s.Consistent) {rows : List ParameterRow}
    (hreply :
      (Statement.parametersOfAll
        ((s.family name).map TemplateVersion.id)).Replies
      id now s rows) :
    Database.attachParameters rows ((s.family name).map TemplateVersion.row) =
      .ok (s.family name) := by
  obtain ⟨key, hlisting⟩ := hreply
  have hids : ((s.family name).map TemplateVersion.id).Nodup :=
    (List.filter_sublist.map TemplateVersion.id).nodup h.templateIds
  refine attachParameters_eq hids fun t ht => ?_
  have hmem : t ∈ s.templates := (mem_family.mp ht).1
  have hown : (((s.parameterTable key).filter fun p =>
      p.templateId ∈ (s.family name).map TemplateVersion.id).filter fun p =>
        p.templateId = t.id) =
      t.parameterRows (key t.id) := by
    rw [← filter_parameterTable h.templateIds hmem, List.filter_filter]
    refine List.filter_congr fun p _ => ?_
    by_cases hp : p.templateId = t.id
    · simp only [hp, decide_true, Bool.true_and]
      exact decide_eq_true (List.mem_map_of_mem ht)
    · simp [hp]
  suffices hsome : Listing (fun p q => p.position ≤ q.position)
      (rows.filter fun p => p.templateId = t.id)
      (t.parameterRows (key t.id)) from
    definitions_of_listing hsome
  refine ⟨?_, ?_⟩
  · rw [← hown]
    exact hlisting.perm.filter _
  · refine (hlisting.pairwise.filter _).imp_of_mem ?_
    intro p q hp hq hbefore
    have hidp := of_decide_eq_true (List.mem_filter.mp hp).2
    have hidq := of_decide_eq_true (List.mem_filter.mp hq).2
    rcases hbefore with hlt | ⟨-, hle⟩
    · omega
    · exact hle

/-! ## Log entries and components -/

/-- Entries of the log are sorted in by falling ids. -/
theorem insertNewestFirst_eq (entry : LogEntry) (entries : List LogEntry) :
    insertNewestFirst entry entries =
      entries.orderedInsert (fun d e => e.id ≤ d.id) entry := by
  induction entries with
  | nil => rfl
  | cons first rest ih => rw [insertNewestFirst, List.orderedInsert, ih]

/-- The log is sorted by falling ids. -/
theorem sortNewestFirst_eq (entries : List LogEntry) :
    sortNewestFirst entries = entries.insertionSort fun d e => e.id ≤ d.id := by
  induction entries with
  | nil => rfl
  | cons entry rest ih =>
      rw [List.insertionSort_cons, ← ih, ← insertNewestFirst_eq]
      rfl

/-- Components are sorted in by their names. -/
theorem insertByName_eq (c : Component) (components : List Component) :
    insertByName c components =
      components.orderedInsert (fun c d => c.name ≤ d.name) c := by
  induction components with
  | nil => rfl
  | cons first rest ih => rw [insertByName, List.orderedInsert, ih]

/-- Components are sorted by their names. -/
theorem sortByName_eq (components : List Component) :
    sortByName components = components.insertionSort fun c d =>
      c.name ≤ d.name := by
  induction components with
  | nil => rfl
  | cons c rest ih =>
      rw [List.insertionSort_cons, ← ih, ← insertByName_eq]
      rfl

section Consistent
variable (h : s.Consistent)
include h

/-- The log of a name is given newest first. -/
theorem log_of_reply {rows : List LogEntry}
    (hreply : (Statement.logOfName name).Replies id now s rows) :
    rows = sortNewestFirst (s.log.filter fun e => e.templateName = name) := by
  have hids : (s.log.map LogEntry.id).Nodup :=
    (List.nodup_append.mp
      (List.nodup_append.mp (List.nodup_append.mp h.idsDistinct).2.1).2.1).1
  rw [sortNewestFirst_eq]
  refine Listing.unique (fun e : LogEntry => OrderDual.toDual e.id) hreply
    (listing_by _ _) ?_
  intro d hd e he heq
  exact List.inj_on_of_nodup_map hids (List.mem_filter.mp hd).1
    (List.mem_filter.mp he).1 (OrderDual.toDual_inj.mp heq)

/-- The row with an id is the component. -/
theorem component_of_reply {row : Option Component}
    (hreply : FirstOf row (s.components.filter fun c => c.id = id)) :
    row = s.components.find? fun c => c.id = id :=
  hreply.eq_find? fun _ hc _ hd hpc hpd =>
    h.component_eq hc hd
      ((of_decide_eq_true hpc).trans (of_decide_eq_true hpd).symm)

/-- The active row of a name is the active component. -/
theorem activeComponent_of_reply {row : Option Component}
    (hreply : (Statement.activeComponent name).Replies id now s row) :
    row = s.activeComponent? name := by
  rw [FirstOf.eq_find? hreply, activeComponent?]
  · congr 1
    funext c
    simp
  · intro c hc d hd hpc hpd
    simp only [decide_eq_true_eq] at hpc hpd
    exact h.activeComponent_eq hc hd (hpc.1.trans hpd.1.symm) hpc.2 hpd.2

/-- The row with a name and a version is the component. -/
theorem componentVersion_of_reply {version : Int} {row : Option Component}
    (hreply :
      (Statement.componentByVersion name version).Replies id now s row) :
    row = s.components.find? fun c => c.name = name && c.version = version := by
  obtain ⟨n, hn⟩ := h.components_numbered name
  rw [FirstOf.eq_find? hreply]
  · congr 1
    funext c
    simp
  · intro c hc d hd hpc hpd
    simp only [decide_eq_true_eq] at hpc hpd
    exact inj_of_numbered hn (List.mem_filter.mpr ⟨hc, decide_eq_true hpc.1⟩)
      (List.mem_filter.mpr ⟨hd, decide_eq_true hpd.1⟩) (hpc.2.trans hpd.2.symm)

/-- The locked rows of a name are all versions of the component. -/
theorem componentFamily_of_reply {rows : List Component}
    (hreply : (Statement.lockComponents name).Replies id now s rows) :
    rows = s.components.filter fun c => c.name = name := by
  obtain ⟨n, hn⟩ := h.components_numbered name
  exact Listing.eq_of_ascending Component.version hreply
    (pairwise_of_numbered hn)

/-- Active components of one name are one. -/
theorem Consistent.active_name_inj {c d : Component}
    (hc : c ∈ s.activeComponents) (hd : d ∈ s.activeComponents)
    (hname : c.name = d.name) : c = d := by
  obtain ⟨hc, hactive⟩ := List.mem_filter.mp hc
  obtain ⟨hd, hactive'⟩ := List.mem_filter.mp hd
  exact h.activeComponent_eq hc hd hname hactive hactive'

/-- The active rows are the active components by name. -/
theorem activeComponents_of_reply {rows : List Component}
    (hreply : Statement.activeComponents.Replies id now s rows) :
    rows = sortByName s.activeComponents := by
  rw [sortByName_eq]
  exact Listing.unique Component.name hreply (listing_by _ _)
    fun c hc d hd => h.active_name_inj hc hd

/-- The texts by name do not depend on the order of the components. -/
theorem componentTexts_sortByName :
    componentTexts (sortByName s.activeComponents) =
      componentTexts s.activeComponents := by
  rw [sortByName_eq]
  have hperm :=
    List.perm_insertionSort (fun c d : Component => c.name ≤ d.name)
      s.activeComponents
  refine List.Perm.foldl_eq' (hperm.map fun c => (c.name, c.content)) ?_ []
  intro entry hentry other hother texts
  obtain ⟨c, hc, rfl⟩ := List.mem_map.mp hentry
  obtain ⟨d, hd, rfl⟩ := List.mem_map.mp hother
  by_cases hname : c.name = d.name
  · obtain rfl :=
      h.active_name_inj (hperm.mem_iff.mp hc) (hperm.mem_iff.mp hd) hname
    rfl
  · exact Table.insert_comm hname c.content d.content texts

end Consistent

end Memory

end TemplateRegistry
