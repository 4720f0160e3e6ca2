import TemplateRegistry.Proofs.Expansions
import TemplateRegistry.Proofs.Seams
import TemplateRegistry.Proofs.SectionTrees
/-!
# What a rendered text is put together from

Before the values are put in, a text was rewritten twice.  The expansion is
joined from stretches of the text and of the components put in, each between two
includes or an include and an end, and from markers, which hold no braces.  The
resolution of sections keeps stretches of the expansion, each between two bounds
of sections or a bound and an end.

* `expandInclude_parts`, `expand_parts` — the parts of an expansion;
* `resolveSections_parts` — the parts that are kept of sections.
-/

namespace TemplateRegistry.Markup

open Text (JoinedFrom StartsWith EndsWith Stretch Taken)

/-- An include as it is written. -/
def IncludeTag (tag : List Char) : Prop :=
  ∃ body, (include? body).isSome ∧ tag = writeTag body

/-- A bound of a section as it is written. -/
def BoundTag (tag : List Char) : Prop :=
  ∃ body, (control? body).isSome ∧ tag = writeTag body

/-- A character that is no part of the braces of a tag. -/
def Plain (c : Char) : Prop :=
  isBrace c = false

/-- The text of a component that is put in. -/
def PutIn (components : Components) (included : List String)
    (s : List Char) : Prop :=
  ∃ name ∈ included, ∃ content, components.text? name = some content ∧
    s = content.toList

variable {components : Components} {depth : Nat} {path : List String}
  {name : String} {s : List Char}

/-! ### Markers -/

/-- The characters of names are none of braces. -/
theorem plain_of_isNameChar {c : Char} (h : isNameChar c = true) : Plain c := by
  unfold Plain
  by_contra hbrace
  rw [Bool.not_eq_false, isBrace, Bool.or_eq_true, decide_eq_true_eq,
    decide_eq_true_eq] at hbrace
  rcases hbrace with rfl | rfl <;> exact absurd h (by decide)

/-- The name of an include holds no braces. -/
theorem plain_of_include? {body : List Char} (h : include? body = some name) :
    ∀ c ∈ name.toList, Plain c := by
  unfold include? at h
  split at h
  · split at h
    next hword =>
      obtain rfl := Option.some.inj h
      rw [String.toList_ofList]
      exact fun c hc => plain_of_isNameChar (List.all_eq_true.mp hword.2 c hc)
    next => cases h
  · cases h

/-- The names of includes have no braces. -/
theorem plain_of_mem_includesOf (h : name ∈ includesOf s) :
    ∀ c ∈ name.toList, Plain c := by
  obtain ⟨piece, -, hpiece⟩ := List.mem_filterMap.mp h
  cases piece with
  | char c => cases hpiece
  | tag body => exact plain_of_include? hpiece

/-- Whether a literal has braces is decided on its characters. -/
theorem plain_literal (text : String)
    (h : text.toList.all (fun c => !isBrace c) = true) :
    ∀ c ∈ text.toList, Plain c :=
  fun c hc => by simpa [Plain] using List.all_eq_true.mp h c hc

/-- Texts without braces can be put together. -/
theorem plain_append {s t : String} (hs : ∀ c ∈ s.toList, Plain c)
    (ht : ∀ c ∈ t.toList, Plain c) :
    ∀ c ∈ (s ++ t).toList, Plain c := by
  intro c hc
  rw [String.toList_append] at hc
  exact (List.mem_append.mp hc).elim (hs c) (ht c)

/-- The marker of an include that is too deep has no braces. -/
theorem plain_depthMarker (h : ∀ c ∈ name.toList, Plain c) :
    ∀ c ∈ (depthMarker name).toList, Plain c :=
  plain_append (plain_append (plain_literal _ (by decide)) h)
    (plain_literal _ (by decide))

/-- The marker of a component that is missing has no braces. -/
theorem plain_notFoundMarker (h : ∀ c ∈ name.toList, Plain c) :
    ∀ c ∈ (notFoundMarker name).toList, Plain c :=
  plain_append (plain_append (plain_literal _ (by decide)) h)
    (plain_literal _ (by decide))

/-- Names with arrows between them have no braces. -/
theorem plain_intercalate {names : List String}
    (h : ∀ name ∈ names, ∀ c ∈ name.toList, Plain c) :
    ∀ c ∈ (" -> ".intercalate names).toList, Plain c := by
  rw [String.toList_intercalate]
  induction names with
  | nil => simp
  | cons name rest ih =>
      cases rest with
      | nil => simpa using h
      | cons next rest =>
          intro c hc
          rw [List.map_cons, List.map_cons, List.intercalate_cons_cons,
            List.append_assoc] at hc
          rcases List.mem_append.mp hc with hc | hc
          · exact h name List.mem_cons_self c hc
          · rcases List.mem_append.mp hc with hc | hc
            · exact plain_literal " -> " (by decide) c hc
            · exact ih
                (fun other hother => h other (List.mem_cons_of_mem _ hother))
                c hc

/-- The marker of a cycle has no braces. -/
theorem plain_cycleMarker {chain : List String}
    (h : ∀ name ∈ chain, ∀ c ∈ name.toList, Plain c) :
    ∀ c ∈ (cycleMarker chain).toList, Plain c :=
  plain_append
    (plain_append (plain_literal _ (by decide)) (plain_intercalate h))
    (plain_literal _ (by decide))

/-! ### The parts of an expansion -/

/-- What is expanded of a part of a text: all of it up to an include or the end,
and parts further on. -/
def ExpandedFrom (good : List Char → Prop)
    (source expanded : List Char) : Prop :=
  ∃ own beyond later, source = own ++ beyond ∧
    (beyond = [] ∨ StartsWith IncludeTag beyond) ∧
    expanded = own ++ later ∧ JoinedFrom good later

namespace ExpandedFrom
variable {good : List Char → Prop} {source expanded before : List Char}

/-- A stretch of the text is all that is not yet a part. -/
theorem joined (h : ExpandedFrom good source expanded)
    (hs : s = before ++ source)
    (hbefore : before = [] ∨ EndsWith IncludeTag before)
    (hown : ∀ part, Stretch IncludeTag s part → good part) :
    JoinedFrom good expanded := by
  obtain ⟨own, beyond, later, rfl, hbeyond, rfl, hlater⟩ := h
  exact (JoinedFrom.of_part (hown own
    ⟨before, beyond, hs, hbefore, hbeyond⟩)).append hlater

/-- Text in front of a part. -/
theorem text (h : ExpandedFrom good source expanded) (more : List Char) :
    ExpandedFrom good (more ++ source) (more ++ expanded) := by
  obtain ⟨own, beyond, later, rfl, hbeyond, rfl, hlater⟩ := h
  exact ⟨more ++ own, beyond, later, (List.append_assoc ..).symm, hbeyond,
    (List.append_assoc ..).symm, hlater⟩

/-- An include in front of a part. -/
theorem of_include {tag : List Char} (htag : IncludeTag tag)
    (h : JoinedFrom good expanded) :
    ExpandedFrom good (tag ++ source) expanded :=
  ⟨[], tag ++ source, expanded, rfl, Or.inr ⟨tag, source, htag, rfl⟩, rfl, h⟩

end ExpandedFrom

section Parts
variable {good : List Char → Prop}

/-- The pieces of a text from some place on. -/
theorem expandedFrom_pieces
    (hown : ∀ part, Stretch IncludeTag s part → good part)
    (hincludes : ∀ name ∈ includesOf s,
      JoinedFrom good (expandInclude components depth path name).text)
    (ps : List Piece) (before : List Char) (hs : s = before ++ sourceOf ps)
    (hsub : ∀ piece ∈ ps, piece ∈ pieces s) :
    ExpandedFrom good (sourceOf ps)
      (Expansion.concat (ps.map (expandPiece components depth path))).text := by
  induction ps generalizing before with
  | nil => exact ⟨[], [], [], rfl, Or.inl rfl, rfl, .nil⟩
  | cons piece ps ih =>
      have hsource : sourceOf (piece :: ps) = piece.source ++ sourceOf ps := rfl
      have htext :
          (Expansion.concat
            ((piece :: ps).map (expandPiece components depth path))).text =
          (expandPiece components depth path piece).text ++
            (Expansion.concat
              (ps.map (expandPiece components depth path))).text := rfl
      rw [hsource, ← List.append_assoc] at hs
      have hrest :=
        ih _ hs fun other hother => hsub other (List.mem_cons_of_mem _ hother)
      rw [hsource, htext]
      cases piece with
      | char c => exact hrest.text [c]
      | tag body =>
          cases hbody : include? body with
          | none =>
              have hpiece : expandPiece components depth path (.tag body) =
                  .literal (writeTag body) := by simp only [expandPiece, hbody]
              rw [hpiece]
              exact hrest.text (writeTag body)
          | some name =>
              have htag : IncludeTag (writeTag body) :=
                ⟨body, by rw [hbody, Option.isSome_some], rfl⟩
              have hpiece : expandPiece components depth path (.tag body) =
                  expandInclude components depth path name := by
                simp only [expandPiece, hbody]
              have hname : name ∈ includesOf s :=
                List.mem_filterMap.mpr ⟨.tag body,
                  hsub _ List.mem_cons_self, hbody⟩
              rw [hpiece]
              exact .of_include htag ((hincludes name hname).append
                (hrest.joined hs (Or.inr
                  ⟨before, writeTag body, htag, rfl⟩) hown))

/-- **The parts of a text.**  A text is expanded into stretches of its own and
the parts of its includes. -/
theorem expand_parts (hown : ∀ part, Stretch IncludeTag s part → good part)
    (hincludes : ∀ name ∈ includesOf s,
      JoinedFrom good (expandInclude components depth path name).text) :
    JoinedFrom good (expand components depth path s).text :=
  (expandedFrom_pieces hown hincludes (pieces s) [] (source_pieces s).symm
      fun _ h => h).joined
    (source_pieces s).symm (Or.inl rfl) hown

end Parts

/-- More may have been included. -/
theorem PutIn.mono {included included' : List String}
    (hsub : included ⊆ included') (h : PutIn components included s) :
    PutIn components included' s := by
  obtain ⟨name, hname, hcontent⟩ := h
  exact ⟨name, hsub hname, hcontent⟩

/-- **The parts of an include.**  They are stretches of the components that are
put in for it, and markers. -/
theorem expandInclude_parts (components : Components) (depth : Nat)
    (path : List String) (name : String) :
    (∀ other ∈ path ++ [name], ∀ c ∈ other.toList, Plain c) →
      JoinedFrom (Taken IncludeTag
          (PutIn components (expandInclude components depth path name).included)
          Plain)
        (expandInclude components depth path name).text := by
  apply expandInclude_induction (motive := fun _ path name e =>
    (∀ other ∈ path ++ [name], ∀ c ∈ other.toList, Plain c) →
      JoinedFrom (Taken IncludeTag (PutIn components e.included) Plain) e.text)
  case hlooped =>
    exact fun _ _ _ _ hplain => .of_part (Or.inl (plain_cycleMarker hplain))
  case hdeep =>
    exact fun _ name _ hplain =>
      .of_part (Or.inl (plain_depthMarker (hplain name (by simp))))
  case habsent =>
    exact fun _ _ name _ _ hplain =>
      .of_part (Or.inl (plain_notFoundMarker (hplain name (by simp))))
  case hentered =>
    intro depth path name content _ htext ih hplain
    apply expand_parts
    · exact fun part hstretch =>
        Or.inr ⟨content.toList, ⟨name, List.mem_cons_self, content, htext, rfl⟩,
          hstretch⟩
    · intro nested hnested
      have hplain' : ∀ other ∈ (path ++ [name]) ++ [nested],
          ∀ c ∈ other.toList, Plain c := by
        intro other hother
        rcases List.mem_append.mp hother with hother | hother
        · exact hplain other hother
        · rw [List.mem_singleton.mp hother]
          exact plain_of_mem_includesOf hnested
      have hsub :
          (expandInclude components depth (path ++ [name]) nested).included ⊆
            (Expansion.entered name
              (expand components depth (path ++ [name])
                content.toList)).included := by
        intro other hother
        apply List.mem_cons_of_mem
        rw [included_expand]
        exact List.mem_flatMap.mpr ⟨nested, hnested, hother⟩
      exact (ih nested hnested hplain').mono
        fun _ htaken => htaken.mono fun _ => .mono hsub

/-! ### The parts kept of sections -/

section Sections
variable {bounds : List Bound} {closures : List (Option Closure)}
  {holds : String → Bool} {i j a b c d : Nat} {nodes : List Node}
  {part : List Char} {bound : Bound}

/-- A place where a part of a text up to a place can end: there or at a
bound. -/
def EndsPart (bounds : List Bound) (b y : Nat) : Prop :=
  y = b ∨ ∃ bound ∈ bounds, bound.start = y

/-- A part of a text up to a place, from a bound to the next or to the end. -/
def KeptPart (s : List Char) (bounds : List Bound) (b : Nat)
    (part : List Char) : Prop :=
  ∃ x y, x ≤ y ∧ y ≤ b ∧ part = cut s x y ∧ (∃ bound ∈ bounds, bound.stop = x) ∧
    EndsPart bounds b y

/-- What is kept of nodes: all of the text up to some place, and parts further
on. -/
def KeptFrom (s : List Char) (bounds : List Bound) (a b : Nat)
    (kept : List Char) : Prop :=
  ∃ d later, a ≤ d ∧ d ≤ b ∧ EndsPart bounds b d ∧ kept = cut s a d ++ later ∧
    JoinedFrom (KeptPart s bounds b) later

/-- Parts up to a bound are parts up to any place behind it. -/
theorem KeptPart.extend (h : KeptPart s bounds b part) (hbound : bound ∈ bounds)
    (hstart : bound.start = b) (hbc : b ≤ c) : KeptPart s bounds c part := by
  obtain ⟨x, y, hxy, hyb, hpart, hstop, hend⟩ := h
  refine ⟨x, y, hxy, Nat.le_trans hyb hbc, hpart, hstop, Or.inr ?_⟩
  exact hend.elim (fun hy => ⟨bound, hbound, hstart.trans hy.symm⟩) id

/-- What is kept from a bound on is joined from parts. -/
theorem KeptFrom.joined {kept : List Char} (h : KeptFrom s bounds a b kept)
    (hbound : bound ∈ bounds) (hstop : bound.stop = a) :
    JoinedFrom (KeptPart s bounds b) kept := by
  obtain ⟨d, later, had, hdb, hend, rfl, hlater⟩ := h
  exact (JoinedFrom.of_part ⟨a, d, had, hdb, rfl, ⟨bound, hbound, hstop⟩,
    hend⟩).append hlater

/-- Plain text in front of what is kept. -/
theorem KeptFrom.text {kept : List Char} (h : KeptFrom s bounds b c kept)
    (hab : a ≤ b) :
    KeptFrom s bounds a c (cut s a b ++ kept) := by
  obtain ⟨d, later, hbd, hdc, hend, rfl, hlater⟩ := h
  refine ⟨d, later, Nat.le_trans hab hbd, hdc, hend, ?_, hlater⟩
  rw [← List.append_assoc, cut_append s hab hbd]

/-- A section in front of what is kept: all of it are parts. -/
theorem KeptFrom.of_section (hbound : bound ∈ bounds) (hstart : bound.start = a)
    (hac : a ≤ c) {kept : List Char}
    (h : JoinedFrom (KeptPart s bounds c) kept) : KeptFrom s bounds a c kept :=
  ⟨a, kept, Nat.le_refl a, hac, Or.inr ⟨bound, hbound, hstart⟩,
    by rw [cut_self, List.nil_append], h⟩

/-- **What is kept of nodes** between two places are stretches of the text
there, each from a bound to the next, or from and to the places themselves. -/
theorem keptFrom_of_spans (holds : String → Bool)
    (h : Spans s bounds closures i j a b nodes) :
    KeptFrom s bounds a b (chosenAll holds nodes) := by
  induction h with
  | nil i a =>
      exact ⟨a, [], Nat.le_refl a, Nat.le_refl a,
        Or.inl rfl, by simp [chosenAll, cut_self], .nil⟩
  | plain hab _ ih => exact ih.text hab
  | stray _ _ hab _ ih => exact ih.text hab
  | @only i m j a b c d e name control first rest hopening _ hab hfirst hclosing
      hcd hrest ihfirst ihrest =>
      have hbc := hfirst.le.2
      have hde := hrest.le.2
      have hclosingMem := List.mem_of_getElem? hclosing
      have hlater := ihrest.joined hclosingMem rfl
      refine .of_section (List.mem_of_getElem? hopening) rfl
        (show a ≤ e by omega) ?_
      rw [chosenAll, Node.chosen]
      split
      · have hchosen := ihfirst.joined (List.mem_of_getElem? hopening) rfl
        exact (hchosen.mono fun _ h =>
          h.extend hclosingMem rfl (by omega)).append hlater
      · exact hlater
  | @either i k m j a b c d e f g name middle last first second rest hopening _
      hab hfirst hmiddle hcd hsecond hclosing hef hrest ihfirst ihsecond
      ihrest =>
      have hbc := hfirst.le.2
      have hde := hsecond.le.2
      have hfg := hrest.le.2
      have hmiddleMem := List.mem_of_getElem? hmiddle
      have hclosingMem := List.mem_of_getElem? hclosing
      have hlater := ihrest.joined hclosingMem rfl
      refine .of_section (List.mem_of_getElem? hopening) rfl
        (show a ≤ g by omega) ?_
      rw [chosenAll, Node.chosen]
      split
      · have hchosen := ihfirst.joined (List.mem_of_getElem? hopening) rfl
        exact (hchosen.mono fun _ h =>
          h.extend hmiddleMem rfl (by omega)).append hlater
      · have hchosen := ihsecond.joined hmiddleMem rfl
        exact (hchosen.mono fun _ h =>
          h.extend hclosingMem rfl (by omega)).append hlater

/-- A bound stands in a text where its places say. -/
def StandsIn (bound : Bound) (s : List Char) : Prop :=
  ∃ left tag right, BoundTag tag ∧ s = left ++ (tag ++ right) ∧
    bound.start = left.length ∧ bound.stop = (left ++ tag).length

/-- A bound stands where it is said to, after the pieces before it. -/
theorem standsIn_of_mem_boundsFrom {ps : List Piece} (before : List Char)
    (h : bound ∈ boundsFrom before.length ps) :
    StandsIn bound (before ++ sourceOf ps) := by
  induction ps generalizing before with
  | nil => cases h
  | cons piece ps ih =>
      have hsource :
          before ++ sourceOf (piece :: ps) = (before ++ piece.source) ++
          sourceOf ps := by
        rw [sourceOf, List.flatMap_cons, List.append_assoc, sourceOf]
      have hlater : bound ∈ boundsFrom (before ++ piece.source).length ps →
          StandsIn bound (before ++ sourceOf (piece :: ps)) := by
        intro hbound
        rw [hsource]
        exact ih _ hbound
      rw [List.length_append] at hlater
      cases piece with
      | char c => exact hlater h
      | tag body =>
          cases hcontrol : control? body with
          | none =>
              simp only [boundsFrom, hcontrol] at h
              exact hlater h
          | some control =>
              simp only [boundsFrom, hcontrol] at h
              rcases List.mem_cons.mp h with rfl | h
              · refine ⟨before, writeTag body, sourceOf ps,
                  ⟨body, by rw [hcontrol, Option.isSome_some], rfl⟩, ?_,
                  rfl, ?_⟩
                · rw [hsource, List.append_assoc]
                  rfl
                · rw [List.length_append]
              · exact hlater h

/-- A bound stands in its text. -/
theorem standsIn_of_mem_boundsOf (h : bound ∈ boundsOf s) :
    StandsIn bound s := by
  have hstands := standsIn_of_mem_boundsFrom [] h
  rwa [List.nil_append, source_pieces] at hstands

/-- A part that ends where one can is followed by a bound or by nothing. -/
theorem startsWith_drop_of_endsPart {y : Nat}
    (h : EndsPart (boundsOf s) s.length y) :
    s.drop y = [] ∨ StartsWith BoundTag (s.drop y) := by
  rcases h with rfl | ⟨bound, hbound, rfl⟩
  · exact Or.inl List.drop_length
  · obtain ⟨left, tag, right, htag, hs, hstart, -⟩ :=
      standsIn_of_mem_boundsOf hbound
    refine Or.inr ⟨tag, right, htag, ?_⟩
    rw [hs, hstart, List.drop_left]

/-- The text up to the end of a bound ends with its tag. -/
theorem endsWith_take_of_mem_boundsOf (h : bound ∈ boundsOf s) :
    EndsWith BoundTag (s.take bound.stop) := by
  obtain ⟨left, tag, right, htag, hs, -, hstop⟩ := standsIn_of_mem_boundsOf h
  refine ⟨left, tag, htag, ?_⟩
  rw [hs, hstop, ← List.append_assoc, List.take_left]

/-- A text is what is before a cut, the cut and what is after it. -/
theorem eq_take_cut_drop (s : List Char) {x y : Nat} (hxy : x ≤ y) :
    s = s.take x ++ (cut s x y ++ s.drop y) := by
  have htake : s.take x ++ cut s x y = s.take y := by
    have hcut := cut_append s (Nat.zero_le x) hxy
    simpa [cut] using hcut
  rw [← List.append_assoc, htake, List.take_append_drop]

/-- **What is kept of a text**, whatever is true, are stretches of it between
bounds of sections. -/
theorem resolveSections_parts (holds : String → Bool) (s : List Char) :
    JoinedFrom (Stretch BoundTag s) (resolveSections holds s) := by
  have hresolved :
      resolveSections holds s = chosenAll holds (sectionTree s) := by
    rw [resolveSections, resolveSections?_eq_chosenAll, Option.getD_some]
  obtain ⟨d, later, -, hd, hend, hkept, hlater⟩ :=
    keptFrom_of_spans holds (spans_sectionTree s)
  rw [hresolved, hkept]
  refine (JoinedFrom.of_part ?_).append (hlater.mono ?_)
  · exact ⟨s.take 0, s.drop d, eq_take_cut_drop s (Nat.zero_le d),
      Or.inl List.take_zero, startsWith_drop_of_endsPart hend⟩
  · rintro part ⟨x, y, hxy, -, rfl, ⟨bound, hbound, rfl⟩, hpartEnd⟩
    exact ⟨s.take bound.stop, s.drop y, eq_take_cut_drop s hxy,
      Or.inr (endsWith_take_of_mem_boundsOf hbound),
      startsWith_drop_of_endsPart hpartEnd⟩

end Sections

end TemplateRegistry.Markup
