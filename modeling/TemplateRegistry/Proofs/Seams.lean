import Mathlib.Data.List.Basic
/-!
# Words across seams

A text is rewritten twice.  First it is joined from stretches of other texts,
its sources, each cut out between words of a first kind, with plain characters
in places; then words of a second kind are cut out of what came about, and what
stood between some of them.

A word that does not start or end with a plain character comes through whole
from a source, or else it was put together on the way.  In that case a beginning
of it stands in a source before a cut, and an ending of it after one.  A cut is
at the end of a source or at a word that is cut out; but a word of the second
kind may itself have been put together, so that only a part of it is left in the
source.

* `JoinedFrom` — a text joined from parts of some kind;
* `JoinedFrom.occurrence_cases` — a word in it lies in one of the parts, or
  starts with the end of one;
* `begun_at_end`, `begun_before_word` — what ends before a cut after the first
  rewriting stands before one in a source;
* `whole_or_joined` — the fate of a word over both, seen from both of its ends.
-/

namespace TemplateRegistry.Text

variable {α : Type}

/-- A text joined from parts of some kind. -/
def JoinedFrom (good : List α → Prop) (s : List α) : Prop :=
  ∃ parts : List (List α), s = parts.flatten ∧ ∀ part ∈ parts, good part

/-- A text starts with a word of some kind. -/
def StartsWith (words : List α → Prop) (s : List α) : Prop :=
  ∃ word rest, words word ∧ s = word ++ rest

/-- A text ends with a word of some kind. -/
def EndsWith (words : List α → Prop) (s : List α) : Prop :=
  ∃ rest word, words word ∧ s = rest ++ word

/-- A part of a text between two words of some kind, or between such a word and
an end of the text. -/
def Stretch (words : List α → Prop) (s part : List α) : Prop :=
  ∃ before after, s = before ++ (part ++ after) ∧
    (before = [] ∨ EndsWith words before) ∧
    (after = [] ∨ StartsWith words after)

/-- A part that is plain, or a stretch of a source. -/
def Taken (first source : List α → Prop) (plain : α → Prop)
    (part : List α) : Prop :=
  (∀ a ∈ part, plain a) ∨ ∃ c, source c ∧ Stretch first c part

/-- A text follows a cut: it starts with a word of the second kind, or with what
is left of the beginning of one at the end or at a word of the first kind. -/
def FollowsCut (first second : List α → Prop) (s : List α) : Prop :=
  StartsWith second s ∨ ∃ w rest, s = w ++ rest ∧
    (w = [] ∨ ∃ v, v ≠ [] ∧ second (w ++ v)) ∧
    (rest = [] ∨ StartsWith first rest)

/-- A text precedes a cut: it ends with a word of the second kind, or with what
is left of the ending of one at the start or at a word of the first kind. -/
def PrecedesCut (first second : List α → Prop) (s : List α) : Prop :=
  EndsWith second s ∨ ∃ rest w, s = rest ++ w ∧
    (w = [] ∨ ∃ v, v ≠ [] ∧ second (v ++ w)) ∧ (rest = [] ∨ EndsWith first rest)

/-- A word is begun in a text: a beginning of it, and not all of it, stands
there before a cut. -/
def Begun (first second : List α → Prop) (s word : List α) : Prop :=
  ∃ before u v rest, s = before ++ (u ++ rest) ∧ word = u ++ v ∧ u ≠ [] ∧
    v ≠ [] ∧ FollowsCut first second rest

/-- A word is finished in a text: an ending of it, and not all of it, stands
there after a cut. -/
def Finished (first second : List α → Prop) (s word : List α) : Prop :=
  ∃ before u v rest, s = before ++ (v ++ rest) ∧ word = u ++ v ∧ u ≠ [] ∧
    v ≠ [] ∧ PrecedesCut first second before

/-- Words of a kind, read backwards. -/
def Backwards (words : List α → Prop) (word : List α) : Prop :=
  words word.reverse

variable {good good' first second source source' words : List α → Prop}
  {plain : α → Prop}
variable {s t part word left u v before rest : List α} {a b : α}

/-! ### Joined texts -/

namespace JoinedFrom

theorem nil : JoinedFrom good [] :=
  ⟨[], rfl, by simp⟩

/-- A part alone is joined. -/
theorem of_part (h : good s) : JoinedFrom good s :=
  ⟨[s], by simp, by simpa using h⟩

/-- Joined texts can be joined. -/
theorem append (hs : JoinedFrom good s) (ht : JoinedFrom good t) :
    JoinedFrom good (s ++ t) := by
  obtain ⟨parts, rfl, hparts⟩ := hs
  obtain ⟨more, rfl, hmore⟩ := ht
  refine ⟨parts ++ more, by simp, fun part hpart => ?_⟩
  exact (List.mem_append.mp hpart).elim (hparts part) (hmore part)

/-- A kind of parts may be replaced by a wider one. -/
theorem mono (h : JoinedFrom good s) (hsub : ∀ part, good part → good' part) :
    JoinedFrom good' s := by
  obtain ⟨parts, rfl, hparts⟩ := h
  exact ⟨parts, rfl, fun part hpart => hsub part (hparts part hpart)⟩

/-- Backwards, a joined text is joined of its parts backwards. -/
theorem reverse (h : JoinedFrom good s)
    (hback : ∀ part, good part → good' part.reverse) :
    JoinedFrom good' s.reverse := by
  obtain ⟨parts, rfl, hparts⟩ := h
  refine ⟨(parts.map List.reverse).reverse, List.reverse_flatten,
    fun part hpart => ?_⟩
  obtain ⟨own, hown, rfl⟩ := List.mem_map.mp (List.mem_reverse.mp hpart)
  exact hback own (hparts own hown)

/-- **A word within joined parts** lies in the part it starts in, or starts with
the end of that part. -/
theorem occurrence_cases (h : JoinedFrom good s)
    (hs : s = before ++ (word ++ rest)) (hword : word ≠ []) :
    ∃ part, good part ∧ ((∃ left q right, part = left ++ (word ++ q) ∧
        rest = q ++ right) ∨
      ∃ left u v, part = left ++ u ∧ word = u ++ v ∧ u ≠ [] ∧ v ≠ []) := by
  obtain ⟨parts, rfl, hparts⟩ := h
  induction parts generalizing before with
  | nil =>
      simp only [List.flatten_nil, List.nil_eq, List.append_eq_nil_iff] at hs
      exact absurd hs.2.1 hword
  | cons part parts ih =>
      have hrest : ∀ other ∈ parts, good other :=
        fun other hother => hparts other (List.mem_cons_of_mem _ hother)
      have hpart := hparts part List.mem_cons_self
      rw [List.flatten_cons] at hs
      rcases List.append_eq_append_iff.mp hs with ⟨later, -, hlater⟩ |
        ⟨here, hown, hhere⟩
      · exact ih hrest hlater
      · rcases List.append_eq_append_iff.mp hhere with ⟨q, hq, hright⟩ |
          ⟨v, hv, hlater⟩
        · exact ⟨part, hpart, Or.inl ⟨before, q, _, hq ▸ hown, hright⟩⟩
        · by_cases hnone : here = []
          · have hstart : parts.flatten = [] ++ (word ++ rest) := by
              rw [hlater, hv, hnone, List.nil_append, List.nil_append]
            exact ih hrest hstart
          · by_cases hdone : v = []
            · have hwhole : part = before ++ (word ++ []) := by
                rw [hown, hv, hdone, List.append_nil, List.append_nil]
              exact ⟨part, hpart, Or.inl ⟨before, [], rest, hwhole, rfl⟩⟩
            · exact ⟨part, hpart,
                Or.inr ⟨before, here, v, hown, hv, hnone, hdone⟩⟩

end JoinedFrom

/-- A part of a source is one of more sources. -/
theorem Taken.mono (h : Taken first source plain part)
    (hsub : ∀ c, source c → source' c) :
    Taken first source' plain part :=
  h.imp id fun ⟨c, hc, hstretch⟩ => ⟨c, hsub c hc, hstretch⟩

/-- The first of two texts has the first character, unless it is empty. -/
theorem mem_of_head?_append (h : (u ++ v).head? = some a) (hu : u ≠ []) :
    a ∈ u := by
  rw [List.head?_append_of_ne_nil _ hu] at h
  exact List.mem_of_head? h

/-- A text with a first character is not empty. -/
theorem ne_nil_of_head? (h : s.head? = some a) : s ≠ [] := by
  rintro rfl
  cases h

/-- **A word within what was taken** stands in a stretch of a source, or starts
with the end of one. -/
theorem stretch_of_occurrence (h : JoinedFrom (Taken first source plain) s)
    (hs : s = before ++ (word ++ rest)) (hhead : word.head? = some a)
    (ha : ¬ plain a) :
    ∃ c part, source c ∧ Stretch first c part ∧
      ((∃ left q right, part = left ++ (word ++ q) ∧ rest = q ++ right) ∨
        ∃ left u v, part = left ++ u ∧ word = u ++ v ∧ u ≠ [] ∧ v ≠ []) := by
  obtain ⟨part, htaken, hcases⟩ := h.occurrence_cases hs (ne_nil_of_head? hhead)
  have hmem : a ∈ part := by
    rcases hcases with ⟨left, q, right, rfl, -⟩ | ⟨left, u, v, rfl, rfl, hu, -⟩
    · exact List.mem_append_right left
        (List.mem_append_left q (List.mem_of_head? hhead))
    · exact List.mem_append_right left (mem_of_head?_append hhead hu)
  obtain ⟨c, hc, hstretch⟩ :=
    htaken.resolve_left fun hplain => ha (hplain a hmem)
  exact ⟨c, part, hc, hstretch, hcases⟩

/-! ### Words that are begun -/

/-- A beginning of a word at the end of a stretch is begun in the text of the
stretch. -/
theorem begun_of_stretch (h : Stretch first s part) (hpart : part = left ++ u)
    (hword : word = u ++ v) (hu : u ≠ []) (hv : v ≠ []) :
    Begun first second s word := by
  obtain ⟨outside, after, hs, -, hafter⟩ := h
  refine ⟨outside ++ left, u, v, after, ?_, hword, hu, hv,
    Or.inr ⟨[], after, rfl, Or.inl rfl, hafter⟩⟩
  simp only [hs, hpart, List.append_assoc]

/-- What stands at the end of all that was taken, and is the beginning of a
longer word, is begun in a source. -/
theorem begun_at_end (h : JoinedFrom (Taken first source plain) s)
    (hs : s = before ++ (u ++ [])) (hword : word = u ++ v) (hv : v ≠ [])
    (hhead : u.head? = some a) (ha : ¬ plain a) :
    ∃ c, source c ∧ Begun first second c word := by
  obtain ⟨c, part, hc, hstretch, ⟨left, q, right, hwhole, hq⟩ |
    ⟨left, x, y, hend, hu, hx, -⟩⟩ :=
    stretch_of_occurrence h hs hhead ha
  · obtain ⟨rfl, -⟩ := List.append_eq_nil_iff.mp hq.symm
    rw [List.append_nil] at hwhole
    exact ⟨c, hc,
      begun_of_stretch hstretch hwhole hword (ne_nil_of_head? hhead) hv⟩
  · have hlonger : word = x ++ (y ++ v) := by rw [hword, hu, List.append_assoc]
    exact ⟨c, hc, begun_of_stretch hstretch hend hlonger hx
      (List.append_ne_nil_of_right_ne_nil y hv)⟩

/-- What stands before a word of the second kind, and is the beginning of a
longer word, is begun in a source. -/
theorem begun_before_word {cut : List α}
    (h : JoinedFrom (Taken first source plain) s)
    (hs : s = before ++ (u ++ (cut ++ rest))) (hcut : second cut)
    (hword : word = u ++ v) (hv : v ≠ []) (hhead : u.head? = some a)
    (ha : ¬ plain a) :
    ∃ c, source c ∧ Begun first second c word := by
  have hu : u ≠ [] := ne_nil_of_head? hhead
  have hjoined : s = before ++ ((u ++ cut) ++ rest) := by
    rw [hs, List.append_assoc]
  have hhead' : (u ++ cut).head? = some a := by
    rw [List.head?_append_of_ne_nil _ hu, hhead]
  obtain ⟨c, part, hc, hstretch, ⟨left, q, right, hwhole, -⟩ |
    ⟨left, x, y, hend, hx, hxnil, hy⟩⟩ :=
    stretch_of_occurrence h hjoined hhead' ha
  · -- the word that is cut out stands whole in the same source
    obtain ⟨outside, beyond, hc', -, -⟩ := hstretch
    refine ⟨c, hc, outside ++ left, u, v, cut ++ (q ++ beyond), ?_, hword, hu,
      hv, Or.inl ⟨cut, q ++ beyond, hcut, rfl⟩⟩
    simp only [hc', hwhole, List.append_assoc]
  · rcases List.append_eq_append_iff.mp hx with ⟨w, hxw, hcutw⟩ | ⟨y', hu', -⟩
    · -- no more than a beginning of the word that is cut out stands in the
      -- source
      obtain ⟨outside, beyond, hc', -, hbeyond⟩ := hstretch
      refine ⟨c, hc, outside ++ left, u, v, w ++ beyond, ?_, hword, hu, hv,
        Or.inr ⟨w, beyond, rfl, Or.inr ⟨y, hy, hcutw ▸ hcut⟩, hbeyond⟩⟩
      simp only [hc', hend, hxw, List.append_assoc]
    · have hlonger : word = x ++ (y' ++ v) := by
        rw [hword, hu', List.append_assoc]
      exact ⟨c, hc, begun_of_stretch hstretch hend hlonger hxnil
        (List.append_ne_nil_of_right_ne_nil y' hv)⟩

/-- **Whole or begun.**  A word in the text after both rewritings stands whole
in a source, or is begun in one. -/
theorem whole_or_begun (hs : JoinedFrom (Taken first source plain) s)
    (ht : JoinedFrom (Stretch second s) t)
    (hword : t = before ++ (word ++ rest)) (hhead : word.head? = some a)
    (ha : ¬ plain a) :
    (∃ c, source c ∧ word <:+: c) ∨
      ∃ c, source c ∧ Begun first second c word := by
  obtain ⟨part, ⟨outside, beyond, hpart, -, hbeyond⟩,
      ⟨left, q, right, hwhole, -⟩ | ⟨left, u, v, hend, rfl, hu, hv⟩⟩ :=
    ht.occurrence_cases hword (ne_nil_of_head? hhead)
  · -- nothing was cut out of the word
    have hs' : s = (outside ++ left) ++ (word ++ (q ++ beyond)) := by
      simp only [hpart, hwhole, List.append_assoc]
    obtain ⟨c, own, hc, hstretch, ⟨left', q', -, hown, -⟩ |
      ⟨left', u, v, hend, hword', hu, hv⟩⟩ :=
      stretch_of_occurrence hs hs' hhead ha
    · obtain ⟨outside', beyond', hc', -, -⟩ := hstretch
      refine Or.inl ⟨c, hc, outside' ++ left', q' ++ beyond', ?_⟩
      simp only [hc', hown, List.append_assoc]
    · exact Or.inr ⟨c, hc, begun_of_stretch hstretch hend hword' hu hv⟩
  · have hs' : s = (outside ++ left) ++ (u ++ beyond) := by
      simp only [hpart, hend, List.append_assoc]
    rw [List.head?_append_of_ne_nil _ hu] at hhead
    right
    rcases hbeyond with rfl | ⟨cut, after, hcut, rfl⟩
    · exact begun_at_end hs hs' rfl hv hhead ha
    · exact begun_before_word hs hs' hcut rfl hv hhead ha

/-! ### From the other end -/

/-- What starts backwards with a word ends with it. -/
theorem startsWith_reverse : StartsWith (Backwards words) s.reverse ↔
    EndsWith words s := by
  constructor
  · rintro ⟨word, rest, hword, hs⟩
    refine ⟨rest.reverse, word.reverse, hword, ?_⟩
    rw [← List.reverse_append, ← hs, List.reverse_reverse]
  · rintro ⟨rest, word, hword, rfl⟩
    refine ⟨word.reverse, rest.reverse, ?_, List.reverse_append⟩
    rwa [Backwards, List.reverse_reverse]

/-- What ends backwards with a word starts with it. -/
theorem endsWith_reverse : EndsWith (Backwards words) s.reverse ↔
    StartsWith words s := by
  have hback : Backwards (Backwards words) = words := by
    funext word
    rw [Backwards, Backwards, List.reverse_reverse]
  rw [← startsWith_reverse, List.reverse_reverse, hback]

/-- A stretch backwards is a stretch of the text backwards. -/
theorem Stretch.reverse (h : Stretch words s part) :
    Stretch (Backwards words) s.reverse part.reverse := by
  obtain ⟨outside, beyond, rfl, houtside, hbeyond⟩ := h
  refine ⟨beyond.reverse, outside.reverse, ?_, ?_, ?_⟩
  · simp only [List.reverse_append, List.append_assoc]
  · exact hbeyond.imp
      (fun h => by rw [h, List.reverse_nil]) endsWith_reverse.mpr
  · exact houtside.imp
      (fun h => by rw [h, List.reverse_nil]) startsWith_reverse.mpr

/-- A part taken from a source is, backwards, taken from the source
backwards. -/
theorem Taken.reverse (h : Taken first source plain part) :
    Taken (Backwards first) (Backwards source) plain part.reverse := by
  rcases h with hplain | ⟨c, hc, hstretch⟩
  · exact Or.inl fun a ha => hplain a (List.mem_reverse.mp ha)
  · exact Or.inr ⟨c.reverse, by rwa [Backwards, List.reverse_reverse],
      hstretch.reverse⟩

/-- What follows a cut backwards precedes one. -/
theorem PrecedesCut.of_reverse
    (h : FollowsCut (Backwards first) (Backwards second) s) :
    PrecedesCut first second s.reverse := by
  rcases h with hword | ⟨w, rest, rfl, hw, hrest⟩
  · rw [← List.reverse_reverse s] at hword
    exact Or.inl (startsWith_reverse.mp hword)
  · refine Or.inr ⟨rest.reverse, w.reverse, List.reverse_append, ?_, ?_⟩
    · rcases hw with rfl | ⟨v, hv, hsecond⟩
      · exact Or.inl rfl
      · rw [Backwards, List.reverse_append] at hsecond
        exact Or.inr ⟨v.reverse, fun h => hv (List.reverse_eq_nil_iff.mp h),
          hsecond⟩
    · rcases hrest with rfl | hrest
      · exact Or.inl rfl
      · rw [← List.reverse_reverse rest] at hrest
        exact Or.inr (startsWith_reverse.mp hrest)

/-- What is begun backwards is finished. -/
theorem Finished.of_reverse
    (h : Begun (Backwards first) (Backwards second) s word.reverse) :
    Finished first second s.reverse word := by
  obtain ⟨before, u, v, rest, rfl, hword, hu, hv, hcut⟩ := h
  refine ⟨rest.reverse, v.reverse, u.reverse, before.reverse, ?_, ?_,
    fun h => hv (List.reverse_eq_nil_iff.mp h),
    fun h => hu (List.reverse_eq_nil_iff.mp h), .of_reverse hcut⟩
  · simp only [List.reverse_append, List.append_assoc]
  · rw [← List.reverse_append, ← hword, List.reverse_reverse]

/-- **Whole or joined.**  A word without plain characters at its ends stands
whole in a source; or a beginning of it stands in one before a cut, and an
ending of it in one after a cut. -/
theorem whole_or_joined (hs : JoinedFrom (Taken first source plain) s)
    (ht : JoinedFrom (Stretch second s) t) (hword : word <:+: t)
    (hhead : word.head? = some a) (ha : ¬ plain a)
    (hlast : word.getLast? = some b) (hb : ¬ plain b) :
    (∃ c, source c ∧ word <:+: c) ∨
      (∃ c, source c ∧ Begun first second c word) ∧
        ∃ c, source c ∧ Finished first second c word := by
  obtain ⟨before, rest, rfl⟩ := hword
  rcases whole_or_begun hs ht (List.append_assoc before word rest) hhead ha
    with hwhole | hbegun
  · exact Or.inl hwhole
  · have hs' := hs.reverse fun _ htaken => htaken.reverse
    have ht' := ht.reverse fun _ hstretch => hstretch.reverse
    have hback : (before ++ word ++ rest).reverse =
        rest.reverse ++ (word.reverse ++ before.reverse) := by
      simp only [List.reverse_append, List.append_assoc]
    have hhead' : word.reverse.head? = some b := by
      rw [List.head?_reverse, hlast]
    rcases whole_or_begun hs' ht' hback hhead' hb with ⟨c, hc, hwhole⟩ |
      ⟨c, hc, hfinished⟩
    · exact Or.inl ⟨c.reverse, hc, by
        rwa [← List.reverse_infix, List.reverse_reverse]⟩
    · exact Or.inr ⟨hbegun, c.reverse, hc, .of_reverse hfinished⟩

end TemplateRegistry.Text
