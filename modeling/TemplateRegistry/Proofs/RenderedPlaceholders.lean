import Mathlib.Data.List.TakeWhile
import TemplateRegistry.Proofs.TextParts
/-!
# The placeholders of a render

The names a text uses are read off its tags before anything is rewritten; the
values are put in after its includes and sections were.  A tag that stands whole
in the text, or in a component put in, is the same tag then.  But the rewriting
can also put a tag together, from braces that were none of a tag before: two
braces in a section, say, and the rest of the tag behind it.

* `tag_mem_pieces_iff` — a tag of a text is any place where it is written;
* `tag_whole_or_joined` — a tag of the resolved text stands whole in a text that
  was read, or was put together at cuts;
* `rendered_placeholders_listed` — every placeholder is listed or was put
  together;
* `joined_placeholder_unlisted` — one that was put together, and is not listed.
-/

namespace TemplateRegistry.Markup

open Text (JoinedFrom StartsWith Taken FollowsCut Begun Finished)

variable {s body rest : List Char} {name : String}

/-! ### The tags of a text -/

/-- An opening brace is not plain. -/
theorem not_plain_opening : ¬ Plain '\x7b' := by
  unfold Plain
  decide

/-- A closing brace is not plain. -/
theorem not_plain_closing : ¬ Plain '\x7d' := by
  unfold Plain
  decide

/-- What stands in a tag has no braces. -/
theorem plain_of_tagBody? (h : tagBody? s = some body) :
    ∀ c ∈ body, Plain c := by
  unfold tagBody? at h
  split at h
  · split at h
    · obtain rfl := Option.some.inj h
      intro c hc
      simpa [Plain] using List.mem_takeWhile_imp hc
    · cases h
  · cases h

/-- A tag is read as what was written in it. -/
theorem tagBody?_writeTag (hbody : ∀ c ∈ body, Plain c) (rest : List Char) :
    tagBody? (writeTag body ++ rest) = some body := by
  have hall : ∀ c ∈ body, (!isBrace c) = true :=
    fun c hc => by simpa [Plain] using hbody c hc
  have hstop : (!isBrace '\x7d') = false := by decide
  have hwritten : writeTag body ++ rest =
      '\x7b' :: '\x7b' :: (body ++ '\x7d' :: '\x7d' :: rest) := by
    simp [writeTag]
  have hdrop :
      (body ++ '\x7d' :: '\x7d' :: rest).dropWhile (fun c => !isBrace c) =
      '\x7d' :: '\x7d' :: rest := by
    rw [List.dropWhile_append_of_pos hall, List.dropWhile_cons, hstop]
    rfl
  have htake :
      (body ++ '\x7d' :: '\x7d' :: rest).takeWhile (fun c => !isBrace c) =
        body := by
    rw [List.takeWhile_append_of_pos hall, List.takeWhile_cons, hstop]
    simp
  rw [hwritten, tagBody?, hdrop]
  simp only [htake]

/-- **A text, piece by piece.**  What holds of no text, and is kept by a
character that starts no tag and by a tag put in front, holds of every text. -/
theorem pieces_induction {motive : List Char → Prop} (hnil : motive [])
    (hchar : ∀ c rest, tagBody? (c :: rest) = none → motive rest →
      motive (c :: rest))
    (htag : ∀ body rest, (∀ c ∈ body, Plain c) → motive rest →
      motive (writeTag body ++ rest))
    (s : List Char) : motive s := by
  induction hlength : s.length using Nat.strongRecOn generalizing s with
  | ind n ih =>
      cases s with
      | nil => exact hnil
      | cons c rest =>
          cases hbody : tagBody? (c :: rest) with
          | none =>
              exact hchar c rest hbody
                (ih rest.length (by simp [← hlength]) rest rfl)
          | some body =>
              obtain ⟨after, hafter⟩ := tagBody?_eq_some hbody
              rw [hafter] at hlength ⊢
              apply htag body after (plain_of_tagBody? hbody)
              exact ih after.length
                (by simp [← hlength, writeTag]; omega) after rfl

/-- The opening braces of a tag are its first two characters. -/
theorem opening_of_writeTag {left right : List Char}
    (hbody : ∀ c ∈ body, Plain c)
    (h : writeTag body = left ++ '\x7b' :: right) :
    left = [] ∨ left = ['\x7b'] ∧ right = body ++ ['\x7d', '\x7d'] := by
  cases left with
  | nil => exact Or.inl rfl
  | cons first left =>
      cases left with
      | nil =>
          simp only [writeTag, List.cons_append, List.nil_append,
            List.cons.injEq] at h
          exact Or.inr ⟨by rw [← h.1], h.2.2.symm⟩
      | cons second left =>
          exfalso
          simp only [writeTag, List.cons_append, List.cons.injEq] at h
          have hmem : '\x7b' ∈ body ++ ['\x7d', '\x7d'] := by
            rw [h.2.2]
            simp
          rcases List.mem_append.mp hmem with hmem | hmem
          · exact absurd (hbody _ hmem) not_plain_opening
          · exact absurd hmem (by decide)

/-- What is left of a tag after its opening braces starts with none. -/
theorem not_opening_of_plain (hbody : ∀ c ∈ body, Plain c)
    (right rest : List Char) :
    body ++ '\x7d' :: right ≠ '\x7b' :: rest := by
  intro h
  cases body with
  | nil => exact absurd (List.cons.inj h).1 (by decide)
  | cons c body =>
      obtain ⟨rfl, -⟩ := List.cons.inj h
      exact absurd (hbody _ List.mem_cons_self) not_plain_opening

/-- Tags do not overlap: where one starts behind the start of another, it starts
behind its end. -/
theorem writeTag_prefix_of_later {other left right : List Char}
    (hbody : ∀ c ∈ body, Plain c)
    (h : writeTag body ++ rest = left ++ (writeTag other ++ right))
    (hleft : left ≠ []) :
    ∃ between, rest = between ++ (writeTag other ++ right) := by
  rcases List.append_eq_append_iff.mp h with ⟨between, -, hrest⟩ |
    ⟨overlap, hwritten, hother⟩
  · exact ⟨between, hrest⟩
  · cases overlap with
    | nil => exact ⟨[], hother.symm⟩
    | cons c overlap =>
        exfalso
        simp only [writeTag, List.cons_append, List.cons.injEq] at hother
        obtain ⟨rfl, hother⟩ := hother
        obtain ⟨-, rfl⟩ :=
          (opening_of_writeTag hbody hwritten).resolve_left hleft
        -- the overlap starts with the second brace of the other tag
        rw [List.append_assoc body] at hother
        exact not_opening_of_plain hbody _ _ hother.symm

/-- **The tags of a text** are all places of it where a tag is written. -/
theorem tag_mem_pieces_iff :
    .tag body ∈ pieces s ↔ (∀ c ∈ body, Plain c) ∧ writeTag body <:+: s := by
  induction s using pieces_induction with
  | hnil =>
      constructor
      · intro h
        cases h
      · rintro ⟨-, hinfix⟩
        exact absurd (List.eq_nil_of_infix_nil hinfix) (by simp [writeTag])
  | hchar c rest hnone ih =>
      rw [pieces_of_no_tag hnone, List.mem_cons, List.infix_cons_iff]
      constructor
      · rintro (h | h)
        · cases h
        · exact ⟨(ih.mp h).1, Or.inr (ih.mp h).2⟩
      · rintro ⟨hbody, ⟨after, hprefix⟩ | hinfix⟩
        · rw [← hprefix, tagBody?_writeTag hbody] at hnone
          cases hnone
        · exact Or.inr (ih.mpr ⟨hbody, hinfix⟩)
  | htag own rest hown ih =>
      rw [pieces_of_tag (tagBody?_writeTag hown rest) rfl, List.mem_cons]
      constructor
      · rintro (h | h)
        · obtain rfl := Piece.tag.inj h
          exact ⟨hown, [], rest, rfl⟩
        · exact ⟨(ih.mp h).1,
            (ih.mp h).2.trans (List.suffix_append _ _).isInfix⟩
      · rintro ⟨hbody, left, right, hinfix⟩
        rw [List.append_assoc] at hinfix
        by_cases hleft : left = []
        · rw [hleft, List.nil_append] at hinfix
          have hsame := tagBody?_writeTag hown rest
          rw [← hinfix, tagBody?_writeTag hbody] at hsame
          exact Or.inl (congrArg Piece.tag (Option.some.inj hsame))
        · obtain ⟨between, hrest⟩ :=
            writeTag_prefix_of_later hown hinfix.symm hleft
          refine Or.inr (ih.mpr ⟨hbody, between, right, ?_⟩)
          rw [hrest, List.append_assoc]

/-- The placeholders of a text are those of its tags. -/
theorem placeholder_mem_segmentsOf_iff {tag : List Char} :
    .placeholder name tag ∈ segmentsOf s ↔
      ∃ body, .tag body ∈ pieces s ∧ placeholder? body = some name ∧
        tag = writeTag body := by
  rw [segmentsOf, List.mem_map]
  constructor
  · rintro ⟨piece, hpiece, hsegment⟩
    cases piece with
    | char c => cases hsegment
    | tag body =>
        simp only [segmentOf] at hsegment
        split at hsegment
        next other hother =>
          obtain ⟨rfl, rfl⟩ := Segment.placeholder.inj hsegment
          exact ⟨body, hpiece, hother, rfl⟩
        next => cases hsegment
  · rintro ⟨body, hpiece, hname, rfl⟩
    exact ⟨.tag body, hpiece, by simp only [segmentOf, hname]⟩

/-- The listed placeholders are those of the tags of a text. -/
theorem mem_placeholders_ofText {text : String} :
    name ∈ (Directives.ofText text).placeholders ↔
      ∃ body, .tag body ∈ pieces text.toList ∧
        placeholder? body = some name := by
  refine Ascending.mem_ofList.trans (List.mem_filterMap.trans ?_)
  constructor
  · rintro ⟨piece, hpiece, hname⟩
    cases piece with
    | char c => cases hname
    | tag body => exact ⟨body, hpiece, hname⟩
  · rintro ⟨body, hpiece, hname⟩
    exact ⟨.tag body, hpiece, hname⟩

/-! ### Where placeholders come from -/

/-- A text that a render reads: the content itself, or a component put in. -/
def IsSource (content : String) (components : Components)
    (included : List String) (text : String) : Prop :=
  text = content ∨ ∃ name ∈ included, components.text? name = some text

/-- The text of a render when the values are put in. -/
def resolvedText (depth : Nat) (content : String) (params : Parameters)
    (components : Components) : List Char :=
  resolveSections (isTruthy params)
    (expand components depth [] content.toList).text

/-- The parts of the expansion of a text, from the texts that are read for
it. -/
theorem expansion_parts (depth : Nat) (content : String)
    (components : Components) :
    let expansion := expand components depth [] content.toList
    JoinedFrom (Taken IncludeTag
      (fun s => ∃ text, IsSource content components expansion.included text ∧
        s = text.toList)
      Plain) expansion.text := by
  intro expansion
  apply expand_parts
  · exact fun part hstretch =>
      Or.inr ⟨content.toList, ⟨content, Or.inl rfl, rfl⟩, hstretch⟩
  · intro name hname
    have hplain : ∀ other ∈ [] ++ [name], ∀ c ∈ other.toList, Plain c := by
      simpa using plain_of_mem_includesOf hname
    refine (expandInclude_parts components depth [] name hplain).mono
      fun _ htaken => htaken.mono ?_
    rintro s ⟨other, hother, text, htext, rfl⟩
    have hincluded : other ∈ expansion.included := by
      simp only [expansion, included_expand]
      exact List.mem_flatMap.mpr ⟨name, hname, hother⟩
    exact ⟨text, Or.inr ⟨other, hincluded, htext⟩, rfl⟩

/-- What is unresolved are placeholders of the resolved text. -/
theorem placeholder_of_mem_unresolved {depth : Nat} {content : String}
    {params : Parameters} {components : Components}
    (h : name ∈ (render depth content params components).unresolved) :
    ∃ tag, .placeholder name tag ∈
      segmentsOf (resolvedText depth content params components) := by
  obtain ⟨segment, hsegment, hunresolved⟩ := List.mem_filterMap.mp h
  cases segment with
  | literal text => cases hunresolved
  | placeholder other tag =>
      simp only [Segment.unresolved?, Option.ite_none_right_eq_some,
          Option.some.injEq]
        at hunresolved
      obtain ⟨-, rfl⟩ := hunresolved
      exact ⟨tag, hsegment⟩

/-- A tag of the resolved text stands whole in a text that was read, or was
begun in one and finished in one. -/
theorem tag_whole_or_joined (depth : Nat) (content : String)
    (params : Parameters) (components : Components)
    (h : .tag body ∈ pieces (resolvedText depth content params components)) :
    let source :=
      IsSource content components
        (render depth content params components).included
    (∃ c, source c ∧ .tag body ∈ pieces c.toList) ∨
      (∃ c, source c ∧ Begun IncludeTag BoundTag c.toList (writeTag body)) ∧
        ∃ c, source c ∧
        Finished IncludeTag BoundTag c.toList (writeTag body) := by
  intro source
  obtain ⟨hbody, hinfix⟩ := tag_mem_pieces_iff.mp h
  have hlast : (writeTag body).getLast? = some '\x7d' := by
    simp [writeTag, List.getLast?_cons, List.getLast?_append]
  rcases Text.whole_or_joined (expansion_parts depth content components)
      (resolveSections_parts (isTruthy params) _) hinfix rfl not_plain_opening
      hlast not_plain_closing with
    ⟨_, ⟨c, hc, rfl⟩, hwhole⟩ |
      ⟨⟨_, ⟨c, hc, rfl⟩, hbegun⟩, _, ⟨d, hd, rfl⟩, hfinished⟩
  · exact Or.inl ⟨c, hc, tag_mem_pieces_iff.mpr ⟨hbody, hwhole⟩⟩
  · exact Or.inr ⟨⟨c, hc, hbegun⟩, d, hd, hfinished⟩

/-- **Every placeholder is listed, unless its tag was put together.**  The
values are put into the resolved text, and what is unresolved are placeholders
of it.  Each of its placeholders is listed for the content or a component put
in; or else its tag is begun in one of these texts before a cut, and finished in
one of them after a cut. -/
theorem rendered_placeholders_listed (depth : Nat) (content : String)
    (params : Parameters) (components : Components) :
    let output := render depth content params components
    let text := resolvedText depth content params components
    let source := IsSource content components output.included
    output.text =
      String.ofList ((segmentsOf text).flatMap (Segment.fill params)) ∧
      (∀ name ∈ output.unresolved, ∃ tag,
        .placeholder name tag ∈ segmentsOf text) ∧
      ∀ name tag, .placeholder name tag ∈ segmentsOf text →
        (∃ c, source c ∧ name ∈ (Directives.ofText c).placeholders) ∨
          (∃ c, source c ∧ Begun IncludeTag BoundTag c.toList tag) ∧
            ∃ c, source c ∧ Finished IncludeTag BoundTag c.toList tag := by
  intro output text source
  refine ⟨rfl, fun name hname => placeholder_of_mem_unresolved hname, ?_⟩
  intro name tag hplaceholder
  obtain ⟨body, htag, hname, rfl⟩ :=
    placeholder_mem_segmentsOf_iff.mp hplaceholder
  rcases tag_whole_or_joined depth content params components htag
    with ⟨c, hc, hwhole⟩ | hjoined
  · exact Or.inl ⟨c, hc, mem_placeholders_ofText.mpr ⟨body, hwhole, hname⟩⟩
  · exact Or.inr hjoined

/-- A tag put together from braces in a section and a component behind it. -/
theorem joined_placeholder_begun_and_finished :
    let content :=
      "\x7b\x7bif a\x7d\x7d\x7b\x7b\x7b\x7bendif\x7d\x7d\x7b\x7binclude rest\x7d\x7d"
    let components := [("rest", "x\x7d\x7d")]
    let output := render 8 content [("a", .boolean true)] components
    let source := IsSource content components output.included
    output.unresolved = ["x"] ∧
      (∃ c, source c ∧ Begun IncludeTag BoundTag c.toList (writeTag ['x'])) ∧
      ∃ c, source c ∧
        Finished IncludeTag BoundTag c.toList (writeTag ['x']) := by
  intro content components output source
  obtain ⟨-, -, hlisted⟩ :=
    rendered_placeholders_listed 8 content [("a", .boolean true)] components
  have hunresolved : output.unresolved = ["x"] := by decide +kernel
  have hincluded : output.included = ["rest"] := by decide +kernel
  have hplaceholder : .placeholder "x" (writeTag ['x']) ∈
      segmentsOf
        (resolvedText 8 content [("a", .boolean true)] components) := by
    decide +kernel
  refine ⟨hunresolved,
    (hlisted "x" (writeTag ['x']) hplaceholder).resolve_left ?_⟩
  rintro ⟨c, rfl | ⟨name, hname, htext⟩, hx⟩
  · exact absurd hx (by decide +kernel)
  · rw [hincluded, List.mem_singleton] at hname
    subst hname
    obtain rfl : "x\x7d\x7d" = c := Option.some.inj htext
    exact absurd hx (by decide +kernel)

/-- Two braces in a section and two behind it: the tag that comes about is
reported as unresolved, and listed nowhere. -/
theorem joined_placeholder_unlisted :
    let content := "\x7b\x7bif a\x7d\x7d\x7b\x7b\x7b\x7bendif\x7d\x7dx\x7d\x7d"
    let output := render 8 content [("a", .boolean true)] []
    ¬ ∀ name ∈ output.unresolved, ∃ c, IsSource content [] output.included c ∧
      name ∈ (Directives.ofText c).placeholders := by
  intro content output hlisted
  have hunresolved : "x" ∈ output.unresolved := by decide +kernel
  obtain ⟨c, rfl | ⟨name, -, htext⟩, hname⟩ := hlisted "x" hunresolved
  · exact absurd hname (by decide +kernel)
  · cases htext

end TemplateRegistry.Markup
