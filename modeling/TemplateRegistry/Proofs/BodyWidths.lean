import TemplateRegistry.Proofs.PrintedPages
/-!
# How wide the lines of a printable file are

A line is cut where it has as many characters as there are columns between the
margins, and is printed after that.  In print a tab is four blanks, and every
other character is one glyph.  So a piece of a line has more glyphs than
characters, three for each of its tabs, and with too many of them it runs off
the page.  A line without tabs fits, and no piece is wider than four times the
columns.

* `glyphs`, `length_printed` — the glyphs of a text in print;
* `bodyTexts`, `bodyTexts_shownPages` — the texts shown in the font of the body;
* `glyphs_le_of_no_tab`, `glyphs_le` — the glyphs of a piece of a line;
* `body_fits_iff` — the width of every text of the body;
* `tabs_run_off_the_page` — a line that does not fit.
-/

namespace TemplateRegistry.Report.Pdf

/-- The glyphs of a text in print. -/
def glyphs (s : List Char) : Nat :=
  s.length + 3 * s.count '\t'

/-- A tab is printed as four blanks, any other character as one. -/
theorem length_printedChar (c : Char) :
    (printedChar c).length = if c = '\t' then 4 else 1 := by
  unfold printedChar
  split
  · rfl
  · split <;> rfl

/-- A text is printed with its glyphs. -/
theorem length_printed (s : List Char) : (printed s).length = glyphs s := by
  induction s with
  | nil => rfl
  | cons c rest ih =>
      have hprinted : printed (c :: rest) = printedChar c ++ printed rest :=
        List.flatMap_cons
      rw [hprinted, List.length_append, ih, length_printedChar, glyphs, glyphs,
        List.length_cons, List.count_cons]
      by_cases htab : c = '\t'
      · rw [if_pos htab, if_pos (by simpa using htab)]
        omega
      · rw [if_neg htab, if_neg (by simpa using htab)]
        omega

/-- Without tabs a text is as wide as it is long. -/
theorem glyphs_of_no_tab {s : List Char} (h : '\t' ∉ s) :
    glyphs s = s.length := by
  rw [glyphs, List.count_eq_zero_of_not_mem h, Nat.mul_zero, Nat.add_zero]

/-- A text is at most four times as wide as long. -/
theorem glyphs_le_mul (s : List Char) : glyphs s ≤ 4 * s.length := by
  have hcount : s.count '\t' ≤ s.length := List.count_le_length
  rw [glyphs]
  omega

/-! ### Pieces of lines -/

section Pieces

variable {lines : List String} {pieces : List (List (List Char))}
  {piece : List Char}

/-- A piece is one of a line, cut where that is full. -/
theorem exists_line_of_mem
    (hcut : List.Forall₂ (fun line cut => IsHardWrap line.toList cut)
      lines pieces)
    (h : piece ∈ pieces.flatten) :
    ∃ line ∈ lines, piece.length ≤ maxColumns ∧
      ∀ c ∈ piece, c ∈ line.toList := by
  induction hcut with
  | nil => cases h
  | @cons line cut others more hline _ ih =>
      rw [List.flatten_cons, List.mem_append] at h
      rcases h with hfirst | hlater
      · refine ⟨line, List.mem_cons_self, hline.within piece hfirst,
          fun c hc => ?_⟩
        rw [← hline.flatten]
        exact List.mem_flatten.mpr ⟨piece, hfirst, hc⟩
      · obtain ⟨other, hother, hpiece⟩ := ih hlater
        exact ⟨other, List.mem_cons_of_mem _ hother, hpiece⟩

/-- A piece is at most four times as wide as what fits. -/
theorem glyphs_le
    (hcut : List.Forall₂ (fun line cut => IsHardWrap line.toList cut)
      lines pieces)
    (h : piece ∈ pieces.flatten) :
    glyphs piece ≤ 4 * maxColumns := by
  obtain ⟨_, _, hlength, _⟩ := exists_line_of_mem hcut h
  exact Nat.le_trans (glyphs_le_mul piece) (Nat.mul_le_mul_left 4 hlength)

/-- A piece of lines without tabs fits. -/
theorem glyphs_le_of_no_tab
    (hcut : List.Forall₂ (fun line cut => IsHardWrap line.toList cut)
      lines pieces)
    (hplain : ∀ line ∈ lines, '\t' ∉ line.toList)
    (h : piece ∈ pieces.flatten) :
    glyphs piece ≤ maxColumns := by
  obtain ⟨line, hline, hlength, hchars⟩ := exists_line_of_mem hcut h
  have hnone : '\t' ∉ piece := fun htab => hplain line hline (hchars _ htab)
  rw [glyphs_of_no_tab hnone]
  exact hlength

end Pieces

/-! ### Texts of the body -/

/-- The texts that pages show in the font of the body. -/
def bodyTexts (shown : List (List Shown)) : List (List Char) :=
  (shown.flatten.filter fun s => s.size = fontSize).map Shown.text

/-- All lines are shown in the size of the body. -/
theorem filter_shownLines (baseline : Int) (lines : List (List Char)) :
    ((shownLines baseline lines).filter fun s => s.size = fontSize) =
      shownLines baseline lines := by
  induction lines generalizing baseline with
  | nil => rfl
  | cons line rest ih => rw [shownLines, List.filter_cons_of_pos (by simp), ih]

/-- All lines are shown in the font of the body, and the title is not. -/
theorem bodyTexts_shownPages (title : List Char) (first : List (List Char))
    (rest : List (List (List Char))) :
    bodyTexts (shownPages title first rest) =
      (first :: rest).flatten.map printed := by
  have hlater :
      ((rest.map (shownPage none)).flatten.filter fun s => s.size = fontSize) =
      (rest.map (shownPage none)).flatten := by
    rw [List.filter_flatten, List.map_map]
    exact congrArg List.flatten (List.map_congr_left fun lines _ =>
      filter_shownLines topLine lines)
  have htitle : titleFontSize ≠ fontSize := by decide
  have hall : bodyTexts (shownPages title first rest) =
      ((shownPages title first rest).flatten.map Shown.text).tail := by
    rw [bodyTexts, shownPages, List.flatten_cons, List.filter_append, hlater,
      shownPage, List.filter_cons_of_neg (by simpa using htitle),
      filter_shownLines, List.cons_append, List.map_cons, List.tail_cons]
  rw [hall, text_shownPages, List.tail_cons]

/-- **The width of the body**, for every title and all lines.  What the pages of
a printable file show in the font of the body are the pieces of the lines, each
with its glyphs.  All of them fit between the margins if and only if no piece
has more characters and, three for each, tabs than there are columns.  Lines
without tabs fit, and nothing is wider than four times the columns. -/
theorem body_fits_iff (title : String) (lines : List String) :
    let pages := paginate (lines.flatMap fun line => wrap line.toList)
    let contents := pages.mapIdx (contentOf title.toList)
    (∃ objects pageNumbers streamNumbers,
      header ++ body 1 objects <+: (document title lines).toList ∧
        IsPageTree objects contents pageNumbers streamNumbers) ∧
      ∃ (pieces : List (List (List Char))) (shown : List (List Shown)),
        List.Forall₂ (fun line cut => IsHardWrap line.toList cut) lines pieces ∧
          contents.map shown? = shown.map some ∧
          (bodyTexts shown).map List.length = pieces.flatten.map glyphs ∧
          ((∀ text ∈ bodyTexts shown, text.length ≤ maxColumns) ↔
            ∀ piece ∈ pieces.flatten,
              piece.length + 3 * piece.count '\t' ≤ maxColumns) ∧
          ((∀ line ∈ lines, '\t' ∉ line.toList) →
            ∀ text ∈ bodyTexts shown, text.length ≤ maxColumns) ∧
          ∀ text ∈ bodyTexts shown, text.length ≤ 4 * maxColumns := by
  intro pages contents
  obtain ⟨first, rest, hpages, hlines, -, -⟩ :=
    paginate_eq (lines.flatMap fun line => wrap line.toList)
  have hcontents : contents = (first :: rest).mapIdx (contentOf title.toList) :=
    congrArg (List.mapIdx (contentOf title.toList)) hpages
  have hcut := forall₂_isHardWrap lines
  have hbody : bodyTexts (shownPages title.toList first rest) =
      (lines.map fun line => wrap line.toList).flatten.map printed := by
    rw [bodyTexts_shownPages, hlines, List.flatMap_def]
  have hwidth : ∀ bound : Nat,
      (∀ text ∈ bodyTexts (shownPages title.toList first rest),
          text.length ≤ bound) ↔
        ∀ piece ∈ (lines.map fun line => wrap line.toList).flatten,
          glyphs piece ≤ bound := by
    intro bound
    rw [hbody, List.forall_mem_map]
    exact forall₂_congr fun piece _ => by rw [length_printed]
  refine ⟨isPageTree_document title lines,
    lines.map fun line => wrap line.toList, shownPages title.toList first rest,
    hcut, ?_, ?_, hwidth maxColumns, ?_, ?_⟩
  · rw [hcontents, shown?_contents]
  · rw [hbody, List.map_map]
    exact List.map_congr_left fun piece _ => length_printed piece
  · intro hplain
    rw [hwidth]
    intro piece hpiece
    exact glyphs_le_of_no_tab hcut hplain hpiece
  · rw [hwidth]
    intro piece hpiece
    exact glyphs_le hcut hpiece

/-- A word behind 26 tabs. -/
def indented : String :=
  String.ofList (List.replicate 26 '\t' ++ "exit".toList)

/-- A line of 30 characters is not cut, and is 14 glyphs wider than what
fits. -/
theorem tabs_run_off_the_page :
    indented.length = 30 ∧
      ∃ shown,
        ((paginate ([indented].flatMap fun line => wrap line.toList)).mapIdx
          (contentOf "Report".toList)).map shown? = shown.map some ∧
        ∃ text ∈ bodyTexts shown, text.length = maxColumns + 14 := by
  have hpages : paginate ([indented].flatMap fun line => wrap line.toList) =
      [[indented.toList]] := by decide
  refine ⟨by decide, shownPages "Report".toList [indented.toList] [], ?_,
    printed indented.toList, ?_, ?_⟩
  · rw [hpages, shown?_contents]
  · rw [bodyTexts_shownPages]
    exact List.mem_singleton.mpr rfl
  · rw [length_printed]
    decide

end TemplateRegistry.Report.Pdf
