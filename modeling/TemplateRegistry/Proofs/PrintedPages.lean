import Mathlib.Data.List.Forall2
import TemplateRegistry.Proofs.PrintableFiles
/-!
# What the pages of a printable file show

A reader of a page carries out the operators of its content: it sets fonts,
moves to lines and shows literal strings, which it decodes.  Read so, the pages
of a printable file show the title and then every line, cut where it is full, in
order and whole; a character that cannot be printed is shown as a question mark.
No line is below the margin.

The reader here takes only what is certain: a literal string with an escape
other than those of parentheses and backslashes, an unescaped parenthesis or a
line break is refused, and so is an operator that it does not know or that lacks
an operand.  Since it refuses nothing in these pages, a reader of the whole
language reads them alike.

* `Reader.next?`, `shown?` — the reader;
* `reads_escape` — decoding a literal string;
* `shown?_stream` — what the content of a page shows;
* `IsHardWrap`, `isHardWrap_wrap` — lines cut where they are full;
* `paginate_eq`, `baseline_of_mem_shownPages` — lines on pages, as many as there
  is room for;
* `pages_show_text` — what all pages show.
-/

namespace TemplateRegistry.Report.Pdf

/-! ### Reading a content stream -/

/-- What an operator is applied to. -/
inductive Operand
  | number (value : Nat)
  | name (chars : List Char)
  | text (chars : List Char)
  deriving DecidableEq

/-- A text that a page shows, with the size of its font and the height of its
baseline. -/
structure Shown where
  size : Nat
  baseline : Int
  text : List Char
  deriving DecidableEq

/-- A page while its content is read: the operands since the last operator, the
latest first, whether texts may be shown, how they are set, the baseline, and
what was shown so far. -/
structure Canvas where
  operands : List Operand
  inText : Bool
  size : Nat
  leading : Nat
  baseline : Int
  shown : List Shown
  deriving DecidableEq

/-- Carry out an operator. -/
def Canvas.apply? (canvas : Canvas) (operator : List Char) : Option Canvas :=
  match operator, canvas.operands, canvas.inText with
  | ['B', 'T'], [], false => some { canvas with inText := true, baseline := 0 }
  | ['E', 'T'], [], true => some { canvas with inText := false }
  | ['T', 'f'], [.number size, .name _], true =>
    some { canvas with operands := [], size }
  | ['T', 'L'], [.number leading], true =>
    some { canvas with operands := [], leading }
  | ['T', 'd'], [.number up, .number _], true =>
    some { canvas with operands := [], baseline := canvas.baseline + up }
  | ['T', '*'], [], true =>
    some { canvas with baseline := canvas.baseline - canvas.leading }
  | ['T', 'j'], [.text chars], true =>
    some { canvas with
      operands := []
      shown := canvas.shown ++ [⟨canvas.size, canvas.baseline, chars⟩] }
  | _, _, _ => none

/-- Take a word: a name or a number as an operand, any other as an operator. -/
def Canvas.take? (canvas : Canvas) (word : List Char) : Option Canvas :=
  if word.head? = some '/' then
    some { canvas with operands := .name word.tail :: canvas.operands }
  else if word.all Char.isDigit then
    some { canvas with
      operands := .number (Nat.ofDigitChars 10 word 0) :: canvas.operands }
  else canvas.apply? word

/-- Where a reader is: between words, in a word, in a literal string, or after a
backslash in one.  The characters of a word or string are those read so far, the
latest first. -/
inductive Place
  | between
  | word (chars : List Char)
  | literal (chars : List Char)
  | escape (chars : List Char)
  deriving DecidableEq

/-- A reader of a content stream. -/
structure Reader where
  canvas : Canvas
  place : Place
  deriving DecidableEq

/-- What is between words. -/
def isGap (c : Char) : Bool :=
  c = ' ' || c = '\n'

/-- Read a character. -/
def Reader.next? (reader : Reader) (c : Char) : Option Reader :=
  match reader.place with
  | .between =>
    if isGap c then some reader
    else if c = '(' then some { reader with place := .literal [] }
    else some { reader with place := .word [c] }
  | .word chars =>
    if isGap c then (reader.canvas.take? chars.reverse).map fun canvas =>
      ⟨canvas, .between⟩
    else if c = '(' then none
    else some { reader with place := .word (c :: chars) }
  | .literal chars =>
    if c = ')' then
      some ⟨{ reader.canvas with
        operands := .text chars.reverse :: reader.canvas.operands }, .between⟩
    else if c = '\\' then some { reader with place := .escape chars }
    else if c = '(' ∨ isPrintable c = false then none
    else some { reader with place := .literal (c :: chars) }
  | .escape chars =>
    if c = '(' ∨ c = ')' ∨ c = '\\' then
      some { reader with place := .literal (c :: chars) }
    else none

/-- A reader before anything was read. -/
def Reader.start : Reader :=
  ⟨⟨[], false, 0, 0, 0, []⟩, .between⟩

/-- What a content stream shows, if it is read to its end. -/
def shown? (content : List Char) : Option (List Shown) :=
  match content.foldlM Reader.next? Reader.start with
  | some ⟨⟨[], false, _, _, _, shown⟩, .between⟩ => some shown
  | _ => none

/-! ### Literal strings -/

/-- What is printed for a character. -/
def printedChar (c : Char) : List Char :=
  if c = '\t' then List.replicate 4 ' '
  else if isPrintable c then [c]
  else ['?']

/-- What is printed for a text. -/
def printed (s : List Char) : List Char :=
  s.flatMap printedChar

/-- A text takes a reader from one state to another. -/
def Reads (reader : Reader) (s : List Char) (after : Reader) : Prop :=
  s.foldlM Reader.next? reader = some after

/-- A text is read part by part. -/
theorem Reads.append {s t : List Char} {reader middle after : Reader}
    (h : Reads reader s middle) (h' : Reads middle t after) :
    Reads reader (s ++ t) after := by
  rw [Reads, List.foldlM_append, h]
  exact h'

/-- Within a literal, an escaped character adds what is printed for it. -/
theorem reads_escapeChar (canvas : Canvas) (chars : List Char) (c : Char) :
    Reads ⟨canvas, .literal chars⟩ (escapeChar c)
      ⟨canvas, .literal ((printedChar c).reverse ++ chars)⟩ := by
  unfold escapeChar
  split
  next hspecial =>
    rcases hspecial with rfl | rfl | rfl <;> rfl
  next hspecial =>
    rw [not_or, not_or] at hspecial
    obtain ⟨hopen, hclose, hbackslash⟩ := hspecial
    split
    next htab =>
      subst htab
      rfl
    next htab =>
      split
      next hprintable =>
        simp [Reads, Reader.next?, printedChar, hopen, hclose, hbackslash, htab,
          hprintable]
      next hprintable =>
        simp only [printedChar, htab, hprintable]
        rfl

/-- **Literal strings.**  What is read within a literal string is what is to be
printed. -/
theorem reads_escape (canvas : Canvas) (chars s : List Char) :
    Reads ⟨canvas, .literal chars⟩ (escape s) ⟨canvas,
      .literal ((printed s).reverse ++ chars)⟩ := by
  induction s generalizing chars with
  | nil => rfl
  | cons c rest ih =>
      have hrest := ih ((printedChar c).reverse ++ chars)
      rw [← List.append_assoc, ← List.reverse_append] at hrest
      exact (reads_escapeChar canvas chars c).append hrest

/-- An escaped text is read as what is printed for it. -/
theorem reads_literal (canvas : Canvas) (s : List Char) :
    Reads ⟨canvas, .literal []⟩ (escape s)
      ⟨canvas, .literal (printed s).reverse⟩ := by
  simpa using reads_escape canvas [] s

/-! ### The content of a page -/

section Content

/-- The baseline of the first line between the margins. -/
def topLine : Nat :=
  pageHeight - margin

/-- The lines of a page, from a baseline down. -/
def shownLines (baseline : Int) : List (List Char) → List Shown
  | [] => []
  | line :: rest =>
    ⟨fontSize, baseline, printed line⟩ :: shownLines (baseline - leading) rest

/-- What a page shows: the title and then lines, or lines alone. -/
def shownPage (title : Option (List Char)) (lines : List (List Char)) :
    List Shown :=
  match title with
  | some title =>
    ⟨titleFontSize, topLine, printed title⟩ ::
      shownLines (topLine - 2 * leading : Nat) lines
  | none => shownLines topLine lines

/-- What a page shows as a title. -/
def titleText (title : List Char) : List Char :=
  s!"BT /F1 {titleFontSize} Tf {margin} {topLine} Td (".toList ++
    escape title ++ ") Tj ET\n".toList

/-- How the lines of a page begin, the first of them on a baseline. -/
def linesHead (baseline : Nat) : List Char :=
  s!"BT /F1 {fontSize} Tf {leading} TL {margin} {baseline} Td\n".toList

/-- A line as it is written. -/
def lineText (line : List Char) : List Char :=
  '(' :: (escape line ++ ") Tj T*\n".toList)

/-- The content of a page with a title, operator by operator. -/
theorem stream_some (title : List Char) (lines : List (List Char)) :
    stream (some title) lines =
    titleText title ++ linesHead (topLine - 2 * leading) ++
      lines.flatMap lineText ++ "ET\n".toList :=
  rfl

/-- The content of a page without a title. -/
theorem stream_none (lines : List (List Char)) : stream none lines =
    [] ++ linesHead topLine ++ lines.flatMap lineText ++ "ET\n".toList :=
  rfl

/-- A reader between the operators of a page, outside of texts. -/
def outside (size : Nat) (baseline : Int) (shown : List Shown) : Reader :=
  ⟨⟨[], false, size, 0, baseline, shown⟩, .between⟩

/-- A reader within the lines of a page. -/
def within (baseline : Int) (shown : List Shown) : Reader :=
  ⟨⟨[], true, fontSize, leading, baseline, shown⟩, .between⟩

/-- Reading the title shows it at the top, in its size. -/
theorem reads_titleText (title : List Char) : Reads .start (titleText title)
    (outside titleFontSize topLine
      [⟨titleFontSize, topLine, printed title⟩]) := by
  have hopen :
      Reads .start s!"BT /F1 {titleFontSize} Tf {margin} {topLine} Td (".toList
      ⟨⟨[], true, titleFontSize, 0, topLine, []⟩, .literal []⟩ := by rfl
  have hclose :
      Reads ⟨⟨[], true, titleFontSize, 0, topLine,
        []⟩, .literal (printed title).reverse⟩
      ") Tj ET\n".toList (outside titleFontSize topLine
        [⟨titleFontSize, topLine, (printed title).reverse.reverse⟩]) := by rfl
  rw [List.reverse_reverse] at hclose
  exact (hopen.append (reads_literal _ title)).append hclose

/-- The head of the lines sets the size and the first baseline, whatever they
were. -/
theorem reads_linesHead (size : Nat) (start : Int) (shown : List Shown) :
    Reads (outside size start shown) (linesHead topLine)
      (within topLine shown) ∧
      Reads (outside size start shown) (linesHead (topLine - 2 * leading))
        (within (topLine - 2 * leading : Nat) shown) := by
  constructor <;> rfl

/-- A line is shown on the baseline, and the next one is one leading below. -/
theorem reads_lineText (baseline : Int) (shown : List Shown)
    (line : List Char) :
    Reads (within baseline shown) (lineText line)
      (within (baseline - leading) (shown ++
        [⟨fontSize, baseline, printed line⟩])) := by
  have hopen : Reads (within baseline shown) ['(']
      ⟨(within baseline shown).canvas, .literal []⟩ := by rfl
  have hclose :
      Reads ⟨(within baseline shown).canvas, .literal (printed line).reverse⟩
      ") Tj T*\n".toList (within (baseline - leading)
        (shown ++ [⟨fontSize, baseline, (printed line).reverse.reverse⟩])) := by
    rfl
  rw [List.reverse_reverse] at hclose
  exact hopen.append ((reads_literal _ line).append hclose)

/-- Lines are shown one below the other. -/
theorem reads_lines (baseline : Int) (shown : List Shown)
    (lines : List (List Char)) :
    ∃ below, Reads (within baseline shown) (lines.flatMap lineText)
      (within below (shown ++ shownLines baseline lines)) := by
  induction lines generalizing baseline shown with
  | nil => exact ⟨baseline, by rw [shownLines, List.append_nil]; rfl⟩
  | cons line rest ih =>
      obtain ⟨below, hrest⟩ :=
        ih (baseline - leading) (shown ++ [⟨fontSize, baseline, printed line⟩])
      rw [List.append_assoc] at hrest
      exact ⟨below, (reads_lineText baseline shown line).append hrest⟩

/-- **The content of a page** shows the page. -/
theorem shown?_stream (title : Option (List Char)) (lines : List (List Char)) :
    shown? (stream title lines) = some (shownPage title lines) := by
  suffices hreads : ∃ below, Reads .start (stream title lines)
      ⟨⟨[], false, fontSize, leading, below, shownPage title lines⟩,
        .between⟩ by
    obtain ⟨below, hreads⟩ := hreads
    rw [shown?, hreads]
  have hend : ∀ below shown, Reads (within below shown) "ET\n".toList
      ⟨⟨[], false, fontSize, leading, below, shown⟩, .between⟩ := fun _ _ => rfl
  cases title with
  | some title =>
      obtain ⟨below, hlines⟩ := reads_lines (topLine - 2 * leading : Nat)
        [⟨titleFontSize, topLine, printed title⟩] lines
      rw [stream_some]
      exact ⟨below,
        (((reads_titleText title).append (reads_linesHead _ _ _).2).append
          hlines).append (hend _ _)⟩
  | none =>
      obtain ⟨below, hlines⟩ := reads_lines topLine [] lines
      have hstart : Reads .start [] (outside 0 0 []) := rfl
      rw [stream_none]
      exact ⟨below,
        ((hstart.append (reads_linesHead _ _ _).1).append hlines).append
          (hend _ _)⟩

/-- A text that is not escaped ends at its first parenthesis. -/
example : shown? "BT /F1 9 Tf 50 742 Td (1) one) Tj ET\n".toList = none := by
  decide

end Content

/-! ### Lines and pages -/

section Chunks

variable {α : Type} {size fuel : Nat} {items : List α}

/-- The first chunk is taken off, then the others. -/
theorem chunks_cons (size fuel : Nat) (first : α) (rest : List α) :
    chunks size (fuel + 1) (first :: rest) =
      (first :: rest).take size ::
      chunks size fuel ((first :: rest).drop size) :=
  rfl

/-- The parts of a list are the list. -/
theorem flatten_chunks (hsize : 0 < size) (hfuel : items.length ≤ fuel) :
    (chunks size fuel items).flatten = items := by
  induction fuel generalizing items with
  | zero =>
      obtain rfl := List.length_eq_zero_iff.mp (Nat.le_zero.mp hfuel)
      rfl
  | succ fuel ih =>
      cases items with
      | nil => rfl
      | cons first rest =>
          have hrest : ((first :: rest).drop size).length ≤ fuel := by
            rw [List.length_drop]
            omega
          rw [chunks_cons, List.flatten_cons, ih hrest, List.take_append_drop]

/-- A part is not empty and not too long. -/
theorem length_of_mem_chunks (hsize : 0 < size) {part : List α}
    (h : part ∈ chunks size fuel items) : part ≠ [] ∧ part.length ≤ size := by
  induction fuel generalizing items with
  | zero => cases h
  | succ fuel ih =>
      cases items with
      | nil => cases h
      | cons first rest =>
          rw [chunks_cons] at h
          rcases List.mem_cons.mp h with rfl | hlater
          · refine ⟨fun hnil => ?_, List.length_take_le _ _⟩
            rcases List.take_eq_nil_iff.mp hnil with hzero | hnone
            · omega
            · cases hnone
          · exact ih hlater

/-- All parts but the last are full. -/
theorem length_of_mem_dropLast_chunks {part : List α}
    (h : part ∈ (chunks size fuel items).dropLast) : part.length = size := by
  induction fuel generalizing items with
  | zero => cases h
  | succ fuel ih =>
      cases items with
      | nil => cases h
      | cons first rest =>
          rw [chunks_cons] at h
          cases hlater : chunks size fuel ((first :: rest).drop size) with
          | nil =>
              rw [hlater] at h
              cases h
          | cons next more =>
              rw [hlater, List.dropLast_cons_cons, ← hlater] at h
              rcases List.mem_cons.mp h with rfl | hmem
              · -- what comes after a part is there only if the part is full
                have hmore : (first :: rest).drop size ≠ [] := by
                  intro hnil
                  rw [hnil] at hlater
                  cases fuel <;> cases hlater
                rw [Ne, List.drop_eq_nil_iff] at hmore
                rw [List.length_take]
                omega
              · exact ih hmem

end Chunks

/-- The pieces of a line that is cut where it is full. -/
structure IsHardWrap (line : List Char) (pieces : List (List Char)) : Prop where
  flatten : pieces.flatten = line
  full : ∀ piece ∈ pieces.dropLast, piece.length = maxColumns
  within : ∀ piece ∈ pieces, piece.length ≤ maxColumns
  not_empty : line ≠ [] → ∀ piece ∈ pieces, piece ≠ []
  of_empty : line = [] → pieces = [[]]

/-- **Lines** are cut where they are full. -/
theorem isHardWrap_wrap (line : List Char) : IsHardWrap line (wrap line) := by
  have hcolumns : 0 < maxColumns := by decide
  cases line with
  | nil =>
      refine ⟨rfl, List.forall_mem_nil _, fun piece hpiece => ?_,
        fun hne => absurd rfl hne, fun _ => rfl⟩
      rw [List.mem_singleton.mp hpiece]
      exact Nat.zero_le _
  | cons c rest =>
      have hwrap :
        wrap (c :: rest) = chunks maxColumns (c :: rest).length (c :: rest) :=
        rfl
      rw [hwrap]
      exact ⟨flatten_chunks hcolumns (Nat.le_refl _),
        fun _ => length_of_mem_dropLast_chunks,
        fun _ hpiece => (length_of_mem_chunks hcolumns hpiece).2,
        fun _ _ hpiece => (length_of_mem_chunks hcolumns hpiece).1,
        fun hnil => by cases hnil⟩

/-- **Pages** have the lines in order.  Each has as many as there is room for,
and each after the first has some. -/
theorem paginate_eq (lines : List (List Char)) :
    ∃ first rest, paginate lines = first :: rest ∧
    (first :: rest).flatten = lines ∧ first.length ≤ linesPerPage - 2 ∧
      ∀ page ∈ rest, page ≠ [] ∧ page.length ≤ linesPerPage := by
  have hroom : max (linesPerPage - 2) 1 = linesPerPage - 2 := by decide
  have hfuel : (lines.drop (linesPerPage - 2)).length ≤ lines.length := by
    rw [List.length_drop]
    exact Nat.sub_le _ _
  refine ⟨lines.take (linesPerPage - 2),
    chunks linesPerPage lines.length (lines.drop (linesPerPage - 2)), ?_, ?_,
    List.length_take_le _ _, fun page hpage =>
      length_of_mem_chunks (by decide) hpage⟩
  · rw [paginate, hroom]
  · rw [List.flatten_cons, flatten_chunks (by decide) hfuel,
      List.take_append_drop]

/-! ### All pages -/

section Pages

/-- Lines are as far down as there are lines above them. -/
theorem baseline_of_mem_shownLines {baseline : Int} {lines : List (List Char)}
    {s : Shown} (h : s ∈ shownLines baseline lines) :
    baseline + leading ≤ s.baseline + leading * lines.length := by
  induction lines generalizing baseline with
  | nil => cases h
  | cons line rest ih =>
      rw [List.length_cons, Int.natCast_succ, Int.mul_add, Int.mul_one]
      rcases List.mem_cons.mp h with rfl | hlater
      · have hbelow : 0 ≤ (leading : Int) * (rest.length : Int) :=
          Int.mul_nonneg (Int.natCast_nonneg _) (Int.natCast_nonneg _)
        simp only
        omega
      · have hrest := ih hlater
        omega

/-- What is shown of lines is what is printed for them. -/
theorem text_shownLines (baseline : Int) (lines : List (List Char)) :
    (shownLines baseline lines).map Shown.text = lines.map printed := by
  induction lines generalizing baseline with
  | nil => rfl
  | cons line rest ih => rw [shownLines, List.map_cons, ih, List.map_cons]

/-- What the pages of a file show, the first with the title. -/
def shownPages (title : List Char) (first : List (List Char))
    (rest : List (List (List Char))) :
    List (List Shown) :=
  shownPage (some title) first :: rest.map (shownPage none)

variable {title : List Char} {first : List (List Char)}
  {rest : List (List (List Char))}

/-- What a reader finds in the contents is what the pages show. -/
theorem shown?_contents :
    ((first :: rest).mapIdx (contentOf title)).map shown? =
    (shownPages title first rest).map some := by
  have hlater :
      (rest.mapIdx fun i => contentOf title (i + 1)) = rest.map (stream none) :=
    List.mapIdx_eq_iff.mpr fun i => by
      rw [List.getElem?_map]
      rfl
  have hfirst : contentOf title 0 first = stream (some title) first := rfl
  rw [List.mapIdx_cons, hlater, hfirst, shownPages, List.map_cons,
    List.map_cons, List.map_map, List.map_map, shown?_stream]
  exact congrArg _ (List.map_congr_left fun lines _ => shown?_stream none lines)

/-- All pages together show the title and then every line. -/
theorem text_shownPages : (shownPages title first rest).flatten.map Shown.text =
    printed title :: (first :: rest).flatten.map printed := by
  have hlater :
      (rest.map (shownPage none)).flatten.map Shown.text =
        rest.flatten.map printed := by
    rw [List.map_flatten, List.map_flatten, List.map_map]
    exact congrArg List.flatten (List.map_congr_left fun lines _ =>
      text_shownLines topLine lines)
  rw [shownPages, List.flatten_cons, List.map_append, hlater, shownPage,
    List.map_cons, text_shownLines, List.flatten_cons, List.map_append,
    List.cons_append]

/-- A page with lines shows something. -/
theorem ne_nil_of_mem_tail_shownPages {page : List Shown}
    (hrest : ∀ lines ∈ rest, lines ≠ [])
    (hpage : page ∈ (shownPages title first rest).tail) : page ≠ [] := by
  rw [shownPages, List.tail_cons] at hpage
  obtain ⟨lines, hlines, rfl⟩ := List.mem_map.mp hpage
  cases lines with
  | nil => exact absurd rfl (hrest [] hlines)
  | cons line more => exact List.cons_ne_nil _ _

/-- Pages with as many lines as there is room for show nothing below the
margin. -/
theorem baseline_of_mem_shownPages {page : List Shown} {s : Shown}
    (hfirst : first.length ≤ linesPerPage - 2)
    (hrest : ∀ lines ∈ rest, lines.length ≤ linesPerPage)
    (hpage : page ∈ shownPages title first rest) (hs : s ∈ page) :
    (margin : Int) ≤ s.baseline := by
  have hmargin : margin = 50 := rfl
  have hleading : leading = 12 := rfl
  have htop : topLine = 742 := rfl
  have hroom : linesPerPage = 57 := rfl
  rcases List.mem_cons.mp hpage with rfl | hlater
  · rcases List.mem_cons.mp hs with rfl | hline
    · simp only
      omega
    · have hline := baseline_of_mem_shownLines hline
      rw [hleading] at hline
      omega
  · obtain ⟨lines, hlines, rfl⟩ := List.mem_map.mp hlater
    have hline := baseline_of_mem_shownLines hs
    have hlength := hrest lines hlines
    rw [hleading] at hline
    omega

/-- The file has the pages with their contents. -/
theorem isPageTree_document (title : String) (lines : List String) :
    ∃ objects pageNumbers streamNumbers,
      header ++ body 1 objects <+: (document title lines).toList ∧
        IsPageTree objects
          ((paginate (lines.flatMap fun line => wrap line.toList)).mapIdx
            (contentOf title.toList)) pageNumbers streamNumbers := by
  refine ⟨_, _, _, ?_, isPageTree_objects title.toList _⟩
  rw [document, String.toList_ofList, file_eq]
  exact List.prefix_append _ _

/-- Every line is cut for itself. -/
theorem forall₂_isHardWrap (lines : List String) :
    List.Forall₂ (fun line cut => IsHardWrap line.toList cut) lines
      (lines.map fun line => wrap line.toList) :=
  List.forall₂_map_right_iff.mpr (List.forall₂_same.mpr fun line _ =>
    isHardWrap_wrap line.toList)

/-- **The pages of a printable file show its text**, for every title and all
lines.  The file has the pages with their contents; the contents are read to
their ends, and show the title and then every line, cut where it is full.  Each
page after the first shows something, and nothing is below the margin. -/
theorem pages_show_text (title : String) (lines : List String) :
    let pages := paginate (lines.flatMap fun line => wrap line.toList)
    let contents := pages.mapIdx (contentOf title.toList)
    (∃ objects pageNumbers streamNumbers,
      header ++ body 1 objects <+: (document title lines).toList ∧
        IsPageTree objects contents pageNumbers streamNumbers) ∧
      ∃ (pieces : List (List (List Char))) (shown : List (List Shown)),
        List.Forall₂ (fun line cut => IsHardWrap line.toList cut) lines pieces ∧
          contents.map shown? = shown.map some ∧
          shown.flatten.map Shown.text =
            printed title.toList :: pieces.flatten.map printed ∧
          (∀ page ∈ shown.tail, page ≠ []) ∧
          ∀ page ∈ shown, ∀ s ∈ page, (margin : Int) ≤ s.baseline := by
  intro pages contents
  obtain ⟨first, rest, hpages, hlines, hfirst, hrest⟩ :=
    paginate_eq (lines.flatMap fun line => wrap line.toList)
  have hcontents : contents = (first :: rest).mapIdx (contentOf title.toList) :=
    congrArg (List.mapIdx (contentOf title.toList)) hpages
  refine ⟨isPageTree_document title lines,
    lines.map fun line => wrap line.toList, shownPages title.toList first rest,
    forall₂_isHardWrap lines, ?_, ?_, ?_, ?_⟩
  · rw [hcontents, shown?_contents]
  · rw [text_shownPages, hlines, List.flatMap_def]
  · exact fun page => ne_nil_of_mem_tail_shownPages fun later hlater =>
      (hrest later hlater).1
  · intro page hpage s hs
    exact baseline_of_mem_shownPages hfirst
      (fun later hlater => (hrest later hlater).2) hpage hs

end Pages

end TemplateRegistry.Report.Pdf
