import TemplateRegistry.Proofs.PositionalEntries
import TemplateRegistry.Proofs.TextLines
import TemplateRegistry.Report.Markdown
/-!
# The fenced block of a review

A text in a fenced block can hold fences itself.  The fence around it has more
backticks than any run of them in the text, so nothing in the block closes it,
and a reader finds its end where it was written.  Each line of the block begins
with a mark, so both sides of the comparison can be read off it.

* `closesFence` — the lines that end a fenced block;
* `le_longestRun_of_ticks_infix_block` — a run of backticks in a block is one in
  a text;
* `readBlock_append` — a reader finds the end of a block;
* `unmarked_block` — the lines of both sides;
* `block_reads_back` — all of this of the review of two versions.
-/

namespace TemplateRegistry.Report.Markdown

open Diff

/-! ### Runs of backticks -/

section Runs

variable {n : Nat} {s t : List Char} {c : Char}

/-- A run of backticks. -/
def ticks (n : Nat) : List Char :=
  List.replicate n '`'

/-- Backticks at the start of a text end at the first other character. -/
theorem ticks_prefix_of_append_cons (hc : c ≠ '`')
    (h : ticks n <+: s ++ c :: t) : ticks n <+: s := by
  induction n generalizing s with
  | zero => exact List.nil_prefix
  | succ n ih =>
      cases s with
      | nil => exact absurd (List.cons_prefix_cons.mp h).1.symm hc
      | cons d s =>
          obtain ⟨hd, hrest⟩ := List.cons_prefix_cons.mp h
          exact List.cons_prefix_cons.mpr ⟨hd, ih hrest⟩

/-- A run of backticks stands on one side of any other character. -/
theorem ticks_infix_of_append_cons (hc : c ≠ '`')
    (h : ticks n <:+: s ++ c :: t) :
    ticks n <:+: s ∨ ticks n <:+: t := by
  induction s with
  | nil =>
      rcases List.infix_cons_iff.mp h with hfront | hinside
      · exact Or.inl (ticks_prefix_of_append_cons hc hfront).isInfix
      · exact Or.inr hinside
  | cons d s ih =>
      rcases List.infix_cons_iff.mp h with hfront | hinside
      · exact Or.inl
          (ticks_prefix_of_append_cons (s := d :: s) hc hfront).isInfix
      · exact (ih hinside).imp_left List.infix_cons

/-- A run that a text begins with is in its first piece, any other in one of the
pieces. -/
theorem exists_run_of_ticks (s : List Char) :
    ∃ first more, backtickRuns s = first :: more ∧
    (∀ n, ticks n <+: s → n ≤ first) ∧
      ∀ n, ticks n <:+: s → ∃ run ∈ first :: more, n ≤ run := by
  induction s with
  | nil =>
      have hnil : ∀ n, ticks n <:+: [] → n ≤ 0 := fun n h => by
        simpa [ticks] using h.length_le
      exact ⟨0, [], rfl, fun n h => hnil n h.isInfix, fun n h =>
        ⟨0, List.mem_cons_self, hnil n h⟩⟩
  | cons c rest ih =>
      obtain ⟨first, more, hruns, hfront, hinside⟩ := ih
      obtain ⟨piece, pieces, hsplit, hcons⟩ :=
        Text.splitWhen_cons (fun c => c != '`') c rest
      have hparts : piece.length = first ∧ pieces.map List.length = more := by
        simpa [backtickRuns, hsplit] using hruns
      obtain ⟨rfl, rfl⟩ := hparts
      by_cases hc : c = '`'
      · subst hc
        have hfirst : ∀ n, ticks n <+: '`' :: rest → n ≤ piece.length + 1 :=
          fun n h => by
            cases n with
            | zero => exact Nat.zero_le _
            | succ n =>
                exact Nat.succ_le_succ (hfront n (List.cons_prefix_cons.mp h).2)
        refine ⟨piece.length + 1, pieces.map List.length, ?_, hfirst,
          fun n h => ?_⟩
        · simp [backtickRuns, hcons]
        · rcases List.infix_cons_iff.mp h with hbegin | hlater
          · exact ⟨_, List.mem_cons_self, hfirst n hbegin⟩
          · obtain ⟨run, hrun, hle⟩ := hinside n hlater
            rcases List.mem_cons.mp hrun with rfl | hmore
            · exact ⟨_, List.mem_cons_self, Nat.le_succ_of_le hle⟩
            · exact ⟨run, List.mem_cons_of_mem _ hmore, hle⟩
      · have hfirst : ∀ n, ticks n <+: c :: rest → n ≤ 0 := fun n h => by
          have hempty := ticks_prefix_of_append_cons (s := []) hc h
          simpa [ticks] using hempty.length_le
        refine ⟨0, piece.length :: pieces.map List.length, ?_, hfirst,
          fun n h => ?_⟩
        · simp [backtickRuns, hcons, hc]
        · rcases List.infix_cons_iff.mp h with hbegin | hlater
          · exact ⟨0, List.mem_cons_self, hfirst n hbegin⟩
          · obtain ⟨run, hrun, hle⟩ := hinside n hlater
            exact ⟨run, List.mem_cons_of_mem _ hrun, hle⟩

/-- No run is longer than the longest. -/
theorem le_foldr_max {run : Nat} {runs : List Nat} (h : run ∈ runs) :
    run ≤ runs.foldr max 0 := by
  induction runs with
  | nil => cases h
  | cons first rest ih =>
      rcases List.mem_cons.mp h with rfl | hrest
      · exact Nat.le_max_left _ _
      · exact Nat.le_trans (ih hrest) (Nat.le_max_right _ _)

/-- No text has a longer run than the longest. -/
theorem le_longestRun {entries : List Entry} {entry : Entry}
    (hentry : entry ∈ entries) (h : ticks n <:+: entry.text.toList) :
    n ≤ longestRun entries := by
  obtain ⟨first, more, hruns, -, hinside⟩ :=
    exists_run_of_ticks entry.text.toList
  obtain ⟨run, hrun, hle⟩ := hinside n h
  refine Nat.le_trans hle
    (le_foldr_max (List.mem_flatMap.mpr ⟨entry, hentry, ?_⟩))
  rwa [hruns]

end Runs

/-! ### What closes a block -/

section Fences

/-- How many backticks the fence around the lines of entries has. -/
def fenceSize (entries : List Entry) : Nat :=
  max (longestRun entries + 1) 3

/-- A fence is as many backticks as its size. -/
theorem fence_eq (entries : List Entry) :
    fence entries = String.ofList (ticks (fenceSize entries)) :=
  rfl

/-- A line that ends a block with a fence of some size: spaces, at most three,
as many backticks as the fence has or more, and then at most spaces and tabs. -/
def closesFence (size : Nat) (line : List Char) : Bool :=
  let fence := line.dropWhile (· == ' ')
  (line.takeWhile (· == ' ')).length ≤ 3 &&
    size ≤ (fence.takeWhile (· == '`')).length &&
    (fence.dropWhile (· == '`')).all fun c => c == ' ' || c == '\t'

/-- What ends a line of a Markdown document. -/
def endsLine (c : Char) : Bool :=
  c == '\n' || c == '\r'

/-- The lines of a block, each of which ends in a line feed. -/
def blockLines (text : List Char) : List (List Char) :=
  (Text.splitWhen (· == '\n') text).dropLast

/-- The lines of a block as a reader takes them, up to the first line that
closes it. -/
def readBlock (size : Nat) (text : List Char) : List (List Char) :=
  (Text.splitWhen (· == '\n') text).takeWhile fun line => !closesFence size line

/-- Lines without those that have a mark, and the others without theirs. -/
def unmarked (mark : Char) (lines : List (List Char)) : List (List Char) :=
  (lines.filter fun line => line.head? ≠ some mark).map List.tail

/-- A line that closes a fence has a run of backticks of its size. -/
theorem ticks_infix_of_closesFence {size : Nat} {line : List Char}
    (h : closesFence size line) :
    ticks size <:+: line := by
  simp only [closesFence, Bool.and_eq_true, decide_eq_true_eq] at h
  have hrun : (line.dropWhile (· == ' ')).takeWhile (· == '`') =
      ticks ((line.dropWhile (· == ' ')).takeWhile (· == '`')).length :=
    List.eq_replicate_of_mem fun c hc => by
      simpa using List.all_eq_true.mp List.all_takeWhile c hc
  have hsize :
      ticks size <+: (line.dropWhile (· == ' ')).takeWhile (· == '`') := by
    obtain ⟨more, hmore⟩ := Nat.exists_eq_add_of_le h.1.2
    rw [hrun, hmore, ticks, ticks, ← List.replicate_append_replicate]
    exact List.prefix_append _ _
  exact (hsize.trans (List.takeWhile_prefix _)).isInfix.trans
    (List.dropWhile_suffix _).isInfix

/-- The fence itself closes the block. -/
theorem closesFence_ticks (size : Nat) : closesFence size (ticks size) := by
  have hindent : (ticks size).takeWhile (· == ' ') = [] := by simp [ticks]
  have hfence : (ticks size).dropWhile (· == ' ') = ticks size := by
    simp [ticks]
  simp only [closesFence, hindent, hfence]
  simp [ticks]

end Fences

/-! ### The lines of a block -/

section Lines

variable {entries : List Entry}

/-- The text of a block is its lines, each with a line feed after it. -/
theorem block_toList (entries : List Entry) :
    (block entries).toList = (entries.map blockLine).flatMap (· ++ ['\n']) := by
  rw [block, String.toList_ofList, List.flatMap_map]

/-- **A run of backticks in a block** is no longer than the longest in the
texts. -/
theorem le_longestRun_of_ticks_infix_block {n : Nat}
    (h : ticks n <:+: (block entries).toList) :
    n ≤ longestRun entries := by
  rw [block_toList] at h
  suffices hentry : n = 0 ∨ ∃ entry ∈ entries, ticks n <:+: entry.text.toList by
    rcases hentry with rfl | ⟨entry, hentry, hinside⟩
    · exact Nat.zero_le _
    · exact le_longestRun hentry hinside
  induction entries with
  | nil => exact Or.inl (by simpa [ticks] using h)
  | cons entry rest ih =>
      -- neither the mark in front of a text nor the break after it is a
      -- backtick
      have hmark : mark entry.status ≠ '`' := by cases entry.status <;> decide
      have hline : ticks n <:+: [] ++ mark entry.status :: (entry.text.toList ++
          '\n' :: (rest.map blockLine).flatMap (· ++ ['\n'])) := by
        simpa [blockLine] using h
      rcases ticks_infix_of_append_cons hmark hline with hnil | hbehind
      · exact Or.inl (by simpa [ticks] using hnil)
      rcases ticks_infix_of_append_cons (by decide) hbehind with htext | hrest
      · exact Or.inr ⟨entry, List.mem_cons_self, htext⟩
      · exact (ih hrest).imp_right fun ⟨other, hother, hinside⟩ =>
          ⟨other, List.mem_cons_of_mem _ hother, hinside⟩

/-- Entries whose texts are lines. -/
def AreLines (entries : List Entry) : Prop :=
  ∀ entry ∈ entries, '\n' ∉ entry.text.toList

/-- Cut at its line feeds, a block is its lines, and what follows starts a line
of its own. -/
theorem splitWhen_block_append (h : AreLines entries) (rest : List Char) :
    Text.splitWhen (· == '\n') ((block entries).toList ++ rest) =
      entries.map blockLine ++ Text.splitWhen (· == '\n') rest := by
  rw [block_toList]
  induction entries with
  | nil => rfl
  | cons entry more ih =>
      obtain ⟨hentry, hmore⟩ := List.forall_mem_cons.mp h
      have hline : ∀ c ∈ blockLine entry, (c == '\n') = false := by
        intro c hc
        rcases List.mem_cons.mp hc with rfl | htext
        · cases entry.status <;> decide
        · have hne : c ≠ '\n' := fun heq => hentry (heq ▸ htext)
          simpa using hne
      rw [List.map_cons, List.flatMap_cons, List.append_assoc,
        List.append_assoc, List.singleton_append,
        Text.splitWhen_append_cut hline rfl, ih hmore]
      rfl

/-- A block that nothing follows ends with an empty piece. -/
theorem splitWhen_block (h : AreLines entries) :
    Text.splitWhen (· == '\n') (block entries).toList = entries.map blockLine ++
    [[]] := by
  have hsplit := splitWhen_block_append h []
  rwa [List.append_nil] at hsplit

/-- The lines of a block are those of its entries. -/
theorem blockLines_block (h : AreLines entries) :
    blockLines (block entries).toList = entries.map blockLine := by
  rw [blockLines, splitWhen_block h]
  exact List.dropLast_concat

/-- An empty piece at the end is no line. -/
theorem linesOfPieces_concat_nil (pieces : List (List Char)) :
    Text.linesOfPieces (pieces ++ [[]]) = pieces.map Text.dropReturn := by
  induction pieces with
  | nil => rfl
  | cons piece rest ih =>
      have hcons : Text.linesOfPieces (piece :: (rest ++ [[]])) =
          Text.dropReturn piece :: Text.linesOfPieces (rest ++ [[]]) := by
        cases rest <;> rfl
      rw [List.cons_append, hcons, ih, List.map_cons]

/-- The lines of a block as those of any text. -/
theorem lines_block (h : AreLines entries) : Text.lines (block entries).toList =
    (blockLines (block entries).toList).map Text.dropReturn := by
  rw [Text.lines, splitWhen_block h, linesOfPieces_concat_nil,
    blockLines_block h]

/-- **Nothing in a block closes it.** -/
theorem closesFence_of_infix_block {line : List Char}
    (h : line <:+: (block entries).toList) :
    closesFence (fenceSize entries) line = false := by
  cases hcloses : closesFence (fenceSize entries) line with
  | false => rfl
  | true =>
      have hticks := (ticks_infix_of_closesFence hcloses).trans h
      have hle := le_longestRun_of_ticks_infix_block hticks
      unfold fenceSize at hle
      omega

/-- **A reader finds the end of a block.** -/
theorem readBlock_append (h : AreLines entries) (rest : List Char) :
    readBlock (fenceSize entries)
      ((block entries).toList ++ (ticks (fenceSize entries) ++ '\n' :: rest)) =
      blockLines (block entries).toList := by
  have hfence : ∀ c ∈ ticks (fenceSize entries), (c == '\n') = false :=
    fun c hc => by
      rw [List.eq_of_mem_replicate hc]
      decide
  have hopen :
      ∀ line ∈ entries.map blockLine, (!closesFence (fenceSize entries) line) =
        true := by
    intro line hline
    have hinside : line <:+: (block entries).toList := by
      have hpiece :
          line ∈ Text.splitWhen (· == '\n') (block entries).toList := by
        rw [splitWhen_block h]
        exact List.mem_append_left _ hline
      exact Text.infix_of_mem_splitWhen hpiece
    rw [closesFence_of_infix_block hinside]
    rfl
  rw [readBlock, splitWhen_block_append h, Text.splitWhen_append_cut hfence rfl,
    List.takeWhile_append_of_pos hopen, blockLines_block h,
    List.takeWhile_cons_of_neg (by simp [closesFence_ticks]), List.append_nil]

end Lines

/-! ### The two sides -/

section Sides

variable {entries : List Entry}

/-- Without the lines of one status, a block has the texts of all other
entries. -/
theorem unmarked_blockLines {status : Status}
    (hmark : ∀ other, mark other = mark status ↔ other = status)
    (h : AreLines entries) :
    unmarked (mark status) (blockLines (block entries).toList) =
      (entries.filter fun entry => entry.status ≠ status).map fun entry =>
        entry.text.toList := by
  have hhead : ∀ entry : Entry,
      ((blockLine entry).head? ≠ some (mark status)) =
        (entry.status ≠ status) := fun entry => by
    simp [blockLine, hmark]
  rw [blockLines_block h, unmarked, List.filter_map, List.map_map]
  simp only [Function.comp_def, hhead]
  rfl

/-- The texts of the entries that have a place are those read with their
places. -/
theorem map_text_filter_isSome (position : Entry → Option Nat)
    (entries : List Entry) :
    (entries.filter fun entry => (position entry).isSome).map Entry.text =
      (entries.filterMap fun entry =>
        (position entry).map fun p => (entry.text, p)).map Prod.fst := by
  induction entries with
  | nil => rfl
  | cons entry rest ih => cases hplace : position entry <;> simp [hplace, ih]

/-- Numbered items are the items. -/
theorem map_fst_numberedFrom (place : Nat) (items : List (List Char)) :
    (numberedFrom place items).map Prod.fst = items.map String.ofList := by
  rw [numberedFrom, List.zipIdx_map_fst]

/-- The items of a side are the texts of the entries that are not of the other
side alone. -/
theorem texts_of_side {position : Entry → Option Nat} {status : Status}
    {items : List (List Char)} (hplaced : ∀ entry ∈ entries,
      (position entry).isSome = true ↔ entry.status ≠ status)
    (hside :
      entries.filterMap
          (fun entry => (position entry).map fun p => (entry.text, p)) =
        numberedFrom 1 items) :
    (entries.filter fun entry => entry.status ≠ status).map
        (fun entry => entry.text.toList) =
      items := by
  have hfilter : (entries.filter fun entry => entry.status ≠ status) =
      entries.filter fun entry => (position entry).isSome :=
    List.filter_congr fun entry hentry =>
      Bool.eq_iff_iff.mpr (by simpa using (hplaced entry hentry).symm)
  calc (entries.filter fun entry => entry.status ≠ status).map
        (fun entry => entry.text.toList)
      = ((entries.filter fun entry =>
        (position entry).isSome).map Entry.text).map String.toList := by
          rw [hfilter, List.map_map]
          rfl
    _ = (items.map String.ofList).map String.toList := by
        rw [map_text_filter_isSome, hside, map_fst_numberedFrom]
    _ = items := by simp [Function.comp_def]

/-- **Both sides of a block.**  The lines without those marked as added are the
older list, the lines without those marked as removed the newer one. -/
theorem unmarked_block {old new : List (List Char)} (hlines : AreLines entries)
    (h : Determines old new entries) :
    unmarked '+' (blockLines (block entries).toList) = old ∧
      unmarked '-' (blockLines (block entries).toList) = new := by
  have hadded : ∀ other, mark other = mark .added ↔ other = .added :=
    fun other => by
      cases other <;> decide
  have hremoved : ∀ other, mark other = mark .removed ↔ other = .removed :=
    fun other => by
      cases other <;> decide
  exact ⟨(unmarked_blockLines hadded hlines).trans
    (texts_of_side h.placed_old h.old_side),
    (unmarked_blockLines hremoved hlines).trans
      (texts_of_side h.placed_new h.new_side)⟩

/-- The text of an entry is an item of one of the two sides. -/
theorem text_mem_of_determines {old new : List (List Char)}
    (h : Determines old new entries) {entry : Entry}
    (hentry : entry ∈ entries) :
    entry.text.toList ∈ old ∨ entry.text.toList ∈ new := by
  by_cases hadded : entry.status = .added
  · right
    rw [← texts_of_side h.placed_new h.new_side]
    exact List.mem_map.mpr ⟨entry,
      List.mem_filter.mpr ⟨hentry, by simp [hadded]⟩, rfl⟩
  · left
    rw [← texts_of_side h.placed_old h.old_side]
    exact List.mem_map.mpr ⟨entry,
      List.mem_filter.mpr ⟨hentry, by simp [hadded]⟩, rfl⟩

/-- The entries of two contents are lines. -/
theorem areLines_lineEntries (old new : String) :
    AreLines (lineEntries old new) := by
  intro entry hentry
  rcases text_mem_of_determines (determines_positional _ _) hentry
    with hold | hnew
  · exact Text.not_mem_of_mem_lines hold
  · exact Text.not_mem_of_mem_lines hnew

end Sides

/-! ### The review -/

/-- A block, its text within a fence of some size, that stays closed and can be
read back.  No run of backticks in it is as long as the fence, no line of it
closes the fence, whatever ends a line, and without the lines of the other side
it has the lines of either side. -/
structure ReadsBack (size : Nat) (text : List Char)
    (old new : List (List Char)) : Prop where
  no_run : ¬ ticks size <:+: text
  stays_open :
    ∀ line ∈ Text.splitWhen endsLine text, closesFence size line = false
  old_lines : unmarked '+' (blockLines text) = old
  new_lines : unmarked '-' (blockLines text) = new

/-- The block of two contents stays closed, and their lines are read back. -/
theorem readsBack_block (old new : String) :
    ReadsBack (fenceSize (lineEntries old new))
      (block (lineEntries old new)).toList (Text.lines old.toList)
      (Text.lines new.toList) := by
  obtain ⟨hold, hnew⟩ :=
    unmarked_block (areLines_lineEntries old new) (determines_positional _ _)
  refine ⟨fun hticks => ?_, fun line hline => ?_, hold, hnew⟩
  · have hle := le_longestRun_of_ticks_infix_block hticks
    unfold fenceSize at hle
    omega
  · exact closesFence_of_infix_block (Text.infix_of_mem_splitWhen hline)

/-- Where the block stands in the review of two versions whose contents
differ. -/
theorem toList_review {c : Comparison} (h : c.content.changed = true) :
    (review c).toList =
    (head c ++ summary c.stats ++ "## Content\n\n").toList ++
      (ticks (fenceSize c.content.lines) ++ "diff\n".toList) ++
      (block c.content.lines).toList ++ (ticks (fenceSize c.content.lines) ++
        '\n' :: ("\n" ++ category c.category ++ parameters c.parameters ++
          tags c.tags).toList) := by
  have hbreak : "\n".toList = ['\n'] := String.toList_ofList
  have hbreaks : "\n\n".toList = ['\n', '\n'] := String.toList_ofList
  rw [review, content, if_pos h, fence_eq]
  simp only [String.toList_append, String.toList_ofList, List.append_assoc,
    hbreak, hbreaks, List.cons_append, List.nil_append]

/-- **The fenced block** of the review of two versions with different contents.
It stands between two fences of one size, at least three.  Nothing in it closes
it, so that a reader takes its lines and none behind them; and it can be read
back.  A line goes on to its line feed, so one that ends in a carriage return
has it when it is read back; in a reading that takes the carriage return for a
part of the break that is all that is lost. -/
theorem block_reads_back (templateName : String) (old new : Snapshot)
    (h : old.fields.content ≠ new.fields.content) :
    let c := compare templateName old new
    let size := fenceSize c.content.lines
    let text := (block c.content.lines).toList
    let before := head c ++ summary c.stats ++ "## Content\n\n"
    let after :=
      "\n" ++ category c.category ++ parameters c.parameters ++ tags c.tags
    (review c).toList = before.toList ++ (ticks size ++ "diff\n".toList) ++
        text ++ (ticks size ++ '\n' :: after.toList) ∧ 3 ≤ size ∧
      ReadsBack size text (Text.lines old.fields.content.toList)
        (Text.lines new.fields.content.toList) ∧
      readBlock size (text ++ (ticks size ++ '\n' :: after.toList)) =
        blockLines text ∧
      Text.lines text = (blockLines text).map Text.dropReturn := by
  intro c size text before after
  have hchanged : c.content.changed = true := decide_eq_true h
  have hlines : AreLines c.content.lines := areLines_lineEntries _ _
  exact ⟨toList_review hchanged, Nat.le_max_right _ _, readsBack_block _ _,
    readBlock_append hlines _, lines_block hlines⟩

/-- A prompt with a code block, before and after the block was put in.  The
longer one also has a line that looks marked, and one with spaces in front of a
fence. -/
def plainPrompt : Snapshot where
  summary := ⟨10, 1, true, "ann", ⟨1700000000, 0⟩⟩
  fields := ⟨"Use:", "general", [], []⟩

def fencedPrompt : Snapshot where
  summary := ⟨11, 2, false, "ann", ⟨1700000060, 0⟩⟩
  fields := ⟨"Use:\n````json\n+1\n  ````", "general", [], []⟩

/-- A prompt with a fence of four backticks is put into one of five, and read
back. -/
theorem block_of_prompt_reads_back :
    plainPrompt.fields.content ≠ fencedPrompt.fields.content ∧
    fenceSize (compare "ask" plainPrompt fencedPrompt).content.lines = 5 ∧
    ReadsBack 5 (block
        (compare "ask" plainPrompt fencedPrompt).content.lines).toList
      [['U', 's', 'e', ':']]
      [['U', 's', 'e', ':'], ['`', '`', '`', '`', 'j', 's', 'o', 'n'],
        ['+', '1'], [' ', ' ', '`', '`', '`', '`']] := by
  have hchanged :
    plainPrompt.fields.content ≠ fencedPrompt.fields.content := by decide
  have hsize :
      fenceSize (compare "ask" plainPrompt fencedPrompt).content.lines = 5 := by
    decide +kernel
  have hold : Text.lines plainPrompt.fields.content.toList =
      [['U', 's', 'e', ':']] := by
    decide +kernel
  have hnew : Text.lines fencedPrompt.fields.content.toList =
      [['U', 's', 'e', ':'], ['`', '`', '`', '`', 'j', 's', 'o', 'n'],
        ['+', '1'], [' ', ' ', '`', '`', '`', '`']] := by decide +kernel
  have hreads :=
    (block_reads_back "ask" plainPrompt fencedPrompt hchanged).2.2.1
  rw [hsize, hold, hnew] at hreads
  exact ⟨hchanged, hsize, hreads⟩

end TemplateRegistry.Report.Markdown
