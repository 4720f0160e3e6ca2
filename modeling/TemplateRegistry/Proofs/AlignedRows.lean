import TemplateRegistry.Proofs.PositionalEntries
import TemplateRegistry.Report.SideBySide
/-!
# Rows that stay aligned

In the rows of a comparison place by place the two lists stand side by side,
item by item, and the longer one goes on alone.  Rows of any entries can be read
back: left side, then right side, row after row.

* `flatMap_read_sideBySide` — the entries of the rows;
* `shown_sideBySide` — the rows of two lists.
-/

namespace TemplateRegistry.Report

open Diff

/-! ### Reading rows back -/

/-- The entries of a row from left to right; one shown on both sides counts
once. -/
def Row.read (row : Row) : List Entry :=
  match row.old, row.new with
  | none, none => []
  | some entry, none => [entry]
  | none, some entry => [entry]
  | some left, some right => if left = right then [left] else [left, right]

/-- A row with one entry on both sides is read as that entry. -/
theorem read_both (entry : Entry) :
    Row.read ⟨some entry, some entry⟩ = [entry] :=
  if_pos rfl

/-- A row with two different entries is read as both. -/
theorem read_pair {left right : Entry} (h : left.status ≠ right.status) :
    Row.read ⟨some left, some right⟩ = [left, right] :=
  if_neg fun heq => h (congrArg Entry.status heq)

/-- The rows of any entries hold these entries, in order. -/
theorem flatMap_read_sideBySide (entries : List Entry) :
    (sideBySide entries).flatMap Row.read = entries := by
  fun_induction sideBySide entries with
  | case1 => rfl
  | case2 => rfl
  | case3 => rfl
  | case4 entry => simp [read_both]
  | case5 entry next rest hremoved hadded ih =>
      -- the two sides differ in status, so neither is taken for the other
      have hpair : entry.status ≠ next.status := by simp [hremoved, hadded]
      rw [List.flatMap_cons, read_pair hpair, ih]
      rfl
  | case6 entry next rest _ _ ih =>
      rw [List.flatMap_cons, ih]
      rfl
  | case7 entry next rest _ ih =>
      rw [List.flatMap_cons, ih]
      rfl
  | case8 entry next rest _ _ ih =>
      rw [List.flatMap_cons, read_both, ih]
      rfl

/-! ### Rows of two lists -/

/-- What a row shows on its two sides: texts, with their places there. -/
def Row.shown (row : Row) :
    Option (String × Option Nat) × Option (String × Option Nat) :=
  (row.old.map fun entry => (entry.text, entry.oldPosition),
    row.new.map fun entry => (entry.text, entry.newPosition))

/-- What is to be shown of a list, from a place on. -/
def shownFrom (place : Nat) (items : List (List Char)) :
    List (String × Option Nat) :=
  (items.zipIdx place).map fun item => (String.ofList item.1, some item.2)

/-- An unchanged entry is on both sides of a row. -/
theorem sideBySide_unchanged_cons (place : Nat) (text : List Char)
    (rest : List Entry) :
    sideBySide (.unchanged place text :: rest) =
      ⟨some (.unchanged place text), some (.unchanged place text)⟩ ::
      sideBySide rest := by
  cases rest <;> rfl

/-- An added entry that follows no removed one is alone in its row. -/
theorem sideBySide_added_cons (place : Nat) (text : List Char)
    (rest : List Entry) :
    sideBySide (.added place text :: rest) =
      ⟨none, some (.added place text)⟩ :: sideBySide rest := by
  cases rest <;> rfl

/-- A removal shares its row with the addition that replaces it. -/
theorem sideBySide_replaced_cons (place : Nat) (text other : List Char)
    (rest : List Entry) :
    sideBySide (.removed place text :: .added place other :: rest) =
      ⟨some (.removed place text), some (.added place other)⟩ ::
      sideBySide rest :=
  rfl

/-- Rows of items left over on the older side have an empty right side. -/
theorem shown_removedFrom (place : Nat) (old : List (List Char)) :
    (sideBySide (removedFrom place old)).map Row.shown =
      (shownFrom place old).map fun item => (some item, none) := by
  induction old generalizing place with
  | nil => rfl
  | cons a rest ih =>
      have halone : sideBySide (removedFrom place (a :: rest)) =
          ⟨some (.removed place a), none⟩ ::
          sideBySide (removedFrom (place + 1) rest) := by
        cases rest <;> rfl
      rw [halone, List.map_cons, ih]
      rfl

/-- Rows of items left over on the newer side have an empty left side. -/
theorem shown_addedFrom (place : Nat) (new : List (List Char)) :
    (sideBySide (addedFrom place new)).map Row.shown =
      (shownFrom place new).map fun item => (none, some item) := by
  induction new generalizing place with
  | nil => rfl
  | cons b rest ih =>
      rw [addedFrom, sideBySide_added_cons, List.map_cons, ih]
      rfl

/-- The rows of two lists show them item by item, and the rest of the longer
one. -/
theorem shown_sideBySide (place : Nat) (old new : List (List Char)) :
    (sideBySide (positionalFrom place old new)).map Row.shown =
      List.zipWithAll Prod.mk (shownFrom place old) (shownFrom place new) := by
  fun_induction positionalFrom place old new with
  | case1 place new =>
      rw [shown_addedFrom]
      exact List.nil_zipWithAll.symm
  | case2 place a old =>
      rw [shown_removedFrom]
      exact List.zipWithAll_nil.symm
  | case3 place old b new ih =>
      rw [sideBySide_unchanged_cons, List.map_cons, ih]
      rfl
  | case4 place a old b new hne ih =>
      rw [sideBySide_replaced_cons, List.map_cons, ih]
      rfl

/-- Two columns are as long as the longer one. -/
theorem length_zipWithAll {α β γ : Type} (f : Option α → Option β → γ)
    (as : List α) (bs : List β) :
    (List.zipWithAll f as bs).length = max as.length bs.length := by
  induction as generalizing bs with
  | nil => simp
  | cons a as ih =>
      cases bs with
      | nil => simp
      | cons b bs => simp [ih, Nat.add_max_add_right]

/-- Items are shown with their numbers from one on. -/
theorem getElem?_shownFrom (items : List (List Char)) (i : Nat) :
    (shownFrom 1 items)[i]? = items[i]?.map fun item =>
      (String.ofList item, some (i + 1)) := by
  simp [shownFrom, Function.comp_def, Nat.add_comm 1]

/-- **Rows.**  The rows of two texts compared by lines are as many as the longer
text has lines.  Each row shows on its left the line of the older text at its
place, if there is one, and on its right the line of the newer text.  And the
rows of any entries, read from left to right, give these entries back. -/
theorem rows_aligned (old new : String) :
    (sideBySide (lineEntries old new)).length =
      max (Text.lines old.toList).length (Text.lines new.toList).length ∧
    (∀ i row, (sideBySide (lineEntries old new))[i]? = some row → row.shown =
      ((Text.lines old.toList)[i]?.map fun line =>
          (String.ofList line, some (i + 1)),
        (Text.lines new.toList)[i]?.map fun line =>
          (String.ofList line, some (i + 1)))) ∧
    ∀ entries, (sideBySide entries).flatMap Row.read = entries := by
  have hshown :
      (sideBySide (lineEntries old new)).map Row.shown = List.zipWithAll Prod.mk
      (shownFrom 1 (Text.lines old.toList))
      (shownFrom 1 (Text.lines new.toList)) :=
    shown_sideBySide 1 _ _
  refine ⟨?_, fun i row hrow => ?_, flatMap_read_sideBySide⟩
  · have hlength := congrArg List.length hshown
    rw [List.length_map, length_zipWithAll] at hlength
    simpa [shownFrom] using hlength
  · have hplace := congrArg (fun rows => rows[i]?) hshown
    simp only [List.getElem?_map, hrow, Option.map_some,
      List.getElem?_zipWithAll, getElem?_shownFrom] at hplace
    split at hplace
    · cases hplace
    · exact Option.some.inj hplace

end TemplateRegistry.Report
