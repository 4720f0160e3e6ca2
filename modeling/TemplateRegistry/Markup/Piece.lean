import TemplateRegistry.Text.Blank
/-!
# Pieces of a marked-up text

A tag is two opening braces, a body without any brace, and two closing braces.
No two tags of a text overlap, so a text falls into single characters and tags
in exactly one way.

* `pieces` — that division, left to right;
* `Piece.source` — the characters a piece was cut from;
* `source_pieces` — nothing is lost: the sources of the pieces, joined, are the
  text.
-/

namespace TemplateRegistry.Markup

/-- A character or a tag with its body. -/
inductive Piece
  | char (c : Char)
  | tag (body : List Char)
  deriving DecidableEq

/-- A brace of either direction. -/
def isBrace (c : Char) : Bool :=
  c = '\x7b' || c = '\x7d'

/-- A tag as it is written. -/
def writeTag (body : List Char) : List Char :=
  '\x7b' :: '\x7b' :: (body ++ ['\x7d', '\x7d'])

/-- The characters of a piece. -/
def Piece.source : Piece → List Char
  | .char c => [c]
  | .tag body => writeTag body

/-- The characters of a list of pieces. -/
def sourceOf (ps : List Piece) : List Char :=
  ps.flatMap Piece.source

/-- The body of the tag that a text starts with. -/
def tagBody? : List Char → Option (List Char)
  | '\x7b' :: '\x7b' :: rest =>
    match rest.dropWhile (fun c => !isBrace c) with
    | '\x7d' :: '\x7d' :: _ => some (rest.takeWhile fun c => !isBrace c)
    | _ => none
  | _ => none

/-- The pieces of a text after a number of characters that belong to the tag
before it. -/
def piecesAfter : Nat → List Char → List Piece
  | _, [] => []
  | skipped + 1, _ :: rest => piecesAfter skipped rest
  | 0, c :: rest =>
    match tagBody? (c :: rest) with
    | some body => .tag body :: piecesAfter (body.length + 3) rest
    | none => .char c :: piecesAfter 0 rest

/-- The pieces of a text. -/
def pieces (s : List Char) : List Piece :=
  piecesAfter 0 s

/-- A text that starts with a tag starts with the written form of its body. -/
theorem tagBody?_eq_some {s body : List Char} (h : tagBody? s = some body) :
    ∃ rest, s = writeTag body ++ rest := by
  unfold tagBody? at h
  split at h
  · rename_i rest
    split at h
    · rename_i after hafter
      simp only [Option.some.injEq] at h
      refine ⟨after, ?_⟩
      have hrest :
          rest = rest.takeWhile (fun c => !isBrace c) ++
            '\x7d' :: '\x7d' :: after := by
        rw [← hafter, List.takeWhile_append_dropWhile]
      simp only [writeTag, List.cons_append, List.append_assoc, List.nil_append]
      rw [← h, ← hrest]
    · simp at h
  · simp at h

/-- Skipping characters is dropping them. -/
theorem piecesAfter_eq_drop (skipped : Nat) (s : List Char) :
    piecesAfter skipped s = pieces (s.drop skipped) := by
  induction s generalizing skipped with
  | nil => cases skipped <;> simp [pieces, piecesAfter]
  | cons c rest ih =>
    cases skipped with
    | zero => rfl
    | succ n => simp only [piecesAfter, List.drop_succ_cons, ih]

/-- A text that starts with a tag has it as its first piece. -/
theorem pieces_of_tag {s body rest : List Char} (h : tagBody? s = some body)
    (hs : s = writeTag body ++ rest) : pieces s = .tag body :: pieces rest := by
  subst hs
  have hcons :
      writeTag body ++ rest =
        '\x7b' :: ('\x7b' :: (body ++ '\x7d' :: '\x7d' :: rest)) := by
    simp [writeTag]
  rw [hcons] at h ⊢
  have hstep :
      pieces ('\x7b' :: ('\x7b' :: (body ++ '\x7d' :: '\x7d' :: rest))) =
      .tag body :: piecesAfter (body.length + 3)
        ('\x7b' :: (body ++ '\x7d' :: '\x7d' :: rest)) := by
    simp only [pieces, piecesAfter, h]
  rw [hstep, piecesAfter_eq_drop]
  have hdrop :
      ('\x7b' :: (body ++ '\x7d' :: '\x7d' :: rest)).drop (body.length + 3) =
        rest := by
    have hlen : body.length + 3 = (body.length + 2) + 1 := by omega
    rw [hlen, List.drop_succ_cons, List.drop_append]
    simp
  rw [hdrop]

/-- A text that does not start with a tag has its first character as its first
piece. -/
theorem pieces_of_no_tag {c : Char} {rest : List Char}
    (h : tagBody? (c :: rest) = none) :
    pieces (c :: rest) = .char c :: pieces rest := by
  simp only [pieces, piecesAfter, h]

/-- Nothing is lost: the sources of the pieces, joined, are the text. -/
theorem source_pieces (s : List Char) : sourceOf (pieces s) = s := by
  suffices h : ∀ n (t : List Char), t.length ≤ n → sourceOf (pieces t) = t from
    h s.length s (Nat.le_refl _)
  intro n
  induction n with
  | zero =>
    intro t ht
    have : t = [] := List.length_eq_zero_iff.mp (Nat.le_zero.mp ht)
    subst this
    rfl
  | succ n ih =>
    intro t ht
    cases t with
    | nil => rfl
    | cons c rest =>
      cases htag : tagBody? (c :: rest) with
      | none =>
        rw [pieces_of_no_tag htag]
        have hrest : sourceOf (pieces rest) = rest :=
          ih rest (by simpa using ht)
        simp only [sourceOf, List.flatMap_cons, Piece.source] at hrest ⊢
        rw [hrest]
        rfl
      | some body =>
        obtain ⟨after, hafter⟩ := tagBody?_eq_some htag
        rw [pieces_of_tag htag hafter, hafter]
        have hshort : after.length ≤ n := by
          have hlen := congrArg List.length hafter
          simp [writeTag] at hlen ht
          omega
        have hrest : sourceOf (pieces after) = after := ih after hshort
        simp only [sourceOf, List.flatMap_cons, Piece.source] at hrest ⊢
        rw [hrest]

end TemplateRegistry.Markup
