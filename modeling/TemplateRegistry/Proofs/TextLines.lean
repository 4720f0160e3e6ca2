import TemplateRegistry.Text.Lines
/-!
# What lines keep of a text

Cutting a text at a character only moves the rest of it one piece on, or puts
the character in front of the first piece.  So the pieces stand in the text,
none of them holds a cut, and a text has no more lines or words than characters.

* `splitWhen_cons` — one character more;
* `length_lines_le`, `length_words_le` — how many lines and words there are;
* `infix_of_mem_splitWhen`, `splitWhen_append_cut` — pieces stand in the text
  and end at cuts;
* `not_mem_of_mem_lines` — no line has a break.
-/

namespace TemplateRegistry.Text

/-- A character more either starts a new piece or belongs to the first one. -/
theorem splitWhen_cons (cut : Char → Bool) (c : Char) (rest : List Char) :
    ∃ first more, splitWhen cut rest = first :: more ∧
      splitWhen cut (c :: rest) =
        if cut c then [] :: first :: more else (c :: first) :: more := by
  obtain ⟨first, more, hsplit⟩ :=
    List.exists_cons_of_ne_nil (splitWhen_ne_nil cut rest)
  refine ⟨first, more, hsplit, ?_⟩
  rw [splitWhen, hsplit]
  cases cut c <;> rfl

/-- The pieces of a text stand in it. -/
theorem infix_of_mem_splitWhen {cut : Char → Bool} {s piece : List Char}
    (h : piece ∈ splitWhen cut s) : piece <:+: s := by
  -- what is asked of the first piece is more: the text begins with it
  suffices hfirst : ∃ first more, splitWhen cut s = first :: more ∧
      first <+: s ∧ ∀ later ∈ more, later <:+: s by
    obtain ⟨first, more, hsplit, hfront, hlater⟩ := hfirst
    rw [hsplit] at h
    rcases List.mem_cons.mp h with rfl | hmore
    · exact hfront.isInfix
    · exact hlater piece hmore
  clear h
  induction s with
  | nil => exact ⟨[], [], rfl, List.prefix_refl _, List.forall_mem_nil _⟩
  | cons c rest ih =>
      obtain ⟨first, more, hsplit, hfront, hlater⟩ := ih
      obtain ⟨first', more', hsplit', hcons⟩ := splitWhen_cons cut c rest
      obtain ⟨rfl, rfl⟩ := List.cons.inj (hsplit.symm.trans hsplit')
      have hbehind : ∀ later ∈ more, later <:+: c :: rest := fun later hmem =>
        List.infix_cons (hlater later hmem)
      rw [hcons]
      split
      · refine ⟨[], first :: more, rfl, List.nil_prefix,
          List.forall_mem_cons.mpr ⟨?_, hbehind⟩⟩
        exact List.infix_cons hfront.isInfix
      · exact ⟨c :: first, more, rfl, List.cons_prefix_cons.mpr ⟨rfl, hfront⟩,
          hbehind⟩

/-- No piece of a text holds a cut. -/
theorem not_cut_of_mem_splitWhen {cut : Char → Bool} {s piece : List Char}
    {c : Char} (hpiece : piece ∈ splitWhen cut s) (hc : c ∈ piece) :
    cut c = false := by
  induction s generalizing piece with
  | nil =>
      obtain rfl : piece = [] := by simpa [splitWhen] using hpiece
      cases hc
  | cons d rest ih =>
      obtain ⟨first, more, hsplit, hcons⟩ := splitWhen_cons cut d rest
      rw [hsplit] at ih
      rw [hcons] at hpiece
      split at hpiece
      · rcases List.mem_cons.mp hpiece with rfl | hlater
        · cases hc
        · exact ih hlater hc
      · rcases List.mem_cons.mp hpiece with rfl | hlater
        · rcases List.mem_cons.mp hc with rfl | hfirst
          · simpa using ‹¬ cut c = true›
          · exact ih List.mem_cons_self hfirst
        · exact ih (List.mem_cons_of_mem _ hlater) hc

/-- A piece ends at the first cut after it. -/
theorem splitWhen_append_cut {cut : Char → Bool} {piece : List Char} {d : Char}
    (hpiece : ∀ c ∈ piece, cut c = false) (hd : cut d = true)
    (rest : List Char) :
    splitWhen cut (piece ++ d :: rest) = piece :: splitWhen cut rest := by
  induction piece with
  | nil => rw [List.nil_append, splitWhen, hd]
  | cons c piece ih =>
      rw [List.cons_append, splitWhen, hpiece c List.mem_cons_self,
        ih fun c hc => hpiece c (List.mem_cons_of_mem _ hc)]

/-- A text without cuts is one piece. -/
theorem splitWhen_eq_singleton {cut : Char → Bool} {s : List Char}
    (h : ∀ c ∈ s, cut c = false) :
    splitWhen cut s = [s] := by
  induction s with
  | nil => rfl
  | cons c rest ih =>
      rw [splitWhen, h c List.mem_cons_self, ih fun d hd =>
        h d (List.mem_cons_of_mem _ hd)]

/-- Lines behind the first one, whatever it is. -/
theorem linesOfPieces_cons_cons (line next : List Char)
    (more : List (List Char)) :
    linesOfPieces (line :: next :: more) =
      dropReturn line :: linesOfPieces (next :: more) :=
  rfl

/-- Dropping a carriage return adds no character. -/
theorem mem_of_mem_dropReturn {line : List Char} {c : Char}
    (h : c ∈ dropReturn line) : c ∈ line := by
  unfold dropReturn at h
  split at h
  · exact (List.dropLast_sublist line).subset h
  · exact h

/-- A line holds no line feed. -/
theorem not_mem_of_mem_lines {s line : List Char} (h : line ∈ lines s) :
    '\n' ∉ line := by
  suffices hpieces : ∀ pieces : List (List Char),
      (∀ piece ∈ pieces, '\n' ∉ piece) →
      ∀ line ∈ linesOfPieces pieces, '\n' ∉ line by
    refine hpieces _ (fun piece hpiece hmem => ?_) line h
    simpa using not_cut_of_mem_splitWhen hpiece hmem
  intro pieces
  fun_induction linesOfPieces pieces with
  | case1 => exact fun _ => List.forall_mem_nil _
  | case2 last => exact fun _ => List.forall_mem_nil _
  | case3 last => exact id
  | case4 line next rest ih =>
      intro hpieces
      obtain ⟨hline, hrest⟩ := List.forall_mem_cons.mp hpieces
      exact List.forall_mem_cons.mpr
        ⟨fun hmem => hline (mem_of_mem_dropReturn hmem), ih hrest⟩

/-! ### How many lines and words -/

/-- A text has no more lines than characters. -/
theorem length_lines_le (s : List Char) : (lines s).length ≤ s.length := by
  induction s with
  | nil => exact Nat.le_refl 0
  | cons c rest ih =>
      obtain ⟨first, more, hsplit, hcons⟩ := splitWhen_cons (· == '\n') c rest
      unfold lines at ih ⊢
      rw [hsplit] at ih
      rw [hcons, List.length_cons]
      split
      · exact Nat.succ_le_succ ih
      · cases more with
        | nil => simp [linesOfPieces]
        | cons next more =>
            rw [linesOfPieces_cons_cons, List.length_cons] at ih ⊢
            exact Nat.le_succ_of_le ih

/-- A text has no more words than characters. -/
theorem length_words_le (s : List Char) : (words s).length ≤ s.length := by
  induction s with
  | nil => exact Nat.le_refl 0
  | cons c rest ih =>
      obtain ⟨first, more, hsplit, hcons⟩ := splitWhen_cons isBlank c rest
      unfold words at ih ⊢
      rw [hsplit] at ih
      rw [hcons, List.length_cons]
      split
      · exact Nat.le_succ_of_le ih
      · have hmore : (more.filter fun piece => !piece.isEmpty).length ≤
            ((first :: more).filter fun piece => !piece.isEmpty).length :=
          ((List.sublist_cons_self first more).filter _).length_le
        simpa using Nat.le_trans hmore ih

end TemplateRegistry.Text
