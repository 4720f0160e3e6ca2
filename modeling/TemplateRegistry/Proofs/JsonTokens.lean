import Mathlib.Tactic.SplitIfs
import TemplateRegistry.Json.Token
import TemplateRegistry.Proofs.IntegerNumerals
/-!
# Tokens of a printed document

A printed document is read as the tokens it is made of, in whatever layout: the
tokens do not depend on blanks between them.  A text *reads as* tokens if the
machine that has read it, starting between tokens, is between tokens again with
these added.  A word is complete only when something follows that is no part of
it, so a word *spells* its token: it reads as it where it is delimited.

* `Reads`, `Spells` — the two relations, and how texts in sequence compose;
* `reads_stringChars` — strings, all of Unicode included;
* `spells_integerChars` — integers of 64 bits;
* `Json.tokens`, `Json.Exact` — the tokens of a document, and the documents
  whose numbers are such integers;
* `spells_prettyChars`, `spells_compactChars` — a document with one item a line,
  and one without any blank.
-/

namespace TemplateRegistry

namespace JsonToken

/-- The tokens of the rest of a text, after what a machine has read. -/
def Machine.read? (machine : Machine) (rest : List Char) :
    Option (List JsonToken) :=
  (machine.run? rest).bind finish?

/-- Characters are read from the first to the last. -/
theorem Machine.read?_cons (machine : Machine) (c : Char) (rest : List Char) :
    machine.read? (c :: rest) = (machine.step? c).bind fun next =>
      next.read? rest := by
  unfold read?
  rw [run?]
  cases machine.step? c <;> rfl

/-- A character that ends a word before it. -/
def EndsWord (c : Char) : Prop :=
  isSpace c ∨ c = '"' ∨ (punctuation? c).isSome

instance : DecidablePred EndsWord :=
  fun c => inferInstanceAs (Decidable (isSpace c ∨ c = '"' ∨
    (punctuation? c).isSome))

/-- A rest of a text that is no continuation of a word. -/
def Delimits : List Char → Prop
  | [] => True
  | c :: _ => EndsWord c

/-- A text that is read as some tokens, whatever comes before and after it. -/
def Reads (text : List Char) (tokens : List JsonToken) : Prop :=
  ∀ before rest, Machine.read? ⟨.between, before⟩ (text ++ rest) =
    Machine.read? ⟨.between, tokens.reverse ++ before⟩ rest

/-- A text that is read as some tokens where it is delimited. -/
def Spells (text : List Char) (tokens : List JsonToken) : Prop :=
  ∀ before rest, Delimits rest →
    Machine.read? ⟨.between, before⟩ (text ++ rest) =
    Machine.read? ⟨.between, tokens.reverse ++ before⟩ rest

/-! ### Texts in sequence -/

section Sequences

variable {text more : List Char} {tokens others : List JsonToken}

/-- A text that is read in any place spells its tokens. -/
theorem Reads.spells (h : Reads text tokens) : Spells text tokens :=
  fun before rest _ => h before rest

theorem reads_nil : Reads [] [] :=
  fun _ _ => rfl

/-- Texts that are read in any place can be put together. -/
theorem Reads.append (h : Reads text tokens) (hmore : Reads more others) :
    Reads (text ++ more) (tokens ++ others) := by
  intro before rest
  rw [List.append_assoc, h, hmore, List.reverse_append, List.append_assoc]

/-- Only the last of several texts needs an end behind it. -/
theorem Reads.append_spells (h : Reads text tokens)
    (hmore : Spells more others) :
    Spells (text ++ more) (tokens ++ others) := by
  intro before rest hrest
  rw [List.append_assoc, h, hmore _ _ hrest, List.reverse_append,
    List.append_assoc]

/-- What spells tokens reads as them in front of a character that ends words. -/
theorem Spells.append_reads {c : Char} (h : Spells text tokens)
    (hc : EndsWord c) (hmore : Reads (c :: more) others) :
    Reads (text ++ c :: more) (tokens ++ others) := by
  intro before rest
  rw [List.append_assoc, h before (c :: more ++ rest) hc, hmore,
    List.reverse_append, List.append_assoc]

/-- A whole text that spells tokens. -/
theorem Spells.ofChars? (h : Spells text tokens) :
    JsonToken.ofChars? text = some tokens := by
  have hread := h [] [] trivial
  rw [List.append_nil] at hread
  calc JsonToken.ofChars? text = Machine.read? ⟨.between, []⟩ text := rfl
    _ = Machine.read? ⟨.between, tokens.reverse ++ []⟩ [] := hread
    _ = some tokens := by simp [Machine.read?, Machine.run?, Machine.finish?]

end Sequences

/-! ### Blanks, punctuation and words -/

/-- A blank is no token. -/
theorem reads_space {c : Char} (h : isSpace c) : Reads [c] [] := by
  intro before rest
  simp [Machine.read?_cons, Machine.step?, start?, h]

theorem reads_spaces {text : List Char} (h : ∀ c ∈ text, isSpace c) :
    Reads text [] := by
  induction text with
  | nil => exact reads_nil
  | cons c rest ih =>
      exact (reads_space (h c List.mem_cons_self)).append
        (ih fun d hd => h d (List.mem_cons_of_mem _ hd))

/-- A mark is a token by itself. -/
theorem reads_punctuation {c : Char} {token : JsonToken} (hspace : ¬ isSpace c)
    (hquote : c ≠ '"') (h : punctuation? c = some token) :
    Reads [c] [token] := by
  intro before rest
  simp [Machine.read?_cons, Machine.step?, start?, h, hspace, hquote]

theorem reads_arrayOpen : Reads ['['] [.arrayOpen] :=
  reads_punctuation (by decide) (by decide) rfl

theorem reads_arrayClose : Reads [']'] [.arrayClose] :=
  reads_punctuation (by decide) (by decide) rfl

theorem reads_objectOpen : Reads ['\x7b'] [.objectOpen] :=
  reads_punctuation (by decide) (by decide) rfl

theorem reads_objectClose : Reads ['\x7d'] [.objectClose] :=
  reads_punctuation (by decide) (by decide) rfl

/-- A word before it is complete. -/
theorem read?_word {word : List Char} (h : ∀ c ∈ word, ¬ EndsWord c)
    (reversed : List Char) (before : List JsonToken) (rest : List Char) :
    Machine.read? ⟨.word reversed, before⟩ (word ++ rest) =
      Machine.read? ⟨.word (word.reverse ++ reversed), before⟩ rest := by
  induction word generalizing reversed with
  | nil => rfl
  | cons c word ih =>
      have hc : ¬ (isSpace c ∨ c = '"' ∨ (punctuation? c).isSome) :=
        h c List.mem_cons_self
      have hword :=
        ih (fun d hd => h d (List.mem_cons_of_mem _ hd)) (c :: reversed)
      rw [List.cons_append, Machine.read?_cons, Machine.step?]
      simp only [if_neg hc, Option.bind_some]
      rw [hword, List.reverse_cons, List.append_assoc]
      rfl

/-- A word that has a token, where it ends. -/
theorem read?_word_end {reversed : List Char} {token : JsonToken}
    (htoken : ofWord? reversed.reverse = some token) (before : List JsonToken)
    {rest : List Char} (hrest : Delimits rest) :
    Machine.read? ⟨.word reversed, before⟩ rest =
      Machine.read? ⟨.between, token :: before⟩ rest := by
  cases rest with
  | nil => simp [Machine.read?, Machine.run?, Machine.finish?, htoken]
  | cons c rest =>
      rw [Machine.read?_cons, Machine.read?_cons, Machine.step?, Machine.step?]
      simp only [if_pos (show isSpace c ∨ c = '"' ∨
        (punctuation? c).isSome from hrest), htoken]

/-- A word is a token once it ends. -/
theorem spells_word {word : List Char} {token : JsonToken} (hne : word ≠ [])
    (h : ∀ c ∈ word, ¬ EndsWord c) (htoken : ofWord? word = some token) :
    Spells word [token] := by
  intro before rest hrest
  cases word with
  | nil => exact absurd rfl hne
  | cons c word =>
      have hstart : start? before c = some ⟨.word [c], before⟩ := by
        have hc : ¬ EndsWord c := h c List.mem_cons_self
        simp only [EndsWord, not_or, Bool.not_eq_true,
          Option.isSome_eq_false_iff, Option.isNone_iff_eq_none] at hc
        simp [start?, hc.1, hc.2.1, hc.2.2]
      rw [List.cons_append, Machine.read?_cons, Machine.step?]
      simp only [hstart, Option.bind_some]
      rw [read?_word fun d hd => h d (List.mem_cons_of_mem _ hd)]
      exact read?_word_end (by simpa using htoken) before hrest

/-- A fixed word. -/
theorem spells_keyword {word : List Char} {token : JsonToken} (hne : word ≠ [])
    (h : (word.all fun c => !decide (EndsWord c)) = true)
    (htoken : ofWord? word = some token) :
    Spells word [token] := by
  refine spells_word hne (fun c hc => ?_) htoken
  simpa using List.all_eq_true.mp h c hc

theorem spells_null : Spells "null".toList [.null] :=
  spells_keyword (by decide) (by decide) rfl

theorem spells_true : Spells "true".toList [.bool true] :=
  spells_keyword (by decide) (by decide) rfl

theorem spells_false : Spells "false".toList [.bool false] :=
  spells_keyword (by decide) (by decide) rfl

/-- A digit ends no word. -/
theorem not_endsWord_of_isDigit {c : Char} (h : c.isDigit) : ¬ EndsWord c := by
  rintro (hspace | rfl | hpunctuation)
  · simp only [isSpace, Bool.or_eq_true, decide_eq_true_eq] at hspace
    rcases hspace with ((rfl | rfl) | rfl) | rfl <;> revert h <;> decide
  · revert h
    decide
  · unfold punctuation? at hpunctuation
    split at hpunctuation
    all_goals first | (revert h; decide) | cases hpunctuation

/-- The characters of an integer end no word. -/
theorem not_endsWord_of_mem_integerChars {i : Int} {c : Char}
    (h : c ∈ Json.integerChars i) :
    ¬ EndsWord c := by
  unfold Json.integerChars at h
  split at h
  next =>
    rcases List.mem_cons.mp h with rfl | hdigit
    · decide
    · exact not_endsWord_of_isDigit (Numeral.isDigit_of_mem_toDigits hdigit)
  next => exact not_endsWord_of_isDigit (Numeral.isDigit_of_mem_toDigits h)

/-- An integer starts with a minus sign or a digit. -/
theorem integerChars_eq_cons (i : Int) :
    ∃ c rest, Json.integerChars i = c :: rest ∧ (c = '-' ∨ c.isDigit) := by
  unfold Json.integerChars
  split
  next => exact ⟨_, _, rfl, Or.inl rfl⟩
  next =>
    obtain ⟨c, rest, hdigits⟩ := List.exists_cons_of_ne_nil
      (Nat.toDigits_ne_nil : Nat.toDigits 10 i.natAbs ≠ [])
    exact ⟨c, rest, hdigits,
      Or.inr (Numeral.isDigit_of_mem_toDigits (hdigits ▸ List.mem_cons_self))⟩

/-- An integer of 64 bits. -/
theorem spells_integerChars {i : Int} (h : JsonNumber.IsWord i) :
    Spells (Json.integerChars i) [.number (.integer i)] := by
  obtain ⟨c, rest, hchars, hc⟩ := integerChars_eq_cons i
  have hletter : c ≠ 'n' ∧ c ≠ 't' ∧ c ≠ 'f' := by
    refine ⟨?_, ?_, ?_⟩ <;> (rintro rfl; revert hc; decide)
  have hnull : Json.integerChars i ≠ "null".toList := by
    rw [hchars]
    exact fun heq => hletter.1 (List.cons.inj heq).1
  have htrue : Json.integerChars i ≠ "true".toList := by
    rw [hchars]
    exact fun heq => hletter.2.1 (List.cons.inj heq).1
  have hfalse : Json.integerChars i ≠ "false".toList := by
    rw [hchars]
    exact fun heq => hletter.2.2 (List.cons.inj heq).1
  refine spells_word (by rw [hchars]; simp)
    (fun c => not_endsWord_of_mem_integerChars) ?_
  obtain ⟨numeral, hnumeral, hvalue⟩ :=
    Option.map_eq_some_iff.mp (JsonNumber.ofNumeral_integerChars h)
  rw [ofWord?, if_neg hnull, if_neg htrue, if_neg hfalse, hnumeral,
    Option.map_some, hvalue]

/-! ### Strings -/

/-- The character of a hexadecimal digit is read as that digit. -/
theorem hexDigit?_digitChar {n : Nat} (h : n < 16) :
    Numeral.hexDigit? n.digitChar = some n := by
  revert n
  decide

/-- An escape by code unit of a character below U+0100. -/
theorem read?_unit {unit : Nat} (h : unit < 256) (reversed : List Nat)
    (before : List JsonToken) (rest : List Char) :
    Machine.read? ⟨.unit reversed 4 0, before⟩
        ('0' :: '0' :: (unit / 16).digitChar :: (unit % 16).digitChar :: rest) =
      Machine.read? ⟨.text (unit :: reversed), before⟩ rest := by
  have hzero : Numeral.hexDigit? '0' = some 0 := by decide
  have hhigh := hexDigit?_digitChar (show unit / 16 < 16 by omega)
  have hlow := hexDigit?_digitChar (Nat.mod_lt unit (show 0 < 16 by decide))
  have hunit : 16 * (unit / 16) + unit % 16 = unit := Nat.div_add_mod unit 16
  simp [Machine.read?_cons, Machine.step?, hzero, hhigh, hlow, hunit]

/-- Each character of a string is read as its code point. -/
theorem read?_escapeChar (c : Char) (reversed : List Nat)
    (before : List JsonToken) (rest : List Char) :
    Machine.read? ⟨.text reversed, before⟩ (Json.escapeChar c ++ rest) =
      Machine.read? ⟨.text (c.toNat :: reversed), before⟩ rest := by
  have hescape : ∀ letter made : Char,
      letter ≠ 'u' → escaped? letter = some made →
      Machine.read? ⟨.text reversed, before⟩ ('\\' :: letter :: rest) =
        Machine.read? ⟨.text (made.toNat :: reversed), before⟩ rest := by
    intro letter made hu hmade
    simp [Machine.read?_cons, Machine.step?, hu, hmade]
  unfold Json.escapeChar
  split_ifs with hquote hbackslash hb hf hn hr ht hcontrol
  · exact hquote ▸ hescape '"' '"' (by decide) rfl
  · exact hbackslash ▸ hescape '\\' '\\' (by decide) rfl
  · exact hb ▸ hescape 'b' '\x08' (by decide) rfl
  · exact hf ▸ hescape 'f' '\x0c' (by decide) rfl
  · exact hn ▸ hescape 'n' '\n' (by decide) rfl
  · exact hr ▸ hescape 'r' '\r' (by decide) rfl
  · exact ht ▸ hescape 't' '\t' (by decide) rfl
  · have hunit := read?_unit (show c.toNat < 256 by omega) reversed before rest
    simpa [Machine.read?_cons, Machine.step?] using hunit
  · simp [Machine.read?_cons, Machine.step?, hquote, hbackslash, hcontrol]

/-- The characters of a string are read one by one, each as its code point. -/
theorem read?_flatMap_escapeChar (chars : List Char) (reversed : List Nat)
    (before : List JsonToken) (rest : List Char) :
    Machine.read? ⟨.text reversed, before⟩
      (chars.flatMap Json.escapeChar ++ rest) =
      Machine.read? ⟨.text ((chars.map Char.toNat).reverse ++ reversed), before⟩
        rest := by
  induction chars generalizing reversed with
  | nil => rfl
  | cons c chars ih =>
      rw [List.flatMap_cons, List.append_assoc, read?_escapeChar, ih,
        List.map_cons, List.reverse_cons, List.append_assoc]
      rfl

/-- No character is half of a surrogate pair. -/
theorem not_half (c : Char) :
    isHighHalf c.toNat = false ∧ isLowHalf c.toNat = false := by
  have hvalid : c.toNat < 0xD800 ∨ 0xDFFF < c.toNat ∧ c.toNat < 0x110000 :=
    c.valid
  simp only [isHighHalf, isLowHalf, Bool.and_eq_false_iff,
    decide_eq_false_iff_not]
  omega

/-- Code points make the characters they are of. -/
theorem joinUnits?_map_toNat (chars made : List Char) :
    joinUnits? made (chars.map Char.toNat) = some (chars.reverse ++ made) := by
  induction chars generalizing made with
  | nil => rfl
  | cons c rest ih =>
      obtain ⟨hhigh, hlow⟩ := not_half c
      cases rest with
      | nil => simp [joinUnits?, hhigh, hlow]
      | cons d rest =>
          have hjoin := ih (c :: made)
          rw [List.map_cons] at hjoin
          simp [joinUnits?, hhigh, hlow, hjoin]

/-- A string, whatever characters it has. -/
theorem reads_stringChars (s : String) :
    Reads (Json.stringChars s) [.string (some s)] := by
  intro before rest
  have hunits :
      ofUnits ((s.toList.map Char.toNat).reverse ++ []) = .string (some s) := by
    rw [ofUnits, List.append_nil, ← List.map_reverse, joinUnits?_map_toNat]
    simp
  have hopen :
    Machine.read? ⟨.between, before⟩ ('"' ::
      (s.toList.flatMap Json.escapeChar ++
        '"' :: rest)) =
          Machine.read? ⟨.text [], before⟩ (s.toList.flatMap Json.escapeChar ++
            '"' :: rest) := by
    simp [Machine.read?_cons, Machine.step?, start?, isSpace]
  calc Machine.read? ⟨.between, before⟩ (Json.stringChars s ++ rest)
      = Machine.read? ⟨.text [], before⟩ (s.toList.flatMap Json.escapeChar ++
        '"' :: rest) := by
        rw [← hopen]
        simp [Json.stringChars]
    _ = Machine.read?
          ⟨.text ((s.toList.map Char.toNat).reverse ++ []), before⟩
          ('"' :: rest) :=
        read?_flatMap_escapeChar _ _ _ _
    _ = Machine.read? ⟨.between, .string (some s) :: before⟩ rest := by
        simp only [Machine.read?_cons, Machine.step?, if_pos,
          Option.bind_some, hunits]

end JsonToken

/-! ### Documents -/

namespace Json

open JsonToken

mutual

/-- The tokens a document is made of. -/
def tokens : Json → List JsonToken
  | .null => [.null]
  | .bool b => [.bool b]
  | .number n => [.number n]
  | .string s => [.string (some s)]
  | .array items => .arrayOpen :: (itemTokens items ++ [.arrayClose])
  | .object members => .objectOpen :: (memberTokens members ++ [.objectClose])
  | .illegible => [.null]

/-- The tokens of the items of an array. -/
def itemTokens : List Json → List JsonToken
  | [] => []
  | [item] => tokens item
  | item :: next :: rest => tokens item ++ .comma :: itemTokens (next :: rest)

/-- The tokens of the members of an object. -/
def memberTokens : List (String × Json) → List JsonToken
  | [] => []
  | [(name, value)] => .string (some name) :: .colon :: tokens value
  | (name, value) :: next :: rest =>
    .string (some name) :: .colon ::
      (tokens value ++ .comma :: memberTokens (next :: rest))

end

mutual

/-- A document whose numbers are integers of 64 bits and whose parts are all
legible. -/
def Exact : Json → Prop
  | .null => True
  | .bool _ => True
  | .number (.integer i) => JsonNumber.IsWord i
  | .number (.decimal _) => False
  | .string _ => True
  | .array items => ExactItems items
  | .object members => ExactMembers members
  | .illegible => False

/-- Documents in a list that are all exact. -/
def ExactItems : List Json → Prop
  | [] => True
  | item :: rest => Exact item ∧ ExactItems rest

/-- Members that are all exact. -/
def ExactMembers : List (String × Json) → Prop
  | [] => True
  | (_, value) :: rest => Exact value ∧ ExactMembers rest

end

/-- Items are exact if each of them is. -/
theorem exactItems_iff {items : List Json} :
    ExactItems items ↔ ∀ item ∈ items, item.Exact := by
  induction items with
  | nil => simp [ExactItems]
  | cons item rest ih => simp [ExactItems, ih]

/-- A line break with its indentation is blank. -/
theorem reads_lineBreak (level : Nat) : Reads (lineBreak level) [] := by
  refine reads_spaces fun c hc => ?_
  rcases List.mem_cons.mp hc with rfl | hblank
  · rfl
  · rw [(List.mem_replicate.mp hblank).2]
    rfl

/-- A value on a line of its own. -/
theorem spells_onLine (level : Nat) {text : List Char} {tokens : List JsonToken}
    (h : Spells text tokens) : Spells (lineBreak level ++ text) tokens :=
  (reads_lineBreak level).append_spells h

/-- A container, its end on a line of its own. -/
theorem spells_container {opening closing : Char} {first last : JsonToken}
    (hopening : Reads [opening] [first]) (hclosing : Reads [closing] [last])
    (level : Nat) {text : List Char} {tokens : List JsonToken}
    (h : Spells text tokens) :
    Spells (opening :: (text ++ lineBreak level ++ [closing]))
      (first :: (tokens ++ [last])) := by
  have hend :
      Reads ('\n' :: (List.replicate (2 * level) ' ' ++ [closing])) [last] :=
    (reads_lineBreak level).append hclosing
  have hinside := h.append_reads (by decide) hend
  simpa [lineBreak] using (hopening.append hinside).spells

/-- What spells tokens, followed by a comma. -/
theorem spells_comma {text more : List Char} {tokens others : List JsonToken}
    (h : Spells text tokens) (hmore : Spells more others) :
    Spells (text ++ ',' :: more) (tokens ++ .comma :: others) := by
  have hcomma : Reads [','] [.comma] :=
    reads_punctuation (by decide) (by decide) rfl
  simpa using (h.append_reads (by decide) hcomma).append_spells hmore

/-- A value after its name. -/
theorem spells_named (name : String) {text : List Char}
    {tokens : List JsonToken} (h : Spells text tokens) :
    Spells (stringChars name ++ ':' :: text)
      (.string (some name) :: .colon :: tokens) := by
  have hcolon : Reads [':'] [.colon] :=
    reads_punctuation (by decide) (by decide) rfl
  exact (reads_stringChars name).append_spells (hcolon.append_spells h)

/-- A value after its name, on a line of its own. -/
theorem spells_member (level : Nat) (name : String) {text : List Char}
    {tokens : List JsonToken} (h : Spells text tokens) :
    Spells (lineBreak level ++ stringChars name ++ ':' :: ' ' :: text)
      (.string (some name) :: .colon :: tokens) := by
  have hblank : Reads [' '] [] := reads_space (by decide)
  rw [List.append_assoc]
  exact spells_onLine level (spells_named name (hblank.append_spells h))

mutual

/-- A document with one item a line is read as its tokens. -/
theorem spells_prettyChars (level : Nat) :
    ∀ document : Json, document.Exact →
      Spells (prettyChars level document) document.tokens
  | .null, _ => spells_null
  | .bool true, _ => spells_true
  | .bool false, _ => spells_false
  | .number (.integer _), h => spells_integerChars h
  | .number (.decimal _), h => h.elim
  | .string s, _ => (reads_stringChars s).spells
  | .array [], _ => (reads_arrayOpen.append reads_arrayClose).spells
  | .array (item :: rest), h =>
      spells_container reads_arrayOpen reads_arrayClose level
        (spells_prettyItems (level + 1) (item :: rest) h)
  | .object [], _ => (reads_objectOpen.append reads_objectClose).spells
  | .object (member :: rest), h =>
      spells_container reads_objectOpen reads_objectClose level
        (spells_prettyMembers (level + 1) (member :: rest) h)
  | .illegible, h => h.elim

/-- Items, one a line, spell their tokens. -/
theorem spells_prettyItems (level : Nat) :
    ∀ items : List Json, ExactItems items →
      Spells (prettyItems level items) (itemTokens items)
  | [], _ => reads_nil.spells
  | [item], h => spells_onLine level (spells_prettyChars level item h.1)
  | item :: next :: rest, h =>
      spells_comma (spells_onLine level (spells_prettyChars level item h.1))
        (spells_prettyItems level (next :: rest) h.2)

theorem spells_prettyMembers (level : Nat) :
    ∀ members : List (String × Json), ExactMembers members →
      Spells (prettyMembers level members) (memberTokens members)
  | [], _ => reads_nil.spells
  | [(name, value)], h =>
      spells_member level name (spells_prettyChars level value h.1)
  | (name, value) :: next :: rest, h => by
      have hmember :=
        spells_member level name (spells_prettyChars level value h.1)
      simpa [prettyMembers, memberTokens] using
        spells_comma hmember (spells_prettyMembers level (next :: rest) h.2)

end

/-- A container without any blank. -/
theorem spells_enclosed {opening closing : Char} {first last : JsonToken}
    (hopening : Reads [opening] [first]) (hclosing : Reads [closing] [last])
    (hends : EndsWord closing) {text : List Char} {tokens : List JsonToken}
    (h : Spells text tokens) :
    Spells (opening :: (text ++ [closing])) (first :: (tokens ++ [last])) :=
  (hopening.append (h.append_reads hends hclosing)).spells

mutual

/-- A document without any blank is read as its tokens. -/
theorem spells_compactChars :
    ∀ document : Json, document.Exact →
      Spells (compactChars document) document.tokens
  | .null, _ => spells_null
  | .bool true, _ => spells_true
  | .bool false, _ => spells_false
  | .number (.integer _), h => spells_integerChars h
  | .number (.decimal _), h => h.elim
  | .string s, _ => (reads_stringChars s).spells
  | .array items, h =>
      spells_enclosed reads_arrayOpen reads_arrayClose (by decide)
        (spells_compactItems items h)
  | .object members, h =>
      spells_enclosed reads_objectOpen reads_objectClose (by decide)
        (spells_compactMembers members h)
  | .illegible, h => h.elim

theorem spells_compactItems :
    ∀ items : List Json, ExactItems items →
      Spells (compactItems items) (itemTokens items)
  | [], _ => reads_nil.spells
  | [item], h => spells_compactChars item h.1
  | item :: next :: rest, h =>
      spells_comma (spells_compactChars item h.1)
        (spells_compactItems (next :: rest) h.2)

theorem spells_compactMembers :
    ∀ members : List (String × Json), ExactMembers members →
      Spells (compactMembers members) (memberTokens members)
  | [], _ => reads_nil.spells
  | [(name, value)], h => spells_named name (spells_compactChars value h.1)
  | (name, value) :: next :: rest, h => by
      have hmember := spells_named name (spells_compactChars value h.1)
      simpa [compactMembers, memberTokens] using
        spells_comma hmember (spells_compactMembers (next :: rest) h.2)

end

/-- **Printing keeps the tokens.**  The text of a document with one item a line
has the tokens of the document. -/
theorem ofChars?_pretty {document : Json} (h : document.Exact) :
    JsonToken.ofChars? document.pretty.toList = some document.tokens := by
  rw [pretty, String.toList_ofList]
  exact (spells_prettyChars 0 document h).ofChars?

/-- The text of a document without any blank has the tokens of the document. -/
theorem ofChars?_compact {document : Json} (h : document.Exact) :
    JsonToken.ofChars? document.compact.toList = some document.tokens := by
  rw [compact, String.toList_ofList]
  exact (spells_compactChars document h).ofChars?

end Json

end TemplateRegistry
