import TemplateRegistry.Proofs.IntegerNumerals
import TemplateRegistry.Proofs.Tables
import TemplateRegistry.Proofs.WholeNumbers
import TemplateRegistry.Value.Reader
/-!
# Documents with nulls

A value is read from a document strictly or leniently.  The two readings give
the same value of a document without a null, the one that the document denotes.
Of a document with a null somewhere, the strict reading gives none.  The lenient
one gives the value of what is left of the document without its nulls, unless
the whole document is one.

The documents here are trees: the names of an object are distinct, so that it
does not matter which of two members counts, and every number is one that a
reader of numbers makes.

* `Json.hasNull`, `Json.withoutNulls` — a null anywhere, and every null left
  out;
* `Json.IsTree`, `Json.Denotes` — the documents, and the value of one;
* `Value.denotes_of_ofJson?` — the strict reading gives the value that is
  denoted;
* `Value.ofJson?_of_hasNull`, `Value.ofJsonLenient?_eq` — a null refused, and
  left out;
* `Value.readings_agree_but_for_nulls` — both readings of all documents.
-/

namespace TemplateRegistry

namespace Json

/-- Whether a document is `null`. -/
def isNull : Json → Bool
  | .null => true
  | _ => false

mutual

/-- Whether a document is `null` or has one anywhere inside. -/
def hasNull : Json → Bool
  | .null => true
  | .array items => itemsHaveNull items
  | .object members => membersHaveNull members
  | _ => false

/-- Whether an item is `null` or has one anywhere inside. -/
def itemsHaveNull : List Json → Bool
  | [] => false
  | item :: rest => hasNull item || itemsHaveNull rest

/-- Whether the value of a member is `null` or has one anywhere inside. -/
def membersHaveNull : List (String × Json) → Bool
  | [] => false
  | (_, document) :: rest => hasNull document || membersHaveNull rest

end

mutual

/-- A document with every item and every member left out that is `null`, at
every depth. -/
def withoutNulls : Json → Json
  | .array items => .array (itemsWithoutNulls items)
  | .object members => .object (membersWithoutNulls members)
  | document => document

/-- Items but for those that are `null`, each without the nulls inside. -/
def itemsWithoutNulls : List Json → List Json
  | [] => []
  | item :: rest =>
    if item.isNull then itemsWithoutNulls rest
    else withoutNulls item :: itemsWithoutNulls rest

/-- Members but for those whose value is `null`, each without the nulls
inside. -/
def membersWithoutNulls : List (String × Json) → List (String × Json)
  | [] => []
  | (name, document) :: rest =>
    if document.isNull then membersWithoutNulls rest
    else (name, withoutNulls document) :: membersWithoutNulls rest

end

mutual

/-- A document as a tree of values by distinct names: a number is an integer of
64 bits or a finite double, and every part is legible. -/
def IsTree : Json → Prop
  | .null => True
  | .bool _ => True
  | .number (.integer i) => JsonNumber.IsWord i
  | .number (.decimal x) => x.isFinite
  | .string _ => True
  | .array items => AreTrees items
  | .object members => (members.map Prod.fst).Nodup ∧ HaveTrees members
  | .illegible => False

/-- Items that are trees. -/
def AreTrees : List Json → Prop
  | [] => True
  | item :: rest => IsTree item ∧ AreTrees rest

/-- Members whose values are trees. -/
def HaveTrees : List (String × Json) → Prop
  | [] => True
  | (_, document) :: rest => IsTree document ∧ HaveTrees rest

end

mutual

/-- The value of a document.  A map has the members of its object in the order
of their names. -/
inductive Denotes : Json → Value → Prop
  | bool (b : Bool) : Denotes (.bool b) (.boolean b)
  | number (n : JsonNumber) : Denotes (.number n) (.number n.toDouble)
  | string (s : String) : Denotes (.string s) (.string s)
  | array {items : List Json} {values : List Value}
      (h : DenoteItems items values) :
      Denotes (.array items) (.array values)
  | object {members : List (String × Json)}
      {entries table : List (String × Value)}
      (h : DenoteMembers members entries) (same : table.Perm entries)
      (ascending : (Table.keys table).Pairwise (· < ·)) :
      Denotes (.object members) (.object table)

/-- The values of items. -/
inductive DenoteItems : List Json → List Value → Prop
  | nil : DenoteItems [] []
  | cons {item : Json} {value : Value} {rest : List Json} {values : List Value}
      (h : Denotes item value) (more : DenoteItems rest values) :
      DenoteItems (item :: rest) (value :: values)

/-- The values of members, under their names. -/
inductive DenoteMembers : List (String × Json) → List (String × Value) → Prop
  | nil : DenoteMembers [] []
  | cons {name : String} {document : Json} {value : Value}
      {rest : List (String × Json)} {entries : List (String × Value)}
      (h : Denotes document value)
      (more : DenoteMembers rest entries) :
      DenoteMembers ((name, document) :: rest) ((name, value) :: entries)

end

/-! ### Documents without nulls -/

/-- There is one null. -/
theorem isNull_iff {document : Json} :
    document.isNull = true ↔ document = .null := by
  cases document <;> simp [isNull]

/-- A null is a null part of itself. -/
theorem hasNull_of_isNull {document : Json} (h : document.isNull = true) :
    document.hasNull = true := by
  rw [isNull_iff.mp h, hasNull]

/-- A document without null parts is no null. -/
theorem isNull_of_not_hasNull {document : Json} (h : document.hasNull = false) :
    document.isNull = false := by
  cases hnull : document.isNull with
  | false => rfl
  | true =>
      rw [hasNull_of_isNull hnull] at h
      cases h

mutual

/-- Where there is no null, none is left out. -/
theorem withoutNulls_eq_self : ∀ {document : Json}, document.hasNull = false →
    document.withoutNulls = document
  | .null, h => by cases h
  | .bool _, _ => rfl
  | .number _, _ => rfl
  | .string _, _ => rfl
  | .array _, h => congrArg Json.array (itemsWithoutNulls_eq_self h)
  | .object _, h => congrArg Json.object (membersWithoutNulls_eq_self h)
  | .illegible, _ => rfl

theorem itemsWithoutNulls_eq_self :
    ∀ {items : List Json}, itemsHaveNull items = false →
    itemsWithoutNulls items = items
  | [], _ => rfl
  | item :: rest, h => by
      obtain ⟨hitem, hrest⟩ := Bool.or_eq_false_iff.mp h
      rw [itemsWithoutNulls, isNull_of_not_hasNull hitem,
        withoutNulls_eq_self hitem, itemsWithoutNulls_eq_self hrest]
      rfl

theorem membersWithoutNulls_eq_self : ∀ {members : List (String × Json)},
    membersHaveNull members = false → membersWithoutNulls members = members
  | [], _ => rfl
  | (_, document) :: rest, h => by
      obtain ⟨hdocument, hrest⟩ := Bool.or_eq_false_iff.mp h
      rw [membersWithoutNulls, isNull_of_not_hasNull hdocument,
        withoutNulls_eq_self hdocument, membersWithoutNulls_eq_self hrest]
      rfl

end

/-- Dropping members leaves the names of the others in order. -/
theorem names_membersWithoutNulls (members : List (String × Json)) :
    ((membersWithoutNulls members).map Prod.fst).Sublist
      (members.map Prod.fst) := by
  induction members with
  | nil => exact List.Sublist.refl _
  | cons member rest ih =>
      obtain ⟨name, document⟩ := member
      rw [membersWithoutNulls]
      split
      · exact ih.cons name
      · exact ih.cons_cons name

mutual

/-- A tree without its nulls is a tree. -/
theorem IsTree.withoutNulls : ∀ {document : Json}, document.IsTree →
    document.withoutNulls.IsTree
  | .null, h => h
  | .bool _, h => h
  | .number _, h => h
  | .string _, h => h
  | .array _, h => AreTrees.withoutNulls h
  | .object members, h =>
      ⟨h.1.sublist (names_membersWithoutNulls members),
        HaveTrees.withoutNulls h.2⟩
  | .illegible, h => h

theorem AreTrees.withoutNulls : ∀ {items : List Json}, AreTrees items →
    AreTrees (itemsWithoutNulls items)
  | [], h => h
  | item :: rest, h => by
      rw [itemsWithoutNulls]
      split
      · exact AreTrees.withoutNulls h.2
      · exact ⟨IsTree.withoutNulls h.1, AreTrees.withoutNulls h.2⟩

theorem HaveTrees.withoutNulls :
    ∀ {members : List (String × Json)}, HaveTrees members →
    HaveTrees (membersWithoutNulls members)
  | [], h => h
  | (_, document) :: rest, h => by
      rw [membersWithoutNulls]
      split
      · exact HaveTrees.withoutNulls h.2
      · exact ⟨IsTree.withoutNulls h.1, HaveTrees.withoutNulls h.2⟩

end

end Json

namespace Value

open Json

/-- Members under names of their own that a table has no entries for. -/
structure Fresh (table : Table Value) (members : List (String × Json)) :
    Prop where
  distinct : (members.map Prod.fst).Nodup
  absent : ∀ member ∈ members, member.1 ∉ Table.keys table

section Fresh

variable {table : Table Value} {name : String} {document : Json}
  {others : List (String × Json)}

/-- Members under distinct names are new to an empty table. -/
theorem fresh_nil {members : List (String × Json)}
    (h : (members.map Prod.fst).Nodup) :
    Fresh [] members :=
  ⟨h, fun _ _ => List.not_mem_nil⟩

/-- The first of new members has a name that the table does not have. -/
theorem Fresh.first (h : Fresh table ((name, document) :: others)) :
    name ∉ Table.keys table :=
  h.absent (name, document) List.mem_cons_self

/-- The members after it are new as well. -/
theorem Fresh.rest (h : Fresh table ((name, document) :: others)) :
    Fresh table others :=
  ⟨(List.nodup_cons.mp h.distinct).2, fun member hmember =>
    h.absent member (List.mem_cons_of_mem _ hmember)⟩

/-- Storing the first member leaves the others without entries. -/
theorem Fresh.insert (h : Fresh table ((name, document) :: others))
    (value : Value) :
    Fresh (Table.insert name value table) others := by
  refine ⟨h.rest.distinct, fun member hmember hstored => ?_⟩
  rw [Table.keys_insert] at hstored
  rcases Ascending.mem_insert.mp hstored with hsame | hold
  · have hagain : member.1 ∈ others.map Prod.fst := List.mem_map_of_mem hmember
    exact (List.nodup_cons.mp h.distinct).1 (hsame ▸ hagain)
  · exact h.rest.absent member hmember hold

end Fresh

/-! ### The strict reading -/

/-- A number of a tree has a value. -/
theorem ofJsonNumber?_eq {n : JsonNumber} (h : (Json.number n).IsTree) :
    ofJsonNumber? n = some (number n.toDouble) := by
  have hfinite : n.toDouble.isFinite = true := by
    cases n with
    | decimal x => exact h
    | integer i =>
        obtain ⟨hlow, hhigh⟩ : JsonNumber.IsWord i := h
        have hbits : Nat.pow 2 63 = 9223372036854775808 := rfl
        have hword : Numeral.wordMax = 18446744073709551615 := rfl
        exact Double.isFinite_ofInt (by omega)
  rw [ofJsonNumber?, if_pos hfinite]

mutual

/-- A document with a null has no value. -/
theorem ofJson?_of_hasNull : ∀ {document : Json}, document.hasNull = true →
    ofJson? document = none
  | .null, _ => rfl
  | .array _, h => by
      rw [ofJson?, itemsOfJson?_of_itemsHaveNull h, Option.map_none]
  | .object _, h => by
      rw [ofJson?, entriesOfJson?_of_membersHaveNull [] h, Option.map_none]

/-- Items with a null part are not read by the strict reader. -/
theorem itemsOfJson?_of_itemsHaveNull :
    ∀ {items : List Json}, itemsHaveNull items = true →
    itemsOfJson? items = none
  | item :: rest, h => by
      rw [itemsOfJson?]
      rcases Bool.or_eq_true_iff.mp h with hitem | hrest
      · rw [ofJson?_of_hasNull hitem]
      · rw [itemsOfJson?_of_itemsHaveNull hrest]
        cases ofJson? item <;> rfl

/-- Members with a null part are not read by the strict reader. -/
theorem entriesOfJson?_of_membersHaveNull (table : Table Value) :
    ∀ {members : List (String × Json)}, membersHaveNull members = true →
      entriesOfJson? table members = none
  | (name, document) :: rest, h => by
      rw [entriesOfJson?]
      rcases Bool.or_eq_true_iff.mp h with hdocument | hrest
      · rw [ofJson?_of_hasNull hdocument]
      · cases ofJson? document with
        | none => rfl
        | some value => exact entriesOfJson?_of_membersHaveNull _ hrest

end

mutual

/-- **The strict reading** of a tree gives the value it denotes, if any. -/
theorem denotes_of_ofJson? :
    ∀ {document : Json} {value : Value}, document.IsTree →
    ofJson? document = some value → document.Denotes value
  | .bool b, _, _, h => by
      obtain rfl := Option.some.inj h
      exact .bool b
  | .number n, _, htree, h => by
      rw [ofJson?, ofJsonNumber?_eq htree] at h
      obtain rfl := Option.some.inj h
      exact .number n
  | .string s, _, _, h => by
      obtain rfl := Option.some.inj h
      exact .string s
  | .array _, _, htree, h => by
      obtain ⟨values, hvalues, rfl⟩ := Option.map_eq_some_iff.mp h
      exact .array (denoteItems_of_itemsOfJson? htree hvalues)
  | .object _, _, htree, h => by
      obtain ⟨table, htable, rfl⟩ := Option.map_eq_some_iff.mp h
      obtain ⟨entries, hentries, hperm, hascending⟩ :=
        denoteMembers_of_entriesOfJson? []
          (fresh_nil htree.1) .nil htree.2 htable
      exact .object hentries hperm hascending

/-- Items are read as the values they denote. -/
theorem denoteItems_of_itemsOfJson? :
    ∀ {items : List Json} {values : List Value},
    AreTrees items → itemsOfJson? items = some values → DenoteItems items values
  | [], _, _, h => by
      obtain rfl := Option.some.inj h
      exact .nil
  | item :: rest, _, htrees, h => by
      rw [itemsOfJson?] at h
      split at h
      next value values hvalue hvalues =>
        obtain rfl := Option.some.inj h
        exact .cons (denotes_of_ofJson? htrees.1 hvalue)
          (denoteItems_of_itemsOfJson? htrees.2 hvalues)
      next => cases h

/-- The entries of a table stay, and those of members are added in their
places. -/
theorem denoteMembers_of_entriesOfJson? (table : Table Value) :
    ∀ {members : List (String × Json)} {after : Table Value},
      Fresh table members →
      (Table.keys table).Pairwise (· < ·) → HaveTrees members →
      entriesOfJson? table members = some after →
      ∃ entries, DenoteMembers members entries ∧ after.Perm (table ++ entries) ∧
        (Table.keys after).Pairwise (· < ·)
  | [], _, _, hascending, _, h => by
      obtain rfl := Option.some.inj h
      exact ⟨[], .nil, by rw [List.append_nil], hascending⟩
  | (name, document) :: rest, after, hfresh, hascending, htrees, h => by
      rw [entriesOfJson?] at h
      split at h
      next value hvalue =>
        obtain ⟨entries, hentries, hperm, hafter⟩ :=
          denoteMembers_of_entriesOfJson? (Table.insert name value table)
            (hfresh.insert value)
            (Table.pairwise_keys_insert hascending name value) htrees.2 h
        have hstored : (Table.insert name value table ++ entries).Perm
            (table ++ (name, value) :: entries) :=
          ((Table.perm_insert hfresh.first value).append_right entries).trans
            List.perm_middle.symm
        exact ⟨(name, value) :: entries,
          .cons (denotes_of_ofJson? htrees.1 hvalue) hentries,
          hperm.trans hstored, hafter⟩
      next => cases h

end

/-! ### The lenient reading -/

mutual

/-- **The lenient reading** of a tree that is not `null` itself is the strict
one of what is left without the nulls. -/
theorem ofJsonLenient?_eq : ∀ {document : Json}, document.IsTree →
    document.isNull = false →
    ∃ value, ofJsonLenient? document = some value ∧
      ofJson? document.withoutNulls = some value
  | .null, _, h => by cases h
  | .bool b, _, _ => ⟨boolean b, rfl, rfl⟩
  | .number n, htree, _ =>
      ⟨number n.toDouble, ofJsonNumber?_eq htree, ofJsonNumber?_eq htree⟩
  | .string s, _, _ => ⟨string s, rfl, rfl⟩
  | .array items, htrees, _ => by
      refine ⟨array (itemsOfJsonLenient items), rfl, ?_⟩
      rw [withoutNulls, ofJson?, itemsOfJson?_itemsWithoutNulls htrees,
        Option.map_some]
  | .object members, htree, _ => by
      refine ⟨object (entriesOfJsonLenient [] members), rfl, ?_⟩
      rw [withoutNulls, ofJson?,
        entriesOfJson?_membersWithoutNulls [] (fresh_nil htree.1) htree.2,
        Option.map_some]
  | .illegible, htree, _ => htree.elim

/-- The strict reader reads items without null parts as the lenient one reads
all. -/
theorem itemsOfJson?_itemsWithoutNulls : ∀ {items : List Json}, AreTrees items →
    itemsOfJson? (itemsWithoutNulls items) = some (itemsOfJsonLenient items)
  | [], _ => rfl
  | item :: rest, htrees => by
      have hrest := itemsOfJson?_itemsWithoutNulls htrees.2
      rw [itemsWithoutNulls, itemsOfJsonLenient]
      cases hnull : item.isNull with
      | true =>
          obtain rfl := isNull_iff.mp hnull
          exact hrest
      | false =>
          obtain ⟨value, hlenient, hstrict⟩ := ofJsonLenient?_eq htrees.1 hnull
          rw [if_neg Bool.false_ne_true, itemsOfJson?, hstrict, hrest, hlenient]

/-- A member that is `null` takes no entry out of a table that has none under
its name. -/
theorem entriesOfJson?_membersWithoutNulls (table : Table Value) :
    ∀ {members : List (String × Json)}, Fresh table members →
      HaveTrees members → entriesOfJson? table (membersWithoutNulls members) =
        some (entriesOfJsonLenient table members)
  | [], _, _ => rfl
  | (name, document) :: rest, hfresh, htrees => by
      rw [membersWithoutNulls, entriesOfJsonLenient]
      cases hnull : document.isNull with
      | true =>
          obtain rfl := isNull_iff.mp hnull
          rw [if_pos rfl, ofJsonLenient?]
          dsimp only
          rw [Table.erase_eq_self hfresh.first]
          exact entriesOfJson?_membersWithoutNulls table hfresh.rest htrees.2
      | false =>
          obtain ⟨value, hlenient, hstrict⟩ := ofJsonLenient?_eq htrees.1 hnull
          rw [if_neg Bool.false_ne_true, entriesOfJson?, hstrict, hlenient]
          exact entriesOfJson?_membersWithoutNulls _
            (hfresh.insert value) htrees.2

end

/-- **The two readings**, for every document.  Both give the value of a document
without a null.  A document with a null has no strict value; it has no lenient
one just if it is `null` itself, and otherwise the value of the document with
every null item and every null member left out. -/
theorem readings_agree_but_for_nulls (document : Json)
    (htree : document.IsTree) :
    (document.hasNull = false → ∃ value, document.Denotes value ∧
      ofJsonLenient? document = some value ∧ ofJson? document = some value) ∧
    (document.hasNull = true → ofJson? document = none ∧
      (document = .null → ofJsonLenient? document = none) ∧
      (document ≠ .null → ∃ value, document.withoutNulls.Denotes value ∧
        ofJsonLenient? document = some value ∧
        ofJson? document.withoutNulls = some value)) := by
  have hread :
      document.isNull = false → ∃ value, document.withoutNulls.Denotes value ∧
      ofJsonLenient? document = some value ∧
      ofJson? document.withoutNulls = some value := by
    intro hnull
    obtain ⟨value, hlenient, hstrict⟩ := ofJsonLenient?_eq htree hnull
    exact ⟨value, denotes_of_ofJson? htree.withoutNulls hstrict, hlenient,
      hstrict⟩
  constructor
  · intro hnone
    have hfound := hread (isNull_of_not_hasNull hnone)
    rwa [withoutNulls_eq_self hnone] at hfound
  · intro hsome
    refine ⟨ofJson?_of_hasNull hsome, ?_, ?_⟩
    · rintro rfl
      rfl
    · intro hne
      exact hread (Bool.eq_false_iff.mpr fun hnull => hne (isNull_iff.mp hnull))

/-- A document with a null member, a null item, and a null member of an item. -/
def draft : Json :=
  .object [("title", .null), ("notes", .array [.integer 1, .null,
    .object [("late", .bool true), ("author", .null)]])]

/-- A draft with null parts is refused by the strict reader; the lenient one
reads what is left of it. -/
theorem draft_read_without_nulls :
    (draft.IsTree ∧ draft.hasNull = true ∧ draft ≠ .null) ∧
    ofJson? draft = none ∧ ∃ value, draft.withoutNulls.Denotes value ∧
      ofJsonLenient? draft = some value ∧
      ofJson? draft.withoutNulls = some value := by
  have htree : draft.IsTree := by
    refine ⟨by decide, trivial,
      ⟨?_, trivial, ⟨by decide, trivial, trivial, trivial⟩, trivial⟩, trivial⟩
    show -(Nat.pow 2 63 : Nat) ≤ (1 : Int) ∧ (1 : Int) ≤ Numeral.wordMax
    decide
  have hne : draft ≠ .null := nofun
  obtain ⟨hstrict, -, hlenient⟩ :=
    (readings_agree_but_for_nulls draft htree).2 (by decide)
  exact ⟨⟨htree, by decide, hne⟩, hstrict, hlenient hne⟩

end Value

end TemplateRegistry
