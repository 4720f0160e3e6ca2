import TemplateRegistry.Proofs.JsonDocuments
import TemplateRegistry.Proofs.Tables
import TemplateRegistry.Proofs.ValueEquality
import TemplateRegistry.Proofs.WholeNumbers
import TemplateRegistry.Value.Reader
/-!
# Values as documents

A value whose numbers are integral and below `9e15` in magnitude is written with
integers only, so nothing is rounded, and the kind of each part can be told from
its document.  It is read back as it was, except that a negative zero comes back
as the positive one, to which it is equal.

* `Value.isWhole` — the values whose numbers are written as integers;
* `Value.isOrdered` — the values whose maps are maps: their keys ascend;
* `Value.canonical`, `Value.same_canonical` — what is read back, and that it is
  the same;
* `Value.ofJson?_toJson` — reading what was written;
* `Value.exact_toJson` — the document holds integers of 64 bits.
-/

namespace TemplateRegistry

/-- The canonical form of a finite number is finite. -/
theorem Double.isFinite_canonical {x : Double} (h : x.isFinite) :
    x.canonical.isFinite := by
  unfold canonical
  split
  · decide
  · exact h

/-- Both zeros are one number. -/
theorem Double.canonical_beq {x : Double} (h : x.isFinite) :
    (x.canonical == x) = true := by
  unfold canonical
  split
  next hzero =>
    have hnan : x.isNaN = false := by
      simp only [isZero, Bool.and_eq_true, decide_eq_true_eq] at hzero
      simp [isNaN, hzero.2]
    have hplain : (zero false).isNaN = false := by decide
    have hplainZero : (zero false).isZero = true := by decide
    show (!(zero false).isNaN && !x.isNaN &&
      (decide (zero false = x) || ((zero false).isZero && x.isZero))) = true
    rw [hnan, hplain, hplainZero, hzero]
    simp
  next => exact Double.beq_self h

namespace Value

mutual

/-- Whether every number in a value is integral and below `9e15` in
magnitude. -/
def isWhole : Value → Bool
  | string _ => true
  | number x => (integral? x).isSome
  | boolean _ => true
  | array items => allWhole items
  | object entries => allWholeEntries entries

/-- Whether the numbers in a list of values are all so. -/
def allWhole : List Value → Bool
  | [] => true
  | item :: rest => isWhole item && allWhole rest

/-- Whether the numbers in a map are all so. -/
def allWholeEntries : List (String × Value) → Bool
  | [] => true
  | (_, value) :: rest => isWhole value && allWholeEntries rest

end

mutual

/-- Whether the keys of every map in a value ascend, as those of a map do. -/
def isOrdered : Value → Bool
  | string _ => true
  | number _ => true
  | boolean _ => true
  | array items => allOrdered items
  | object entries =>
    decide ((entries.map Prod.fst).Pairwise (· < ·)) &&
      allOrderedEntries entries

/-- Whether the maps in a list of values are all so. -/
def allOrdered : List Value → Bool
  | [] => true
  | item :: rest => isOrdered item && allOrdered rest

/-- Whether the maps in a map are all so. -/
def allOrderedEntries : List (String × Value) → Bool
  | [] => true
  | (_, value) :: rest => isOrdered value && allOrderedEntries rest

end

mutual

/-- A value with every negative zero made the positive one. -/
def canonical : Value → Value
  | string s => string s
  | number x => number x.canonical
  | boolean b => boolean b
  | array items => array (canonicalItems items)
  | object entries => object (canonicalEntries entries)

/-- A list of values, each so. -/
def canonicalItems : List Value → List Value
  | [] => []
  | item :: rest => canonical item :: canonicalItems rest

/-- A map, each value so. -/
def canonicalEntries : List (String × Value) → List (String × Value)
  | [] => []
  | (key, value) :: rest => (key, canonical value) :: canonicalEntries rest

end

/-- An integral number is that integer, within the bound. -/
theorem integral?_eq_some {x : Double} {i : Int} (h : integral? x = some i) :
    x.toInt? = some i ∧ i.natAbs < 9000000000000000 := by
  unfold integral? at h
  split at h
  next j hj =>
    split at h
    next hsize =>
      obtain rfl := Option.some.inj h
      exact ⟨hj, hsize⟩
    next => cases h
  next => cases h

/-- Integral numbers are finite. -/
theorem isFinite_of_integral? {x : Double} (h : (integral? x).isSome) :
    x.isFinite := by
  obtain ⟨i, hi⟩ := Option.isSome_iff_exists.mp h
  have hread := (integral?_eq_some hi).1
  unfold Double.toInt? at hread
  split at hread
  next hfinite => exact (Bool.and_eq_true_iff.mp hfinite).1
  next => cases hread

mutual

/-- What is written as integers is finite. -/
theorem isFinite_of_isWhole : ∀ {value : Value}, value.isWhole → value.isFinite
  | .string _, _ => rfl
  | .number _, h => isFinite_of_integral? h
  | .boolean _, _ => rfl
  | .array _, h => allFinite_of_allWhole h
  | .object _, h => allFiniteEntries_of_allWholeEntries h

theorem allFinite_of_allWhole : ∀ {items : List Value}, allWhole items →
    allFinite items
  | [], _ => rfl
  | item :: rest, h => by
      rw [allWhole, Bool.and_eq_true] at h
      rw [allFinite, isFinite_of_isWhole h.1, allFinite_of_allWhole h.2,
        Bool.and_self]

theorem allFiniteEntries_of_allWholeEntries :
    ∀ {entries : List (String × Value)},
    allWholeEntries entries → allFiniteEntries entries
  | [], _ => rfl
  | (_, value) :: rest, h => by
      rw [allWholeEntries, Bool.and_eq_true] at h
      rw [allFiniteEntries, isFinite_of_isWhole h.1,
        allFiniteEntries_of_allWholeEntries h.2, Bool.and_self]

end

mutual

/-- A value and its canonical form are the same. -/
theorem same_canonical : ∀ {value : Value}, value.isFinite →
    value.canonical.same value
  | .string _, _ => by simp [canonical, same]
  | .number _, h => Double.canonical_beq h
  | .boolean _, _ => by simp [canonical, same]
  | .array _, h => sameItems_canonicalItems h
  | .object _, h => sameEntries_canonicalEntries h

theorem sameItems_canonicalItems : ∀ {items : List Value}, allFinite items →
    sameItems (canonicalItems items) items
  | [], _ => rfl
  | item :: rest, h => by
      rw [allFinite, Bool.and_eq_true] at h
      rw [canonicalItems, sameItems, same_canonical h.1,
        sameItems_canonicalItems h.2, Bool.and_self]

theorem sameEntries_canonicalEntries : ∀ {entries : List (String × Value)},
    allFiniteEntries entries → sameEntries (canonicalEntries entries) entries
  | [], _ => rfl
  | (_, value) :: rest, h => by
      rw [allFiniteEntries, Bool.and_eq_true] at h
      rw [canonicalEntries, sameEntries, same_canonical h.1,
        sameEntries_canonicalEntries h.2]
      simp

end

/-- A number that is written as an integer. -/
theorem ofJson?_numberJson {x : Double} (h : (integral? x).isSome) :
    ofJson? (numberJson x) = some (number x.canonical) := by
  obtain ⟨i, hi⟩ := Option.isSome_iff_exists.mp h
  obtain ⟨hread, hsize⟩ := integral?_eq_some hi
  have hmade : Double.ofInt i = x.canonical :=
    Double.ofInt_of_toInt? hread (Nat.lt_trans hsize (by decide))
  have hfinite := Double.isFinite_canonical (isFinite_of_integral? h)
  rw [numberJson, hi]
  show ofJsonNumber? (.integer i) = _
  rw [ofJsonNumber?, JsonNumber.toDouble, hmade, if_pos hfinite]

mutual

/-- **Reading what was written.**  A value whose numbers are written as integers
is read back as its canonical form. -/
theorem ofJson?_toJson : ∀ {value : Value}, value.isWhole → value.isOrdered →
    ofJson? value.toJson = some value.canonical
  | .string _, _, _ => rfl
  | .number _, h, _ => ofJson?_numberJson h
  | .boolean _, _, _ => rfl
  | .array items, h, hordered => by
      rw [toJson, ofJson?, itemsOfJson?_itemsToJson h hordered]
      rfl
  | .object entries, h, hordered => by
      rw [isOrdered, Bool.and_eq_true, decide_eq_true_eq] at hordered
      rw [toJson, ofJson?, entriesOfJson?_entriesToJson []
          (by simpa using hordered.1) h
        hordered.2]
      rfl

/-- Items are read in canonical form. -/
theorem itemsOfJson?_itemsToJson : ∀ {items : List Value}, allWhole items →
    allOrdered items →
    itemsOfJson? (itemsToJson items) = some (canonicalItems items)
  | [], _, _ => rfl
  | item :: rest, h, hordered => by
      rw [allWhole, Bool.and_eq_true] at h
      rw [allOrdered, Bool.and_eq_true] at hordered
      rw [itemsToJson, itemsOfJson?, ofJson?_toJson h.1 hordered.1,
        itemsOfJson?_itemsToJson h.2 hordered.2]
      rfl

/-- Entries with keys behind those already there come behind them. -/
theorem entriesOfJson?_entriesToJson (table : Table Value) :
    ∀ {entries : List (String × Value)},
      (table.map Prod.fst ++ entries.map Prod.fst).Pairwise (· < ·) →
      allWholeEntries entries → allOrderedEntries entries →
      entriesOfJson? table (entriesToJson entries) =
        some (table ++ canonicalEntries entries)
  | [], _, _, _ => by simp [entriesToJson, entriesOfJson?, canonicalEntries]
  | (key, value) :: rest, hkeys, h, hordered => by
      rw [allWholeEntries, Bool.and_eq_true] at h
      rw [allOrderedEntries, Bool.and_eq_true] at hordered
      have hbehind : ∀ entry ∈ table, entry.1 < key := by
        intro entry hentry
        exact (List.pairwise_append.mp hkeys).2.2 entry.1
          (List.mem_map_of_mem hentry) key (by simp)
      have hinsert := Table.insert_of_gt value.canonical hbehind
      have hrest :=
        entriesOfJson?_entriesToJson (table ++ [(key, value.canonical)])
        (by simpa using hkeys) h.2 hordered.2
      rw [entriesToJson, entriesOfJson?, ofJson?_toJson h.1 hordered.1]
      dsimp only
      rw [hinsert, hrest, canonicalEntries, List.append_assoc]
      rfl

end

mutual

/-- The document of such a value holds integers of 64 bits only. -/
theorem exact_toJson : ∀ {value : Value}, value.isWhole → value.toJson.Exact
  | .string _, _ => trivial
  | .number x, h => by
      obtain ⟨i, hi⟩ := Option.isSome_iff_exists.mp h
      have hsize := (integral?_eq_some hi).2
      rw [toJson, numberJson, hi]
      have hlow : Nat.pow 2 63 = 9223372036854775808 := rfl
      have hhigh : Numeral.wordMax = 18446744073709551615 := rfl
      show JsonNumber.IsWord i
      rw [JsonNumber.IsWord, hlow, hhigh]
      omega
  | .boolean _, _ => trivial
  | .array _, h => exactItems_itemsToJson h
  | .object _, h => exactMembers_entriesToJson h

theorem exactItems_itemsToJson : ∀ {items : List Value}, allWhole items →
    Json.ExactItems (itemsToJson items)
  | [], _ => trivial
  | item :: rest, h => by
      rw [allWhole, Bool.and_eq_true] at h
      exact ⟨exact_toJson h.1, exactItems_itemsToJson h.2⟩

theorem exactMembers_entriesToJson : ∀ {entries : List (String × Value)},
    allWholeEntries entries → Json.ExactMembers (entriesToJson entries)
  | [], _ => trivial
  | (_, value) :: rest, h => by
      rw [allWholeEntries, Bool.and_eq_true] at h
      exact ⟨exact_toJson h.1, exactMembers_entriesToJson h.2⟩

end

end Value

end TemplateRegistry
