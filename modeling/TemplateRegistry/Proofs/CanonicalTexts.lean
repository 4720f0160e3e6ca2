import TemplateRegistry.Proofs.ValueDocuments
/-!
# Canonical texts

The canonical text of a value whose numbers are integral and below `9e15` in
magnitude is the one text of that value and of those equal to it, and of no
others.  Equal values have the same document, hence the same text.  The other
way round, a text is read as one value, which is equal to each value that it is
the text of.

* `Value.toJson_congr` — equal values have one document;
* `Value.Canonicalizable` — the values in question;
* `Value.ofString?_canonicalJson` — reading a canonical text;
* `Value.canonical_text_iff_same` — texts are the same where values are.
-/

namespace TemplateRegistry

namespace Double

/-- Either zero is the integer zero. -/
theorem toInt?_of_isZero {x : Double} (h : x.isZero = true) :
    x.toInt? = some 0 := by
  obtain ⟨hfield, hfraction⟩ : x.exponentField = 0 ∧ x.fraction = 0 := by
    simpa [isZero] using h
  have hfinite : x.isFinite = true := by simp [isFinite, hfield, topField]
  have hsize : x.ratio.1 = 0 := by
    rw [ratio, significand, if_pos hfield, hfraction, scaleDown]
    split
    · rfl
    · exact Nat.zero_mul _
  simp [toInt?, hfinite, hsize]

end Double

namespace Value

/-- Equal numbers are written alike, the two zeros included. -/
theorem numberJson_congr {x y : Double} (h : (x == y) = true) :
    numberJson x = numberJson y := by
  rcases (Double.beq_iff.mp h).2 with rfl | ⟨hx, hy⟩
  · rfl
  · have hzero : ∀ {z : Double}, z.isZero = true →
        numberJson z = Json.integer 0 := by
      intro z hz
      simp [numberJson, integral?, Double.toInt?_of_isZero hz]
    rw [hzero hx, hzero hy]

mutual

/-- Equal values have one document. -/
theorem toJson_congr : ∀ {value other : Value}, value.same other →
    value.toJson = other.toJson
  | .string _, .string _, h => by
      simp only [same, decide_eq_true_eq] at h
      rw [h]
  | .number _, .number _, h => numberJson_congr h
  | .boolean _, .boolean _, h => by
      simp only [same, decide_eq_true_eq] at h
      rw [h]
  | .array _, .array _, h => congrArg Json.array (itemsToJson_congr h)
  | .object _, .object _, h => congrArg Json.object (entriesToJson_congr h)

theorem itemsToJson_congr :
    ∀ {items others : List Value}, sameItems items others →
    itemsToJson items = itemsToJson others
  | [], [], _ => rfl
  | item :: rest, other :: others, h => by
      rw [sameItems, Bool.and_eq_true] at h
      rw [itemsToJson, itemsToJson, toJson_congr h.1, itemsToJson_congr h.2]

theorem entriesToJson_congr : ∀ {entries others : List (String × Value)},
    sameEntries entries others → entriesToJson entries = entriesToJson others
  | [], [], _ => rfl
  | (_, _) :: _, (_, _) :: _, h => by
      simp only [sameEntries, Bool.and_eq_true, decide_eq_true_eq] at h
      rw [entriesToJson, entriesToJson, h.1.1, toJson_congr h.1.2,
        entriesToJson_congr h.2]

end

/-- A value whose numbers are integral and below `9e15` in magnitude, whose maps
have ascending keys, as all maps do, and that is nested no deeper than a text
may be. -/
structure Canonicalizable (value : Value) : Prop where
  whole : value.isWhole
  ordered : value.isOrdered
  nested : value.toJson.depth ≤ Json.depthLimit

/-- **Reading a canonical text** gives the value, with every negative zero made
the positive one. -/
theorem ofString?_canonicalJson {value : Value} (h : value.Canonicalizable) :
    ofString? value.canonicalJson = some value.canonical := by
  have hread : Json.ofString? value.toJson.compact = some value.toJson :=
    Json.ofString?_compact (exact_toJson h.whole) h.nested
  rw [ofString?, canonicalJson, hread]
  exact ofJson?_toJson h.whole h.ordered

/-- A value equals its canonical form. -/
theorem Canonicalizable.same_canonical {value : Value}
    (h : value.Canonicalizable) :
    value.canonical.same value :=
  Value.same_canonical (isFinite_of_isWhole h.whole)

/-- Values with one canonical text are equal. -/
theorem same_of_canonicalJson_eq {a b : Value} (ha : a.Canonicalizable)
    (hb : b.Canonicalizable) (h : a.canonicalJson = b.canonicalJson) :
    a.same b := by
  have hread : some a.canonical = some b.canonical := by
    rw [← ofString?_canonicalJson ha, h, ofString?_canonicalJson hb]
  have hfirst : a.same a.canonical := by
    rw [same_comm]
    exact ha.same_canonical
  rw [Option.some.inj hread] at hfirst
  exact same_trans hfirst hb.same_canonical

/-- **Canonical texts.**  A canonical text is read as a value equal to the one
it was written for, and two values have the same canonical text if and only if
they are equal. -/
theorem canonical_text_iff_same {a b : Value} (ha : a.Canonicalizable)
    (hb : b.Canonicalizable) :
    (∃ value, ofString? a.canonicalJson = some value ∧ (value == a) = true) ∧
      (a.canonicalJson = b.canonicalJson ↔ (a == b) = true) := by
  constructor
  · exact ⟨a.canonical, ofString?_canonicalJson ha, ha.same_canonical⟩
  · constructor
    · exact same_of_canonicalJson_eq ha hb
    · intro hsame
      rw [canonicalJson, canonicalJson, toJson_congr hsame]

/-- A list of a number and a string that needs escapes, and an empty map, in a
map. -/
def inventory (count : Double) : Value :=
  .object [("items", .array [.number count, .string "\"é\\😀\"\n\x00",
      .object []]),
    ("open", .boolean true)]

/-- The two zeros in one place of a value are written alike. -/
theorem inventories_have_one_text :
    ((inventory (.zero true)).Canonicalizable ∧
      (inventory (.zero false)).Canonicalizable ∧
      (inventory (.zero true) == inventory (.zero false)) = true) ∧
    (∃ value, ofString? (inventory (.zero true)).canonicalJson = some value ∧
      (value == inventory (.zero true)) = true) ∧
    ((inventory (.zero true)).canonicalJson =
      (inventory (.zero false)).canonicalJson ↔
      (inventory (.zero true) == inventory (.zero false)) = true) := by
  have hnegative : (inventory (.zero true)).Canonicalizable :=
    ⟨by decide +kernel, by decide +kernel, by decide +kernel⟩
  have hpositive : (inventory (.zero false)).Canonicalizable :=
    ⟨by decide +kernel, by decide +kernel, by decide +kernel⟩
  have hsame : (inventory (.zero true) == inventory (.zero false)) = true := by
    decide +kernel
  exact ⟨⟨hnegative, hpositive, hsame⟩,
    canonical_text_iff_same hnegative hpositive⟩

end Value

end TemplateRegistry
