import TemplateRegistry.Template.Parameter
/-!
# Equality of values

Values are compared as the numbers in them are, so a value that holds a NaN
differs from itself.  Every other value is equal to itself, and with it every
declaration whose default holds none.  All values are compared alike from either
side.

* `Value.same_self` — a finite value;
* `ParameterDef.HasFiniteDefault`, `ParameterDef.same_self` — a declaration;
* `Value.same_comm`, `ParameterDef.same_comm` — either side first;
* `Value.same_trans` — values equal to one value.
-/

namespace TemplateRegistry

/-- A finite number equals itself. -/
theorem Double.beq_self {x : Double} (h : x.isFinite) : (x == x) = true := by
  have hfield : x.exponentField ≠ Double.topField := by
    simpa [Double.isFinite] using h
  have hnumber : x.isNaN = false := by simp [Double.isNaN, hfield]
  show (!x.isNaN && !x.isNaN && (decide (x = x) || (x.isZero && x.isZero))) =
    true
  simp [hnumber]

/-- Equality of numbers has no direction. -/
theorem Double.beq_comm (x y : Double) : (x == y) = (y == x) := by
  show (!x.isNaN && !y.isNaN && (decide (x = y) || (x.isZero && y.isZero))) =
    (!y.isNaN && !x.isNaN && (decide (y = x) || (y.isZero && x.isZero)))
  rw [Bool.and_comm (!x.isNaN), Bool.and_comm x.isZero,
    decide_eq_decide.mpr eq_comm]

/-- Two numbers are equal if they are one and the same or both are zero. -/
theorem Double.beq_iff {x y : Double} : (x == y) = true ↔
    (x.isNaN = false ∧ y.isNaN = false) ∧
    (x = y ∨ x.isZero = true ∧ y.isZero = true) := by
  show (!x.isNaN && !y.isNaN && (decide (x = y) || (x.isZero && y.isZero))) =
    true ↔ _
  simp

/-- Numbers that equal the same number are equal. -/
theorem Double.beq_trans {x y z : Double} (h : (x == y) = true)
    (h' : (y == z) = true) :
    (x == z) = true := by
  rw [beq_iff] at h h' ⊢
  obtain ⟨⟨hx, -⟩, hxy⟩ := h
  obtain ⟨⟨-, hz⟩, hyz⟩ := h'
  refine ⟨⟨hx, hz⟩, ?_⟩
  rcases hxy with rfl | hzeros
  · exact hyz
  · rcases hyz with rfl | hzeros'
    · exact Or.inr hzeros
    · exact Or.inr ⟨hzeros.1, hzeros'.2⟩

namespace Value

mutual

/-- A value without a NaN is equal to itself. -/
theorem same_self : ∀ {value : Value}, value.isFinite → value.same value = true
  | .string _, _ => by simp [same]
  | .number _, h => by
      rw [same]
      exact Double.beq_self (by simpa [isFinite] using h)
  | .boolean _, _ => by simp [same]
  | .array _, h => by
      rw [same]
      exact sameItems_self (by simpa [isFinite] using h)
  | .object _, h => by
      rw [same]
      exact sameEntries_self (by simpa [isFinite] using h)

theorem sameItems_self : ∀ {items : List Value}, allFinite items →
    sameItems items items = true
  | [], _ => rfl
  | item :: rest, h => by
      rw [allFinite, Bool.and_eq_true] at h
      rw [sameItems, same_self h.1, sameItems_self h.2, Bool.and_self]

theorem sameEntries_self :
    ∀ {entries : List (String × Value)}, allFiniteEntries entries →
    sameEntries entries entries = true
  | [], _ => rfl
  | (_, value) :: rest, h => by
      rw [allFiniteEntries, Bool.and_eq_true] at h
      rw [sameEntries, same_self h.1, sameEntries_self h.2]
      simp

end

mutual

/-- Values are compared alike from either side. -/
theorem same_comm : ∀ value other : Value, value.same other = other.same value
  | .string s, other => by cases other <;> simp [same, eq_comm]
  | .number x, other => by cases other <;> simp [same, Double.beq_comm x]
  | .boolean b, other => by cases other <;> simp [same, eq_comm]
  | .array items, other => by
      cases other with
      | array others =>
          rw [same, same]
          exact sameItems_comm items others
      | _ => rfl
  | .object entries, other => by
      cases other with
      | object others =>
          rw [same, same]
          exact sameEntries_comm entries others
      | _ => rfl

theorem sameItems_comm : ∀ items others : List Value,
    sameItems items others = sameItems others items
  | [], [] => rfl
  | [], _ :: _ => rfl
  | _ :: _, [] => rfl
  | item :: rest, other :: others => by
      rw [sameItems, sameItems, same_comm item other,
        sameItems_comm rest others]

theorem sameEntries_comm : ∀ entries others : List (String × Value),
    sameEntries entries others = sameEntries others entries
  | [], [] => rfl
  | [], _ :: _ => rfl
  | _ :: _, [] => rfl
  | (key, value) :: rest, (other, otherValue) :: others => by
      rw [sameEntries, sameEntries, same_comm value otherValue,
        sameEntries_comm rest others, decide_eq_decide.mpr (eq_comm (a := key))]

end

mutual

/-- Values equal to one value are equal. -/
theorem same_trans : ∀ {first second third : Value}, first.same second →
    second.same third → first.same third
  | .string _, .string _, third, h, h' => by
      cases third <;> simp_all [same]
  | .number _, .number _, third, h, h' => by
      cases third with
      | number _ => exact Double.beq_trans h h'
      | _ => cases h'
  | .boolean _, .boolean _, third, h, h' => by
      cases third <;> simp_all [same]
  | .array _, .array _, third, h, h' => by
      cases third with
      | array _ => exact sameItems_trans h h'
      | _ => cases h'
  | .object _, .object _, third, h, h' => by
      cases third with
      | object _ => exact sameEntries_trans h h'
      | _ => cases h'

theorem sameItems_trans :
    ∀ {first second third : List Value}, sameItems first second →
    sameItems second third → sameItems first third
  | [], [], _, _, h' => h'
  | item :: rest, other :: others, third, h, h' => by
      cases third with
      | nil => cases h'
      | cons last more =>
          rw [sameItems, Bool.and_eq_true] at h h' ⊢
          exact ⟨same_trans h.1 h'.1, sameItems_trans h.2 h'.2⟩

theorem sameEntries_trans : ∀ {first second third : List (String × Value)},
    sameEntries first second → sameEntries second third →
      sameEntries first third
  | [], [], _, _, h' => h'
  | (_, _) :: _, (_, _) :: _, third, h, h' => by
      cases third with
      | nil => cases h'
      | cons last more =>
          simp only [sameEntries, Bool.and_eq_true, decide_eq_true_eq] at h h' ⊢
          exact ⟨⟨h.1.1.trans h'.1.1, same_trans h.1.2 h'.1.2⟩,
            sameEntries_trans h.2 h'.2⟩

end

/-- Equality of defaults has no direction. -/
theorem option_beq_comm : ∀ value other : Option Value,
    (value == other) = (other == value)
  | none, none => rfl
  | none, some _ => rfl
  | some _, none => rfl
  | some value, some other => same_comm value other

end Value

namespace ParameterDef

/-- A declaration whose default, if it has one, holds finite numbers only. -/
def HasFiniteDefault (param : ParameterDef) : Prop :=
  ∀ value, param.defaultValue = some value → value.isFinite

/-- Equal declarations have one name. -/
theorem same_name {param other : ParameterDef} (h : param.same other) :
    param.name = other.name := by
  simp only [same, Bool.and_eq_true, decide_eq_true_eq] at h
  exact h.1.1.1.1

/-- A declaration with a finite default is equal to itself. -/
theorem same_self {param : ParameterDef} (h : param.HasFiniteDefault) :
    param.same param = true := by
  have hdefault : (param.defaultValue == param.defaultValue) = true := by
    cases hvalue : param.defaultValue with
    | none => rfl
    | some value => exact Value.same_self (h value hvalue)
  simp [same, hdefault]

/-- Declarations are compared alike from either side. -/
theorem same_comm (param other : ParameterDef) :
    param.same other = other.same param := by
  simp only [same, Value.option_beq_comm param.defaultValue,
    eq_comm (a := param.name), eq_comm (a := param.description),
    eq_comm (a := param.required), eq_comm (a := param.type)]

end ParameterDef

end TemplateRegistry
