import TemplateRegistry.Number.Double
/-!
# Whole numbers as floating point numbers

A whole number of at most 53 bits is a floating point number: nothing is rounded
when it is made one, and reading it gives it back.  The other way round, such a
number is made again from the integer it is, except that an integer has no
negative zero.

* `Double.exponentField_ofMagnitude`, `Double.fraction_ofMagnitude`,
  `Double.isNegative_ofMagnitude` — the fields of a number put together from its
  parts;
* `Double.magnitudeOf_whole` — the bits of a whole number;
* `Double.toInt?_ofInt` — it is read as it was;
* `Double.canonical`, `Double.ofInt_of_toInt?` — it is made again from its
  integer;
* `Double.isFinite_ofInt` — a larger one, of 64 bits, is rounded but no
  infinity.
-/

namespace TemplateRegistry.Double

/-- A fraction has 52 bits. -/
theorem fractionSize_eq : fractionSize = 4503599627370496 := rfl

/-! ### Fields -/

section Fields

variable {negative : Bool} {magnitude : Nat}

/-- The sign is the highest of the 64 bits, the magnitude all others. -/
theorem toNat_bits_ofMagnitude (h : magnitude < 9223372036854775808) :
    (ofMagnitude negative magnitude).bits.toNat =
      (if negative then 9223372036854775808 else 0) + magnitude := by
  have hpow : Nat.pow 2 63 = 9223372036854775808 := rfl
  unfold ofMagnitude
  rw [hpow]
  cases negative with
  | true =>
      rw [if_pos rfl, if_pos rfl]
      exact UInt64.toNat_ofNat_of_lt' (by simp [UInt64.size]; omega)
  | false =>
      rw [if_neg (by simp), if_neg (by simp), Nat.zero_add]
      exact UInt64.toNat_ofNat_of_lt' (by simp [UInt64.size]; omega)

/-- The sign is read off the bits again. -/
theorem isNegative_ofMagnitude (h : magnitude < 9223372036854775808) :
    (ofMagnitude negative magnitude).isNegative = negative := by
  have hpow : Nat.pow 2 63 = 9223372036854775808 := rfl
  unfold isNegative
  rw [toNat_bits_ofMagnitude h, hpow]
  cases negative with
  | true =>
      rw [if_pos rfl, decide_eq_true_eq]
      omega
  | false =>
      rw [if_neg (by simp), decide_eq_false_iff_not]
      omega

/-- The exponent is what is above the fraction. -/
theorem exponentField_ofMagnitude (h : magnitude < 9223372036854775808) :
    (ofMagnitude negative magnitude).exponentField = magnitude /
      fractionSize := by
  unfold exponentField
  rw [toNat_bits_ofMagnitude h, fractionSize_eq]
  cases negative with
  | true =>
      rw [if_pos rfl]
      omega
  | false =>
      rw [if_neg (by simp)]
      omega

/-- The fraction is the last 52 bits of the magnitude. -/
theorem fraction_ofMagnitude (h : magnitude < 9223372036854775808) :
    (ofMagnitude negative magnitude).fraction = magnitude % fractionSize := by
  unfold fraction
  rw [toNat_bits_ofMagnitude h, fractionSize_eq]
  cases negative with
  | true =>
      rw [if_pos rfl]
      omega
  | false =>
      rw [if_neg (by simp)]
      omega

end Fields

/-! ### Whole numbers -/

section Whole

variable {n : Nat}

/-- A whole number is not rounded. -/
theorem roundEven_one (m : Nat) : roundEven m 1 = m := by
  simp [roundEven, Nat.mod_one]

/-- Scaled by a negative power a whole number stays one. -/
theorem scaleDown_neg (m k : Nat) :
    scaleDown m 1 (-(k : Int)) = (m * Nat.pow 2 k, 1) := by
  unfold scaleDown
  split
  · have hzero : k = 0 := by omega
    subst hzero
    simp
  · simp

/-- Scaling a whole number by a power of two multiplies its denominator. -/
theorem scaleDown_natCast (m k : Nat) :
    scaleDown m 1 (k : Int) = (m, Nat.pow 2 k) := by
  simp [scaleDown]

/-- A number of at most 53 bits, shifted until it has 53. -/
theorem shifted_bounds (hpos : n ≠ 0) (hbits : n.log2 ≤ 52) :
    fractionSize ≤ n * Nat.pow 2 (52 - n.log2) ∧
      n * Nat.pow 2 (52 - n.log2) < 2 * fractionSize := by
  have hlow : 2 ^ n.log2 ≤ n := Nat.log2_self_le hpos
  have hhigh : n < 2 ^ (n.log2 + 1) := Nat.lt_log2_self
  have hsplit : 2 ^ n.log2 * 2 ^ (52 - n.log2) = fractionSize := by
    rw [← Nat.pow_add, Nat.add_sub_cancel' hbits]
    rfl
  have hpositive : 0 < 2 ^ (52 - n.log2) := Nat.two_pow_pos _
  show fractionSize ≤ n * 2 ^ (52 - n.log2) ∧
    n * 2 ^ (52 - n.log2) < 2 * fractionSize
  constructor
  · rw [← hsplit]
    exact Nat.mul_le_mul_right _ hlow
  · calc n * 2 ^ (52 - n.log2) < 2 ^ (n.log2 + 1) * 2 ^ (52 - n.log2) :=
          Nat.mul_lt_mul_of_pos_right hhigh hpositive
      _ = 2 * fractionSize := by
            rw [Nat.pow_succ, Nat.mul_comm _ 2, Nat.mul_assoc, hsplit]

/-- A whole number of at most 53 bits is scaled up to all of them. -/
theorem scaleOf_whole (hpos : n ≠ 0) (hbits : n.log2 ≤ 52) :
    scaleOf n 1 = -((52 - n.log2 : Nat) : Int) := by
  have hone : (1 : Nat).log2 = 0 := by decide
  have hguess : max ((n.log2 : Int) - (1 : Nat).log2 - 53) (-1074) =
      -((53 - n.log2 : Nat) : Int) := by
    rw [hone]
    omega
  have hshift : Nat.pow 2 (53 - n.log2) = 2 * Nat.pow 2 (52 - n.log2) := by
    show 2 ^ (53 - n.log2) = 2 * 2 ^ (52 - n.log2)
    rw [← Nat.pow_succ']
    congr 1
    omega
  have hlarge := (shifted_bounds hpos hbits).1
  unfold scaleOf
  dsimp only
  rw [hguess, scaleDown_neg, hshift, Nat.div_one, if_neg]
  · omega
  · have hdouble :
        n * (2 * Nat.pow 2 (52 - n.log2)) = 2 * (n * Nat.pow 2 (52 - n.log2)) :=
      Nat.mul_left_comm _ _ _
    rw [hdouble]
    omega

/-- The bits of a whole number: nothing is rounded off. -/
theorem magnitudeOf_whole (hpos : n ≠ 0) (hbits : n.log2 ≤ 52) :
    magnitudeOf n 1 =
      (n.log2 + 1023) * fractionSize +
      (n * Nat.pow 2 (52 - n.log2) - fractionSize) := by
  obtain ⟨hlow, hhigh⟩ := shifted_bounds hpos hbits
  unfold magnitudeOf infinityMagnitude topField
  dsimp only
  rw [if_neg hpos, scaleOf_whole hpos hbits, scaleDown_neg, roundEven_one]
  have hpower :
    (-((52 - n.log2 : Nat) : Int) + 1074).toNat = n.log2 + 1022 := by omega
  rw [hpower, fractionSize_eq] at *
  omega

/-- A number with at most 52 bits after the point, from its fields. -/
theorem ratio_of_fields {x : Double} {k m : Nat} (hk : k ≤ 52)
    (hm : fractionSize ≤ m) (hfield : x.exponentField = k + 1023)
    (hfraction : x.fraction = m - fractionSize) :
    x.ratio = (m, Nat.pow 2 (52 - k)) := by
  have hsignificand : x.significand = m := by
    unfold significand
    rw [if_neg (by omega), hfraction]
    omega
  have hexponent : -x.exponent = ((52 - k : Nat) : Int) := by
    unfold exponent
    omega
  rw [ratio, hsignificand, hexponent, scaleDown_natCast]

/-- **Whole numbers are read as they were.** -/
theorem toInt?_ofInt {i : Int} (h : i.natAbs < 9007199254740992) :
    (ofInt i).toInt? = some i := by
  unfold ofInt ofRatio
  by_cases hzero : i = 0
  · subst hzero
    decide +kernel
  have hpos : i.natAbs ≠ 0 := by omega
  have hbits : i.natAbs.log2 ≤ 52 :=
    Nat.le_of_lt_succ ((Nat.log2_lt hpos).mpr h)
  obtain ⟨hlow, hhigh⟩ := shifted_bounds hpos hbits
  rw [magnitudeOf_whole hpos hbits]
  have hexact :
      i.natAbs * Nat.pow 2 (52 - i.natAbs.log2) %
        Nat.pow 2 (52 - i.natAbs.log2) = 0 :=
    Nat.mul_mod_left _ _
  have hread :
      i.natAbs * Nat.pow 2 (52 - i.natAbs.log2) /
        Nat.pow 2 (52 - i.natAbs.log2) =
      i.natAbs := Nat.mul_div_cancel _ (Nat.two_pow_pos _)
  generalize i.natAbs.log2 = k at *
  generalize i.natAbs * Nat.pow 2 (52 - k) = m at *
  have hbits63 :
      (k + 1023) * fractionSize + (m - fractionSize) < 9223372036854775808 := by
    rw [fractionSize_eq] at *
    omega
  have hratio : (ofMagnitude (decide (i < 0))
      ((k + 1023) * fractionSize + (m - fractionSize))).ratio =
        (m, Nat.pow 2 (52 - k)) := by
    apply ratio_of_fields hbits hlow
    · rw [exponentField_ofMagnitude hbits63, fractionSize_eq] at *
      omega
    · rw [fraction_ofMagnitude hbits63, fractionSize_eq] at *
      omega
  have hfinite : (ofMagnitude (decide (i < 0))
      ((k + 1023) * fractionSize + (m - fractionSize))).isFinite = true := by
    simp only [isFinite, topField, exponentField_ofMagnitude hbits63,
      decide_eq_true_eq]
    rw [fractionSize_eq] at *
    omega
  unfold toInt?
  rw [hfinite, hratio, hexact, hread, isNegative_ofMagnitude hbits63]
  simp only [Bool.true_and, decide_true, if_true, decide_eq_true_eq]
  congr 1
  split <;> omega

end Whole

/-! ### Numbers that are whole -/

section Reading

variable {x : Double} {i : Int}

/-- An exponent has 11 bits. -/
theorem exponentField_lt (x : Double) : x.exponentField < 2048 :=
  Nat.mod_lt _ (by decide)

/-- A fraction has 52 bits. -/
theorem fraction_lt (x : Double) : x.fraction < fractionSize :=
  Nat.mod_lt _ (by decide)

/-- A number is what its fields make. -/
theorem ofMagnitude_fields (x : Double) :
    ofMagnitude x.isNegative (x.exponentField * fractionSize + x.fraction) =
      x := by
  have hbits : x.bits.toNat < 18446744073709551616 := x.bits.toNat_lt
  have hfield := x.exponentField_lt
  have hfraction := x.fraction_lt
  have hpow : Nat.pow 2 63 = 9223372036854775808 := rfl
  have hmagnitude :
      x.exponentField * fractionSize + x.fraction < 9223372036854775808 := by
    rw [fractionSize_eq] at *
    omega
  have hnat :
      (ofMagnitude x.isNegative
        (x.exponentField * fractionSize + x.fraction)).bits.toNat =
      x.bits.toNat := by
    rw [toNat_bits_ofMagnitude hmagnitude]
    unfold isNegative exponentField fraction
    rw [hpow, fractionSize_eq]
    by_cases hsign : x.bits.toNat / 9223372036854775808 = 1
    · rw [if_pos (by simpa using hsign)]
      omega
    · rw [if_neg (by simpa using hsign)]
      omega
  have hsame := UInt64.toNat_inj.mp hnat
  generalize ofMagnitude x.isNegative
    (x.exponentField * fractionSize + x.fraction) = y at *
  cases x
  cases y
  simpa using hsame

/-- A number with the negative zero made the positive one. -/
def canonical (x : Double) : Double :=
  if x.isZero then zero false else x

/-- The value of a number whose scale is not positive. -/
theorem ratio_of_exponent {k : Nat} (h : x.exponent = -(k : Int)) :
    x.ratio = (x.significand, Nat.pow 2 k) := by
  rw [ratio, h, Int.neg_neg, scaleDown_natCast]

/-- A number without a leading bit is whole only if it is zero. -/
theorem ratio_eq_zero (hfield : x.exponentField = 0)
    (hwhole : x.ratio.1 % x.ratio.2 = 0) :
    x.fraction = 0 ∧ x.ratio.1 = 0 := by
  obtain ⟨k, hk, hexponent⟩ : ∃ k : Nat, 52 ≤ k ∧ x.exponent = -(k : Int) := by
    refine ⟨(-x.exponent).toNat, ?_, ?_⟩ <;> (unfold exponent; omega)
  rw [ratio_of_exponent hexponent, significand, if_pos hfield] at hwhole ⊢
  have hsmall : x.fraction < Nat.pow 2 k :=
    Nat.lt_of_lt_of_le x.fraction_lt (Nat.pow_le_pow_right (by decide) hk)
  rw [Nat.mod_eq_of_lt hsmall] at hwhole
  exact ⟨hwhole, hwhole⟩

/-- The scale of a shifted number is read off its size. -/
theorem log2_of_shifted {n k : Nat} (hlow : fractionSize ≤ n * Nat.pow 2 k)
    (hhigh : n * Nat.pow 2 k < 2 * fractionSize) :
    n ≠ 0 ∧ k ≤ 52 ∧ n.log2 = 52 - k := by
  have hpositive : 0 < Nat.pow 2 k := Nat.two_pow_pos k
  have hne : n ≠ 0 := by
    rintro rfl
    rw [Nat.zero_mul, fractionSize_eq] at hlow
    omega
  have hk : k ≤ 52 := by
    apply Nat.le_of_not_lt
    intro hlarge
    have hpow : Nat.pow 2 53 ≤ Nat.pow 2 k :=
      Nat.pow_le_pow_right (by decide) hlarge
    have hgrown : Nat.pow 2 k ≤ n * Nat.pow 2 k :=
      Nat.le_mul_of_pos_left _ (Nat.pos_of_ne_zero hne)
    have htop : Nat.pow 2 53 = 2 * fractionSize := rfl
    omega
  have hsplit : Nat.pow 2 (52 - k) * Nat.pow 2 k = fractionSize := by
    show 2 ^ (52 - k) * 2 ^ k = fractionSize
    rw [← Nat.pow_add, Nat.sub_add_cancel hk]
    rfl
  refine ⟨hne, hk, (Nat.log2_eq_iff hne).mpr ⟨?_, ?_⟩⟩
  · exact Nat.le_of_mul_le_mul_right (hsplit ▸ hlow) hpositive
  · apply Nat.lt_of_mul_lt_mul_right (a := Nat.pow 2 k)
    calc n * Nat.pow 2 k < 2 * fractionSize := hhigh
      _ = 2 ^ (52 - k + 1) * Nat.pow 2 k := by
        rw [← hsplit, Nat.pow_succ, Nat.mul_comm _ 2, Nat.mul_assoc]
        rfl

/-- The bits of a whole number with a leading bit. -/
theorem magnitudeOf_of_whole {n : Nat} (hfield : x.exponentField ≠ 0)
    (hwhole : x.ratio.1 % x.ratio.2 = 0) (hn : x.ratio.1 / x.ratio.2 = n)
    (hsize : n < 2 * fractionSize) :
    n ≠ 0 ∧ magnitudeOf n 1 = x.exponentField * fractionSize + x.fraction := by
  have hsignificand : x.significand = x.fraction + fractionSize := by
    rw [significand, if_neg hfield]
  have hfraction := x.fraction_lt
  by_cases hscale : 1075 < x.exponentField
  · -- scaled up, the significand is larger than any number of 53 bits
    obtain ⟨k, hk, hexponent⟩ : ∃ k : Nat,
        1 ≤ k ∧ -x.exponent = -(k : Int) := by
      refine ⟨x.exponent.toNat, ?_, ?_⟩ <;> (unfold exponent; omega)
    rw [ratio, hexponent, scaleDown_neg, Nat.div_one, hsignificand] at hn
    have hpow : Nat.pow 2 1 ≤ Nat.pow 2 k := Nat.pow_le_pow_right (by decide) hk
    have hlarge :
        fractionSize * 2 ≤ (x.fraction + fractionSize) * Nat.pow 2 k :=
      Nat.mul_le_mul (Nat.le_add_left _ _) hpow
    omega
  · have hexponent : x.exponent = -((1075 - x.exponentField : Nat) : Int) := by
      unfold exponent
      omega
    rw [ratio_of_exponent hexponent] at hwhole hn
    have hshifted :
        n * Nat.pow 2 (1075 - x.exponentField) = x.fraction + fractionSize := by
      rw [← hn, ← hsignificand]
      exact Nat.div_mul_cancel (Nat.dvd_of_mod_eq_zero hwhole)
    have hlow : fractionSize ≤ n * Nat.pow 2 (1075 - x.exponentField) := by
      omega
    obtain ⟨hne, hk, hlog⟩ := log2_of_shifted hlow (by omega)
    refine ⟨hne, ?_⟩
    have hback : 52 - n.log2 = 1075 - x.exponentField := by omega
    rw [magnitudeOf_whole hne (by omega), hback, hshifted]
    have hcount : n.log2 + 1023 = x.exponentField := by omega
    rw [hcount]
    omega

/-- **A whole number below `2 ^ 53` is made again from the integer it is**, but
for the sign of zero. -/
theorem ofInt_of_toInt? {i : Int} (h : x.toInt? = some i)
    (hsize : i.natAbs < 2 * fractionSize) :
    ofInt i = x.canonical := by
  unfold toInt? at h
  split at h
  next hfinite =>
    obtain ⟨-, hwhole⟩ : x.isFinite = true ∧ x.ratio.1 % x.ratio.2 = 0 := by
      simpa using hfinite
    have hi : (if x.isNegative then -((x.ratio.1 / x.ratio.2 : Nat) : Int)
        else ((x.ratio.1 / x.ratio.2 : Nat) : Int)) = i := Option.some.inj h
    obtain ⟨n, hn⟩ : ∃ n, x.ratio.1 / x.ratio.2 = n := ⟨_, rfl⟩
    rw [hn] at hi
    by_cases hfield : x.exponentField = 0
    · obtain ⟨hfraction, hratio⟩ := ratio_eq_zero hfield hwhole
      have hzero : x.isZero := by simp [isZero, hfield, hfraction]
      have hi0 : i = 0 := by
        rw [hratio, Nat.zero_div] at hn
        rw [← hi, ← hn]
        simp
      rw [hi0, canonical, if_pos hzero]
      decide
    · have habs : i.natAbs = n := by
        rw [← hi]
        split <;> omega
      obtain ⟨hne, hmagnitude⟩ :=
        magnitudeOf_of_whole hfield hwhole hn (habs ▸ hsize)
      have hsign : decide (i < 0) = x.isNegative := by
        cases hnegative : x.isNegative with
        | true =>
            rw [hnegative, if_pos rfl] at hi
            rw [decide_eq_true_eq]
            omega
        | false =>
            rw [hnegative, if_neg (by simp)] at hi
            rw [decide_eq_false_iff_not]
            omega
      have hzero : ¬ x.isZero := by simp [isZero, hfield]
      rw [ofInt, ofRatio, hsign, habs, hmagnitude, ofMagnitude_fields,
        canonical, if_neg hzero]
  next => cases h

end Reading

/-! ### Whole numbers of any size -/

section Rounding

variable {n : Nat}

/-- Rounding goes up by one at most. -/
theorem roundEven_le (num den : Nat) : roundEven num den ≤ num / den + 1 := by
  unfold roundEven
  dsimp only
  split
  · omega
  · split
    · omega
    · split <;> omega

/-- Scaled so that all bits but 53 are dropped, a whole number has at most
54. -/
theorem scaled_lt {power : Int} (hpower : (n.log2 : Int) - 53 ≤ power) :
    (scaleDown n 1 power).1 / (scaleDown n 1 power).2 < Nat.pow 2 54 := by
  have hbits : n < 2 ^ (n.log2 + 1) := Nat.lt_log2_self
  rcases Int.le_total 0 power with hup | hdown
  · obtain ⟨k, rfl⟩ := Int.eq_ofNat_of_zero_le hup
    rw [scaleDown_natCast]
    apply Nat.div_lt_of_lt_mul
    calc n < 2 ^ (n.log2 + 1) := hbits
      _ ≤ 2 ^ (k + 54) := Nat.pow_le_pow_right (by decide) (by omega)
      _ = Nat.pow 2 k * Nat.pow 2 54 := Nat.pow_add 2 k 54
  · obtain ⟨k, hk⟩ : ∃ k : Nat, power = -(k : Int) := ⟨(-power).toNat, by omega⟩
    subst hk
    rw [scaleDown_neg, Nat.div_one]
    calc n * Nat.pow 2 k < 2 ^ (n.log2 + 1) * 2 ^ k :=
          Nat.mul_lt_mul_of_pos_right hbits (Nat.two_pow_pos k)
      _ = 2 ^ (n.log2 + 1 + k) := (Nat.pow_add 2 _ k).symm
      _ ≤ Nat.pow 2 54 := Nat.pow_le_pow_right (by decide) (by omega)

/-- The scale of a whole number drops all its bits but 53, or one more. -/
theorem scaleOf_bounds (n : Nat) :
    (n.log2 : Int) - 53 ≤ scaleOf n 1 ∧ scaleOf n 1 ≤ (n.log2 : Int) - 52 := by
  have hone : (1 : Nat).log2 = 0 := by decide
  unfold scaleOf
  dsimp only
  rw [hone]
  split <;> omega

/-- **A whole number of at most 64 bits is no infinity**, rounded as it may
be. -/
theorem isFinite_ofInt {i : Int} (h : i.natAbs ≤ 18446744073709551615) :
    (ofInt i).isFinite := by
  obtain ⟨hlow, hhigh⟩ := scaleOf_bounds i.natAbs
  have hround := roundEven_le (scaleDown i.natAbs 1 (scaleOf i.natAbs 1)).1
    (scaleDown i.natAbs 1 (scaleOf i.natAbs 1)).2
  have hscaled := scaled_lt hlow
  have hbits : i.natAbs.log2 ≤ 63 := by
    by_cases hzero : i.natAbs = 0
    · rw [hzero]
      decide
    · have hlog : i.natAbs.log2 < 64 := (Nat.log2_lt hzero).mpr (by omega)
      omega
  have hmagnitude : magnitudeOf i.natAbs 1 < 2047 * fractionSize := by
    unfold magnitudeOf
    dsimp only
    split
    · decide
    · have hpower : (scaleOf i.natAbs 1 + 1074).toNat ≤ 1085 := by omega
      have hfield :
          (scaleOf i.natAbs 1 + 1074).toNat * fractionSize ≤
            1085 * fractionSize :=
        Nat.mul_le_mul_right _ hpower
      have htop : Nat.pow 2 54 = 18014398509481984 := rfl
      apply Nat.lt_of_le_of_lt (Nat.min_le_left _ _)
      rw [fractionSize_eq] at hfield ⊢
      omega
  have hbound : magnitudeOf i.natAbs 1 < 9223372036854775808 := by
    rw [fractionSize_eq] at hmagnitude
    omega
  have hfield : magnitudeOf i.natAbs 1 / fractionSize < 2047 := by
    rw [fractionSize_eq] at hmagnitude ⊢
    omega
  rw [ofInt, ofRatio, isFinite, exponentField_ofMagnitude hbound, topField,
    decide_eq_true_eq]
  omega

end Rounding

end TemplateRegistry.Double
