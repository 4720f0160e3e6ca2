import TemplateRegistry.Json.Printer
/-!
# Integers written and read

An integer is printed as its decimal digits, after a minus sign if it is
negative.  Of the two readings of a numeral the integral one applies, and gives
the integer back if it fits into 64 bits.

* `takeDigits_toDigits` — the digits of a natural number;
* `ofNumeral_integerChars` — an integer of 64 bits.
-/

namespace TemplateRegistry

namespace Numeral

/-- A digit is read by its distance from zero. -/
theorem digit?_of_isDigit {c : Char} (h : c.isDigit) :
    digit? c = some (c.toNat - 48) := by
  have hrange : '0' ≤ c ∧ c ≤ '9' := by
    simpa [Char.isDigit, Char.le_def] using h
  rw [digit?, if_pos hrange]

/-- A text of digits is taken whole. -/
theorem takeDigits_eq {s : List Char} (h : ∀ c ∈ s, c.isDigit) :
    takeDigits s = (s.map fun c => c.toNat - 48, []) := by
  induction s with
  | nil => rfl
  | cons c rest ih =>
      have hrest := ih fun d hd => h d (List.mem_cons_of_mem _ hd)
      rw [takeDigits, digit?_of_isDigit (h c List.mem_cons_self), hrest]
      rfl

/-- The decimal digits of a number are digits. -/
theorem isDigit_of_mem_toDigits {n : Nat} {c : Char}
    (h : c ∈ Nat.toDigits 10 n) : c.isDigit :=
  Nat.isDigit_of_mem_toDigits (by decide) (by decide) h

/-- The digits of a number are taken to their end. -/
theorem takeDigits_toDigits (n : Nat) :
    takeDigits (Nat.toDigits 10 n) =
      ((Nat.toDigits 10 n).map fun c => c.toNat - 48, []) :=
  takeDigits_eq fun _ => isDigit_of_mem_toDigits

/-- The digits of a number spell it. -/
theorem ofDigits_toDigits (n : Nat) :
    ofDigits ((Nat.toDigits 10 n).map fun c => c.toNat - 48) = n := by
  rw [ofDigits, List.foldl_map]
  exact Nat.ofDigitChars_toDigits (by decide) (by decide)

/-- The first digit of a positive number is not zero. -/
theorem head?_toDigits_ne_zero {n : Nat} (h : 0 < n) :
    (Nat.toDigits 10 n).head? ≠ some '0' := by
  induction n using Nat.strongRecOn with
  | _ n ih =>
      rw [Nat.toDigits_eq_if (by decide)]
      split
      next hsmall =>
        have hdigit : n.digitChar.toNat = 48 + n :=
          Nat.toNat_digitChar_of_lt_ten hsmall
        intro hhead
        rw [List.head?_cons, Option.some_inj] at hhead
        rw [hhead] at hdigit
        have hzero : '0'.toNat = 48 := rfl
        omega
      next hlarge =>
        rw [List.head?_append, Option.or_of_isSome
          (by simp [Nat.toDigits_ne_nil])]
        exact ih (n / 10) (by omega) (by omega)

/-- A number has no leading zero, unless it is zero. -/
theorem leadingZero_toDigits {n : Nat} {second : Nat} {rest : List Nat} :
    (Nat.toDigits 10 n).map (fun c => c.toNat - 48) ≠ 0 :: second :: rest := by
  intro hdigits
  cases n with
  | zero => simp at hdigits
  | succ n =>
      obtain ⟨c, cs, hchars, hc, -⟩ := List.map_eq_cons_iff.mp hdigits
      have hdigit : c.isDigit :=
        isDigit_of_mem_toDigits (hchars ▸ List.mem_cons_self)
      have hzero : c = '0' := by
        apply Char.toNat_inj.mp
        have hrange := Char.isDigit_iff_toNat.mp hdigit
        simp only [Char.reduceToNat] at hrange ⊢
        omega
      exact head?_toDigits_ne_zero (Nat.succ_pos n) (by rw [hchars, hzero]; rfl)

/-- The numeral of a sign and a natural number. -/
def plain (negative : Bool) (n : Nat) : Numeral where
  negative := negative
  whole := (Nat.toDigits 10 n).map fun c => c.toNat - 48
  fraction := []
  exponent := 0
  isPlain := true

/-- The digits of a number have no sign in front. -/
theorem toDigits_ne_minus (n : Nat) (body : List Char) :
    Nat.toDigits 10 n ≠ '-' :: body := by
  intro hbody
  have hdigit : '-'.isDigit :=
    isDigit_of_mem_toDigits (hbody ▸ List.mem_cons_self)
  exact absurd hdigit (by decide)

/-- A text that is a sign and the digits of a number. -/
theorem ofChars?_of_sign {s : List Char} {negative : Bool} {n : Nat}
    (hsign : (match s with
      | '-' :: body => (true, body)
      | body => (false, body)) = (negative, Nat.toDigits 10 n)) :
    ofChars? s = some (plain negative n) := by
  unfold ofChars?
  split
  next sign body hsplit =>
    obtain ⟨rfl, rfl⟩ := Prod.mk.inj (hsign.symm.trans hsplit)
    rw [takeDigits_toDigits]
    split
    next hempty =>
      exact absurd (List.map_eq_nil_iff.mp (Prod.mk.inj hempty).1)
        Nat.toDigits_ne_nil
    next hzero => exact absurd (Prod.mk.inj hzero).1 leadingZero_toDigits
    next hdigits =>
      obtain ⟨rfl, rfl⟩ := Prod.mk.inj hdigits
      rfl

/-- The digits of a number are read as a numeral without a sign. -/
theorem ofChars?_toDigits (n : Nat) :
    ofChars? (Nat.toDigits 10 n) = some (plain false n) := by
  apply ofChars?_of_sign
  split
  next hminus => exact absurd hminus (toDigits_ne_minus n _)
  next => rfl

/-- With a minus they are read as a negative one. -/
theorem ofChars?_minus_toDigits (n : Nat) :
    ofChars? ('-' :: Nat.toDigits 10 n) = some (plain true n) :=
  ofChars?_of_sign rfl

end Numeral

namespace JsonNumber

/-- An integer of 64 bits, signed or unsigned. -/
def IsWord (i : Int) : Prop :=
  -(Nat.pow 2 63 : Nat) ≤ i ∧ i ≤ Numeral.wordMax

/-- An integer of 64 bits is read from its numeral. -/
theorem ofNumeral_integerChars {i : Int} (h : IsWord i) :
    (Numeral.ofChars? (Json.integerChars i)).map ofNumeral =
      some (.integer i) := by
  obtain ⟨hlow, hhigh⟩ := h
  unfold Json.integerChars
  split
  next hnegative =>
    have hsize : 0 < i.natAbs ∧ i.natAbs ≤ Nat.pow 2 63 := by omega
    have hvalue : -(i.natAbs : Int) = i := by omega
    have hinteger : (Numeral.plain true i.natAbs).integer? = some i := by
      simp only [Numeral.integer?, Numeral.plain, Numeral.ofDigits_toDigits,
        Bool.not_true, Bool.false_eq_true, if_false, if_true,
        if_pos hsize, hvalue]
    rw [Numeral.ofChars?_minus_toDigits, Option.map_some, ofNumeral, hinteger]
  next hnonnegative =>
    have hsize : i.natAbs ≤ Numeral.wordMax := by omega
    have hvalue : (i.natAbs : Int) = i := by omega
    have hinteger : (Numeral.plain false i.natAbs).integer? = some i := by
      simp only [Numeral.integer?, Numeral.plain, Numeral.ofDigits_toDigits,
        Bool.not_true, Bool.false_eq_true, if_false, if_pos hsize, hvalue]
    rw [Numeral.ofChars?_toDigits, Option.map_some, ofNumeral, hinteger]

end JsonNumber

end TemplateRegistry
