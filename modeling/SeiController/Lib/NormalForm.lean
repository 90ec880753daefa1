import SeiController.Lib.Decimal

/-!
# The normal form of a JSON number

The rational a token denotes, and that two tokens have one canonical token exactly when
they denote one rational.
-/

set_option autoImplicit false

namespace JsonNumber

def value (number : JsonNumber) : ℚ :=
  if number.negative then -number.magnitude else number.magnitude

def coefficient (number : JsonNumber) : Nat :=
  Nat.ofDigitChars 10 (trimmedRight number.digits) 0

variable {number : JsonNumber}

theorem mem_digits {c : Char} (member : c ∈ trimmedRight number.digits) : c.isDigit = true :=
  number.significand_digits c (mem_trimmed member)

/-- The last digit that a right trim leaves is not zero. -/
theorem not_dvd_coefficient (nonzero : number.digits ≠ []) : ¬ 10 ∣ number.coefficient := by
  have kept := (trimmedRight_head nonzero (trimmedLeft_head number.significand)).1
  have last : (trimmedRight number.digits).getLast kept ≠ '0' := by
    have stops := List.rdropWhile_last_not (· == '0') number.digits kept
    simp only [beq_iff_eq] at stops
    exact stops
  have split := List.dropLast_append_getLast kept
  have digit := mem_digits (List.getLast_mem kept)
  generalize (trimmedRight number.digits).getLast kept = c at last split digit
  obtain ⟨small, same⟩ := Decimal.digit_of_isDigit digit
  rw [coefficient, ← split, Decimal.ofDigitChars_append_singleton]
  have positive : c.toNat - '0'.toNat ≠ 0 := by
    intro zero
    rw [zero] at same
    exact last same.symm
  omega

theorem coefficient_pos (nonzero : number.digits ≠ []) : 0 < number.coefficient := by
  refine Nat.pos_of_ne_zero fun zero => not_dvd_coefficient nonzero ?_
  rw [zero]
  exact dvd_zero 10

theorem magnitude_eq_coefficient (nonzero : number.digits ≠ []) :
    number.magnitude = number.coefficient * 10 ^ number.power := by
  have exponent : number.canonical.exponentValue = number.power := by
    simp [exponentValue, canonical, nonzero, powerExponent_value]
  rw [← canonical_magnitude, magnitude, exponent]
  simp [significand, canonical, nonzero, coefficient]

theorem magnitude_pos (nonzero : number.digits ≠ []) : 0 < number.magnitude := by
  have positive : (0 : ℚ) < number.coefficient := by exact_mod_cast coefficient_pos nonzero
  rw [magnitude_eq_coefficient nonzero]
  exact mul_pos positive (zpow_pos (by norm_num) _)

theorem value_eq_zero_iff (number : JsonNumber) : number.value = 0 ↔ number.digits = [] := by
  constructor
  · intro zero
    by_contra nonzero
    have positive := magnitude_pos nonzero
    unfold value at zero
    split at zero <;> linarith
  · intro nil
    simp [value, magnitude_of_digits_nil nil]

theorem canonical_value (number : JsonNumber) : number.canonical.value = number.value := by
  by_cases nil : number.digits = []
  · rw [(value_eq_zero_iff number).mpr nil, value_eq_zero_iff, canonical_digits_nil]
    exact nil
  · rw [value, value, canonical_magnitude, canonical_negative nil]

theorem sign_of_value_eq {left right : JsonNumber} (nonzero : left.digits ≠ [])
    (nonzero' : right.digits ≠ []) (same : left.value = right.value) :
    left.negative = right.negative ∧ left.magnitude = right.magnitude := by
  have positive := magnitude_pos nonzero
  have positive' := magnitude_pos nonzero'
  unfold value at same
  cases negative : left.negative <;> cases negative' : right.negative <;>
    simp only [negative, negative', if_true, if_false, Bool.false_eq_true, neg_inj] at same
  · exact ⟨rfl, same⟩
  · exfalso; linarith
  · exfalso; linarith
  · exact ⟨rfl, same⟩

/-- Integers that ten does not divide, times powers of ten. -/
theorem eq_of_mul_zpow_eq {m n : Nat} {p q : Int} (last : ¬ 10 ∣ m) (last' : ¬ 10 ∣ n)
    (same : (m : ℚ) * 10 ^ p = n * 10 ^ q) : m = n ∧ p = q := by
  have ordered {m n : Nat} {p q : Int} (last : ¬ 10 ∣ m) (le : p ≤ q)
      (same : (m : ℚ) * 10 ^ p = n * 10 ^ q) : m = n ∧ p = q := by
    obtain ⟨k, rfl⟩ := Int.le.dest le
    rw [zpow_add₀ (by norm_num), zpow_natCast] at same
    have unit : (10 : ℚ) ^ p ≠ 0 := zpow_ne_zero _ (by norm_num)
    have integers : (m : ℚ) = n * 10 ^ k := by
      apply mul_right_cancel₀ unit
      rw [same]
      ring
    have equal : m = n * 10 ^ k := by exact_mod_cast integers
    cases k with
    | zero => exact ⟨by simpa using equal, by simp⟩
    | succ k =>
      refine absurd ⟨n * 10 ^ k, ?_⟩ last
      rw [equal, pow_succ]
      ring
  rcases le_total p q with le | le
  · exact ordered last le same
  · obtain ⟨coefficients, powers⟩ := ordered last' le same.symm
    exact ⟨coefficients.symm, powers.symm⟩

theorem whole_of_coefficient_eq {left right : JsonNumber} (nonzero : left.digits ≠ [])
    (nonzero' : right.digits ≠ []) (same : left.coefficient = right.coefficient) :
    trimmedRight left.digits = trimmedRight right.digits := by
  have back {number : JsonNumber} (nonzero : number.digits ≠ []) :
      Nat.toDigits 10 number.coefficient = trimmedRight number.digits := by
    have head := trimmedRight_head nonzero (trimmedLeft_head number.significand)
    refine Decimal.toDigits_ofDigitChars head.1 (fun c member => mem_digits member) ?_
    intro zero
    exact absurd (head.2.symm.trans zero) (trimmedLeft_head number.significand)
  rw [← back nonzero, ← back nonzero', same]

/-- Two tokens have one canonical token exactly when they denote one number. -/
theorem canonical_eq_iff (left right : JsonNumber) :
    left.canonical = right.canonical ↔ left.value = right.value := by
  constructor
  · intro same
    rw [← canonical_value left, same, canonical_value]
  intro same
  by_cases nil : left.digits = []
  · have nil' : right.digits = [] := by
      rw [← value_eq_zero_iff, ← same, value_eq_zero_iff]
      exact nil
    simp [canonical, nil, nil']
  · have nonzero' : right.digits ≠ [] := by
      rw [Ne, ← value_eq_zero_iff, ← same, value_eq_zero_iff]
      exact nil
    obtain ⟨signs, magnitudes⟩ := sign_of_value_eq nil nonzero' same
    rw [magnitude_eq_coefficient nil, magnitude_eq_coefficient nonzero'] at magnitudes
    obtain ⟨coefficients, powers⟩ :=
      eq_of_mul_zpow_eq (not_dvd_coefficient nil) (not_dvd_coefficient nonzero') magnitudes
    simp [canonical, nil, nonzero', signs, powers, whole_of_coefficient_eq nil nonzero' coefficients]

theorem canonical_canonical (number : JsonNumber) : number.canonical.canonical = number.canonical :=
  (canonical_eq_iff _ _).mpr (canonical_value number)

end JsonNumber
