import SeiController.Lib.JsonNumber
import SeiController.Lib.TextOrder

/-!
# Decimal digits and their values

Digits without a leading zero are those of their value.
-/

set_option autoImplicit false

namespace Decimal

open TextOrder (digit lastDigits)

theorem digit_isDigit (n : Nat) : (digit n).isDigit = true := by
  unfold digit
  have bound : n % 10 < 10 := Nat.mod_lt n (by decide)
  generalize n % 10 = d at bound
  interval_cases d <;> decide

theorem digit_of_isDigit {c : Char} (valid : c.isDigit = true) :
    c.toNat - '0'.toNat < 10 ∧ digit (c.toNat - '0'.toNat) = c := by
  simp only [Char.isDigit, Bool.and_eq_true, decide_eq_true_eq] at valid
  have low : 48 ≤ c.toNat := valid.1
  have high : c.toNat ≤ 57 := valid.2
  have back : Char.ofNat c.toNat = c := Char.ofNat_toNat c
  generalize c.toNat = n at low high back
  subst back
  interval_cases n <;> decide

theorem isDigit_of_mem_lastDigits {width n : Nat} {c : Char} (member : c ∈ lastDigits width n) :
    c.isDigit = true := by
  induction width generalizing n with
  | zero => cases member
  | succ width ih =>
    rcases List.mem_append.mp member with inside | last
    · exact ih inside
    · rw [List.mem_singleton.mp last]
      exact digit_isDigit _

theorem ofDigitChars_append_singleton (digits : List Char) (c : Char) :
    Nat.ofDigitChars 10 (digits ++ [c]) 0 =
      10 * Nat.ofDigitChars 10 digits 0 + (c.toNat - '0'.toNat) := by
  rw [Nat.ofDigitChars_append, Nat.ofDigitChars_cons, Nat.ofDigitChars_nil]

theorem toDigits_head {n : Nat} (zero : (Nat.toDigits 10 n).head? = some '0') :
    Nat.toDigits 10 n = ['0'] := by
  induction n using Nat.strongRecOn with
  | ind n ih =>
    by_cases small : n < 10
    · rw [Nat.toDigits_of_lt_base small] at zero ⊢
      simpa using zero
    · exfalso
      rw [Nat.toDigits_of_base_le (by decide) (by omega),
        List.head?_append_of_ne_nil _ Nat.toDigits_ne_nil] at zero
      have front := ih (n / 10) (by omega) zero
      have value := @Nat.ofDigitChars_ten_toDigits (n / 10)
      rw [front] at value
      have none : n / 10 = 0 := value.symm
      omega

/-- Digits without a leading zero are those of their value. -/
theorem toDigits_ofDigitChars {digits : List Char} (nonempty : digits ≠ [])
    (valid : ∀ c ∈ digits, c.isDigit = true)
    (noLeadingZero : digits.head? = some '0' → digits = ['0']) :
    Nat.toDigits 10 (Nat.ofDigitChars 10 digits 0) = digits := by
  induction digits using List.reverseRecOn with
  | nil => exact absurd rfl nonempty
  | append_singleton digits c ih =>
    obtain ⟨small, same⟩ := digit_of_isDigit (valid c (by simp))
    have alone : Nat.toDigits 10 (c.toNat - '0'.toNat) = [c] := by
      rw [Nat.toDigits_of_lt_base small]
      unfold digit at same
      rw [Nat.mod_eq_of_lt small] at same
      rw [same]
    rw [ofDigitChars_append_singleton]
    by_cases first : digits = []
    · subst first
      simpa using alone
    · have starts : digits.head? ≠ some '0' := by
        intro zero
        have whole := noLeadingZero (by rw [List.head?_append_of_ne_nil _ first, zero])
        have length := congrArg List.length whole
        simp only [List.length_append, List.length_singleton] at length
        exact first (List.length_eq_zero_iff.mp (by omega))
      have front := ih first (fun d member => valid d (List.mem_append_left _ member))
        fun zero => absurd zero starts
      have positive : 0 < Nat.ofDigitChars 10 digits 0 := by
        apply Nat.pos_of_ne_zero
        intro zero
        rw [zero] at front
        exact starts (by rw [← front]; rfl)
      rw [← Nat.toDigits_append_toDigits (by decide) positive small, front, alone]

end Decimal

def JsonNumber.ofInt (n : Int) : JsonNumber where
  negative := n < 0
  whole := Nat.toDigits 10 n.natAbs
  fraction := []
  exponent := none
  wholeValid := toDigits_natAbs_valid n
  noLeadingZero := Decimal.toDigits_head
  fractionValid := noDigits
