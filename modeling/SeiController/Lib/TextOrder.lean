import Mathlib.Data.Char
import Mathlib.Data.List.Lex
import Mathlib.Data.List.DropRight
import Mathlib.Data.Nat.Digits.Defs
import Mathlib.Data.Nat.Find
import Mathlib.Tactic.IntervalCases

/-!
# Texts in byte order

Numbers written with a fixed number of digits come in the order of their values, and so
do texts made of such numbers; digits with their trailing zeros cut off do so as long as
neither is the beginning of the other.
-/

set_option autoImplicit false

namespace TextOrder

/-! ## The first difference -/

/-- At the first place where the two differ, both go on and the left is smaller. -/
def Before (a b : List Char) : Prop :=
  ∃ front x y s t, a = front ++ x :: s ∧ b = front ++ y :: t ∧ x < y

namespace Before

variable {a b s t : List Char}

theorem append (before : Before a b) (s t : List Char) : Before (a ++ s) (b ++ t) := by
  obtain ⟨front, x, y, u, v, rfl, rfl, less⟩ := before
  exact ⟨front, x, y, u ++ s, v ++ t, by simp, by simp, less⟩

theorem prepend (front : List Char) (before : Before a b) : Before (front ++ a) (front ++ b) := by
  obtain ⟨shared, x, y, u, v, rfl, rfl, less⟩ := before
  exact ⟨front ++ shared, x, y, u, v, by simp, by simp, less⟩

theorem single {x y : Char} (less : x < y) (s t : List Char) : Before (x :: s) (y :: t) :=
  ⟨[], x, y, s, t, rfl, rfl, less⟩

theorem lt (before : Before a b) : a < b := by
  obtain ⟨front, x, y, s, t, rfl, rfl, less⟩ := before
  induction front with
  | nil => exact List.Lex.rel less
  | cons c front ih => exact List.Lex.cons ih

end Before

/-! ## Fixed-width numbers -/

def digit (n : Nat) : Char := Nat.digitChar (n % 10)

theorem digit_lt {m n : Nat} (mSmall : m < 10) (nSmall : n < 10) (less : m < n) :
    digit m < digit n := by
  interval_cases n <;> interval_cases m <;> decide

/-- The last `width` digits of a number. -/
def lastDigits : Nat → Nat → List Char
  | 0, _ => []
  | width + 1, n => lastDigits width (n / 10) ++ [digit (n % 10)]

theorem lastDigits_before (width : Nat) {m n : Nat} (small : n < 10 ^ width) (less : m < n) :
    Before (lastDigits width m) (lastDigits width n) := by
  induction width generalizing m n with
  | zero =>
    rw [pow_zero] at small
    omega
  | succ width ih =>
    rw [pow_succ] at small
    unfold lastDigits
    by_cases same : m / 10 = n / 10
    · rw [same]
      apply Before.prepend
      exact .single (digit_lt (Nat.mod_lt _ (by decide)) (Nat.mod_lt _ (by decide)) (by omega)) [] []
    · exact (ih (by omega) (by omega)).append _ _

/-- A number padded with zeros to `width` digits, in full if it has more. -/
def padded (width n : Nat) : List Char :=
  (if n / 10 ^ width = 0 then [] else Nat.toDigits 10 (n / 10 ^ width)) ++ lastDigits width n

theorem padded_of_lt {width n : Nat} (small : n < 10 ^ width) : padded width n = lastDigits width n := by
  simp [padded, Nat.div_eq_of_lt small]

theorem padded_before {width m n : Nat} (small : n < 10 ^ width) (less : m < n) :
    Before (padded width m) (padded width n) := by
  rw [padded_of_lt small, padded_of_lt (less.trans small)]
  exact lastDigits_before width small less

/-! ## Trailing zeros cut off -/

def trimZeros (digits : List Char) : List Char :=
  digits.rdropWhile (· == '0')

theorem zero_le_lastDigits {width n : Nat} {c : Char} (member : c ∈ lastDigits width n) : '0' ≤ c := by
  induction width generalizing n with
  | zero => cases member
  | succ width ih =>
    rcases List.mem_append.mp member with inside | last
    · exact ih inside
    · rw [List.mem_singleton.mp last]
      have bound : n % 10 < 10 := Nat.mod_lt n (by decide)
      generalize n % 10 = d at bound
      interval_cases d <;> decide

theorem lastDigits_le_nine {width n : Nat} {c : Char} (member : c ∈ lastDigits width n) : c ≤ '9' := by
  induction width generalizing n with
  | zero => cases member
  | succ width ih =>
    rcases List.mem_append.mp member with inside | last
    · exact ih inside
    · rw [List.mem_singleton.mp last]
      have bound : n % 10 < 10 := Nat.mod_lt n (by decide)
      generalize n % 10 = d at bound
      interval_cases d <;> decide

theorem trimZeros_append (front rest : List Char) :
    trimZeros (front ++ rest) =
      if trimZeros rest = [] then trimZeros front else front ++ trimZeros rest := by
  unfold trimZeros List.rdropWhile
  rw [List.reverse_append, List.dropWhile_append]
  simp only [List.isEmpty_iff, List.reverse_eq_nil_iff]
  split
  · rfl
  · rw [List.reverse_append, List.reverse_reverse]

theorem trimZeros_cons_of_ne {c : Char} (nonzero : c ≠ '0') (rest : List Char) :
    trimZeros (c :: rest) = c :: trimZeros rest := by
  have split := trimZeros_append [c] rest
  have alone : trimZeros [c] = [c] := by
    unfold trimZeros
    rw [List.rdropWhile_singleton]
    simp [nonzero]
  rw [List.singleton_append, alone] at split
  rw [split]
  split
  next empty => rw [empty]
  · rfl

theorem trimZeros_begins (digits : List Char) : trimZeros digits <+: digits :=
  List.rdropWhile_prefix _ _

/-- Digits cut at their trailing zeros keep the order they had, unless the smaller one is the
beginning of the other. -/
theorem trimZeros_before {a b : List Char} (before : Before a b) (digits : ∀ c ∈ a, '0' ≤ c)
    (apart : ¬trimZeros a <+: trimZeros b) : Before (trimZeros a) (trimZeros b) := by
  obtain ⟨front, x, y, s, t, rfl, rfl, less⟩ := before
  have low : '0' ≤ x := digits x (by simp)
  have nonzero : y ≠ '0' := (lt_of_le_of_lt low less).ne'
  have right : trimZeros (front ++ y :: t) = front ++ y :: trimZeros t := by
    rw [trimZeros_append, trimZeros_cons_of_ne nonzero, if_neg (List.cons_ne_nil _ _)]
  rw [right] at apart ⊢
  by_cases gone : trimZeros (x :: s) = []
  · -- the smaller one ends before the difference, within what both share
    exfalso
    apply apart
    rw [trimZeros_append, if_pos gone]
    exact (trimZeros_begins front).trans (List.prefix_append _ _)
  · rw [trimZeros_append, if_neg gone]
    obtain ⟨c, rest, kept⟩ := List.exists_cons_of_ne_nil gone
    have head : c = x := by
      have start := trimZeros_begins (x :: s)
      rw [kept] at start
      exact (List.cons_prefix_cons.mp start).1
    rw [kept, head]
    exact (Before.single less rest (trimZeros t)).prepend front

end TextOrder
