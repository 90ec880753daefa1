import Mathlib.Data.Int.Log
import Mathlib.Data.List.DropRight
import Mathlib.Data.Rat.Floor
import Mathlib.Tactic.FieldSimp
import Mathlib.Tactic.Ring
import SeiController.Lib.Text

/-!
# JSON number tokens

A number token in the parts of the JSON grammar, its exact value, a canonical token
of the same value, and the two ways of reading a token as a machine number: as a
64-bit integer, or as the nearest binary64.
-/

set_option autoImplicit false

/-! ## Tokens -/

inductive ExponentSign
  | absent | plus | minus
deriving DecidableEq

structure Exponent where
  upper : Bool
  sign : ExponentSign
  digits : List Char
  digitsValid : digits ≠ [] ∧ ∀ c ∈ digits, c.isDigit = true
deriving DecidableEq

/-- A token of the JSON number grammar.  A token without a point has no fraction
digits, one with a point has at least one. -/
structure JsonNumber where
  negative : Bool
  whole : List Char
  fraction : List Char
  exponent : Option Exponent
  wholeValid : whole ≠ [] ∧ ∀ c ∈ whole, c.isDigit = true
  noLeadingZero : whole.head? = some '0' → whole = ['0']
  fractionValid : ∀ c ∈ fraction, c.isDigit = true
deriving DecidableEq

namespace Exponent

def signChars : ExponentSign → List Char
  | .absent => []
  | .plus => ['+']
  | .minus => ['-']

def chars (exponent : Exponent) : List Char :=
  (if exponent.upper then 'E' else 'e') :: (signChars exponent.sign ++ exponent.digits)

def value (exponent : Exponent) : Int :=
  match exponent.sign with
  | .minus => -Nat.ofDigitChars 10 exponent.digits 0
  | .absent | .plus => Nat.ofDigitChars 10 exponent.digits 0

end Exponent

namespace JsonNumber

def exponentChars : Option Exponent → List Char
  | none => []
  | some exponent => exponent.chars

def chars (number : JsonNumber) : List Char :=
  (if number.negative then ['-'] else []) ++
    (number.whole ++
      ((if number.fraction = [] then [] else '.' :: number.fraction) ++
        exponentChars number.exponent))

def exponentValue (number : JsonNumber) : Int :=
  (number.exponent.map Exponent.value).getD 0

def significand (number : JsonNumber) : List Char :=
  number.whole ++ number.fraction

def magnitude (number : JsonNumber) : ℚ :=
  (Nat.ofDigitChars 10 number.significand 0 : ℚ) *
    10 ^ (number.exponentValue - number.fraction.length)

theorem significand_digits (number : JsonNumber) : ∀ c ∈ number.significand, c.isDigit = true := by
  intro c member
  rcases List.mem_append.mp member with inWhole | inFraction
  · exact number.wholeValid.2 c inWhole
  · exact number.fractionValid c inFraction

/-! ## Reading a token back -/

def continues (c : Char) : Bool :=
  c.isDigit || c == '.' || c == 'e' || c == 'E'

theorem isDigit_ne {c d : Char} (digit : c.isDigit = true) (other : d.isDigit = false) : c ≠ d := by
  rintro rfl
  simp [digit] at other

variable {rest rest' : List Char}

theorem stops_isDigit (stops : Text.Stops continues rest) : Text.Stops Char.isDigit rest := by
  intro c member
  have off := stops c member
  simp only [continues, Bool.or_eq_false_iff] at off
  exact off.1.1.1

theorem exponentChars_head (exponent : Option Exponent) (rest : List Char)
    (stops : Text.Stops continues rest) :
    Text.Stops Char.isDigit (exponentChars exponent ++ rest) ∧
      (exponentChars exponent ++ rest).head? ≠ some '.' := by
  cases exponent with
  | none =>
    refine ⟨stops_isDigit stops, fun point => ?_⟩
    have off := stops '.' point
    simp [continues] at off
  | some exponent =>
    simp only [exponentChars, Exponent.chars, List.cons_append, Text.stops_cons, List.head?_cons]
    cases exponent.upper <;> decide

theorem signed_inj {sign sign' : ExponentSign} {digits digits' : List Char}
    (valid : digits ≠ [] ∧ ∀ c ∈ digits, c.isDigit = true)
    (valid' : digits' ≠ [] ∧ ∀ c ∈ digits', c.isDigit = true) (stops : Text.Stops Char.isDigit rest)
    (stops' : Text.Stops Char.isDigit rest')
    (same : Exponent.signChars sign ++ (digits ++ rest) = Exponent.signChars sign' ++ (digits' ++ rest')) :
    sign = sign' ∧ digits = digits' ∧ rest = rest' := by
  obtain ⟨d, ds, rfl⟩ := List.exists_cons_of_ne_nil valid.1
  obtain ⟨d', ds', rfl⟩ := List.exists_cons_of_ne_nil valid'.1
  have first := valid.2 d List.mem_cons_self
  have first' := valid'.2 d' List.mem_cons_self
  have signs : sign = sign' := by
    cases sign <;> cases sign' <;>
      simp only [Exponent.signChars, List.nil_append, List.cons_append, List.cons.injEq] at same ⊢
    · exact absurd same.1 (isDigit_ne first (by decide))
    · exact absurd same.1 (isDigit_ne first (by decide))
    · exact absurd same.1.symm (isDigit_ne first' (by decide))
    · exact absurd same.1 (by decide)
    · exact absurd same.1.symm (isDigit_ne first' (by decide))
    · exact absurd same.1 (by decide)
  subst signs
  have parts := Text.append_inj_of_stops valid.2 valid'.2 stops stops' (List.append_cancel_left same)
  exact ⟨rfl, parts⟩

theorem exponentChars_inj {left right : Option Exponent} (stops : Text.Stops continues rest)
    (stops' : Text.Stops continues rest')
    (same : exponentChars left ++ rest = exponentChars right ++ rest') :
    left = right ∧ rest = rest' := by
  cases left with
  | none =>
    cases right with
    | none => exact ⟨rfl, same⟩
    | some exponent =>
      have head : rest = exponent.chars ++ rest' := same
      rw [head, Exponent.chars, List.cons_append, Text.stops_cons] at stops
      cases upper : exponent.upper <;> simp [upper, continues] at stops
  | some exponent =>
    cases right with
    | none =>
      have head : exponent.chars ++ rest = rest' := same
      rw [← head, Exponent.chars, List.cons_append, Text.stops_cons] at stops'
      cases upper : exponent.upper <;> simp [upper, continues] at stops'
    | some exponent' =>
      obtain ⟨upper, sign, digits, valid⟩ := exponent
      obtain ⟨upper', sign', digits', valid'⟩ := exponent'
      simp only [exponentChars, Exponent.chars, List.cons_append, List.append_assoc,
        List.cons.injEq] at same
      obtain ⟨marks, parts⟩ := same
      have uppers : upper = upper' := by
        cases upper <;> cases upper' <;> first | rfl | simp at marks
      obtain ⟨rfl, rfl, rfl⟩ :=
        signed_inj valid valid' (stops_isDigit stops) (stops_isDigit stops') parts
      exact ⟨by rw [uppers], rfl⟩

def body (number : JsonNumber) : List Char :=
  number.whole ++
    ((if number.fraction = [] then [] else '.' :: number.fraction) ++ exponentChars number.exponent)

theorem fraction_inj {left right : List Char} {exponent exponent' : Option Exponent}
    (valid : ∀ c ∈ left, c.isDigit = true) (valid' : ∀ c ∈ right, c.isDigit = true)
    (stops : Text.Stops continues rest) (stops' : Text.Stops continues rest')
    (same : (if left = [] then [] else '.' :: left) ++ (exponentChars exponent ++ rest) =
      (if right = [] then [] else '.' :: right) ++ (exponentChars exponent' ++ rest')) :
    left = right ∧ exponent = exponent' ∧ rest = rest' := by
  have head := exponentChars_head exponent rest stops
  have head' := exponentChars_head exponent' rest' stops'
  rcases Text.optional_inj head.2 head'.2 same with ⟨rfl, rfl, tails⟩ | ⟨_, _, tails⟩
  · exact ⟨rfl, exponentChars_inj stops stops' tails⟩
  · obtain ⟨same, ends⟩ := Text.append_inj_of_stops valid valid' head.1 head'.1 tails
    exact ⟨same, exponentChars_inj stops stops' ends⟩

theorem body_inj {left right : JsonNumber} (stops : Text.Stops continues rest)
    (stops' : Text.Stops continues rest') (same : left.body ++ rest = right.body ++ rest') :
    left.whole = right.whole ∧ left.fraction = right.fraction ∧
      left.exponent = right.exponent ∧ rest = rest' := by
  simp only [body, List.append_assoc] at same
  have pointed (fraction : List Char) (exponent : Option Exponent) (tail : List Char)
      (ends : Text.Stops continues tail) :
      Text.Stops Char.isDigit
        ((if fraction = [] then [] else '.' :: fraction) ++ (exponentChars exponent ++ tail)) := by
    by_cases none_ : fraction = []
    · simpa [none_] using (exponentChars_head exponent tail ends).1
    · simp only [none_, if_false, List.cons_append, Text.stops_cons]
      decide
  obtain ⟨wholes, tails⟩ := Text.append_inj_of_stops left.wholeValid.2 right.wholeValid.2
    (pointed _ _ _ stops) (pointed _ _ _ stops') same
  exact ⟨wholes, fraction_inj left.fractionValid right.fractionValid stops stops' tails⟩

theorem body_head (number : JsonNumber) (rest : List Char) :
    ∃ c tail, number.body ++ rest = c :: tail ∧ c.isDigit = true := by
  obtain ⟨d, ds, whole⟩ := List.exists_cons_of_ne_nil number.wholeValid.1
  refine ⟨d, _, by rw [body, whole]; rfl, number.wholeValid.2 d ?_⟩
  rw [whole]
  exact List.mem_cons_self

theorem chars_inj {left right : JsonNumber} (stops : Text.Stops continues rest)
    (stops' : Text.Stops continues rest') (same : left.chars ++ rest = right.chars ++ rest') :
    left = right ∧ rest = rest' := by
  have unsigned (number : JsonNumber) (tail : List Char) :
      number.chars ++ tail = (if number.negative then ['-'] else []) ++ (number.body ++ tail) := by
    rw [chars, ← body, List.append_assoc]
  rw [unsigned, unsigned] at same
  obtain ⟨c, cs, head, digit⟩ := body_head left rest
  obtain ⟨c', cs', head', digit'⟩ := body_head right rest'
  have signs : left.negative = right.negative := by
    cases negative : left.negative <;> cases negative' : right.negative <;>
      simp only [negative, negative', head, head', if_true, if_false, Bool.false_eq_true,
        List.nil_append, List.cons_append, List.cons.injEq] at same ⊢
    · exact absurd same.1 (isDigit_ne digit (by decide))
    · exact absurd same.1.symm (isDigit_ne digit' (by decide))
  rw [signs] at same
  obtain ⟨wholes, fractions, exponents, rests⟩ :=
    body_inj stops stops' (List.append_cancel_left same)
  obtain ⟨_, _, _, _, _, _, _⟩ := left
  obtain ⟨_, _, _, _, _, _, _⟩ := right
  simp only at signs wholes fractions exponents
  subst signs wholes fractions exponents
  exact ⟨rfl, rests⟩

/-! ## The canonical token -/

def trimmedLeft (digits : List Char) : List Char :=
  digits.dropWhile (· == '0')

def trimmedRight (digits : List Char) : List Char :=
  digits.rdropWhile (· == '0')

theorem trimmedLeft_head (digits : List Char) : (trimmedLeft digits).head? ≠ some '0' := by
  induction digits with
  | nil => simp [trimmedLeft]
  | cons d ds ih =>
    by_cases zero : d = '0'
    · simpa [trimmedLeft, zero] using ih
    · simp [trimmedLeft, zero]

theorem value_trimmedLeft (digits : List Char) :
    Nat.ofDigitChars 10 (trimmedLeft digits) 0 = Nat.ofDigitChars 10 digits 0 := by
  induction digits with
  | nil => rfl
  | cons d ds ih =>
    by_cases zero : d = '0'
    · subst zero
      rw [Nat.ofDigitChars_cons]
      simpa [trimmedLeft] using ih
    · simp [trimmedLeft, zero]

/-- The digits that a right trim removes are zeros. -/
theorem trimmedRight_append (digits : List Char) :
    trimmedRight digits ++
      List.replicate (digits.length - (trimmedRight digits).length) '0' = digits := by
  have split : trimmedRight digits ++ digits.rtakeWhile (· == '0') = digits :=
    List.rdropWhile_append_rtakeWhile
  have zeros : digits.rtakeWhile (· == '0') =
      List.replicate (digits.rtakeWhile (· == '0')).length '0' :=
    List.eq_replicate_of_mem fun c member => by simpa using List.mem_rtakeWhile_imp member
  have lengths := congrArg List.length split
  rw [List.length_append] at lengths
  rw [show digits.length - (trimmedRight digits).length = (digits.rtakeWhile (· == '0')).length by
    omega, ← zeros]
  exact split

theorem trimmedRight_head {digits : List Char} (nonempty : digits ≠ [])
    (first : digits.head? ≠ some '0') :
    trimmedRight digits ≠ [] ∧ (trimmedRight digits).head? = digits.head? := by
  have kept : trimmedRight digits ≠ [] := by
    intro empty
    have zeros := List.rdropWhile_eq_nil_iff.mp empty
    obtain ⟨d, ds, rfl⟩ := List.exists_cons_of_ne_nil nonempty
    exact first (by simpa using zeros d List.mem_cons_self)
  refine ⟨kept, ?_⟩
  have split := trimmedRight_append digits
  rw [← List.head?_append_of_ne_nil _ kept, split]

theorem trimmedRight_length_le (digits : List Char) :
    (trimmedRight digits).length ≤ digits.length :=
  (List.rdropWhile_prefix _ _).length_le

theorem value_trimmedRight (digits : List Char) :
    Nat.ofDigitChars 10 digits 0 =
      10 ^ (digits.length - (trimmedRight digits).length) *
        Nat.ofDigitChars 10 (trimmedRight digits) 0 := by
  conv_lhs => rw [← trimmedRight_append digits]
  rw [Nat.ofDigitChars_append, Nat.ofDigitChars_replicate_zero]

theorem mem_trimmed {digits : List Char} {c : Char}
    (member : c ∈ trimmedRight (trimmedLeft digits)) : c ∈ digits :=
  (List.dropWhile_sublist _).subset ((List.rdropWhile_prefix _ _).subset member)

theorem toDigits_natAbs_valid (n : Int) :
    Nat.toDigits 10 n.natAbs ≠ [] ∧ ∀ c ∈ Nat.toDigits 10 n.natAbs, c.isDigit = true :=
  ⟨Nat.toDigits_ne_nil, fun _ member =>
    Nat.isDigit_of_mem_toDigits (by decide) (by decide) member⟩

/-- The exponent of a canonical token: none for zero, no plus sign, no leading zeros. -/
def powerExponent (power : Int) : Option Exponent :=
  if power = 0 then none
  else some
    { upper := false
      sign := if power < 0 then .minus else .absent
      digits := Nat.toDigits 10 power.natAbs
      digitsValid := toDigits_natAbs_valid power }

theorem powerExponent_value (power : Int) :
    ((powerExponent power).map Exponent.value).getD 0 = power := by
  unfold powerExponent
  split
  next zero => simp [zero]
  next nonzero =>
    by_cases negative : power < 0
    · simp only [Option.map_some, Option.getD_some, Exponent.value, if_pos negative,
        Nat.ofDigitChars_ten_toDigits]
      omega
    · simp only [Option.map_some, Option.getD_some, Exponent.value, if_neg negative,
        Nat.ofDigitChars_ten_toDigits]
      omega

theorem noDigits : ∀ c ∈ ([] : List Char), c.isDigit = true :=
  List.forall_mem_nil _

def zero : JsonNumber where
  negative := false
  whole := ['0']
  fraction := []
  exponent := none
  wholeValid := by simp
  noLeadingZero := by decide
  fractionValid := noDigits

def digits (number : JsonNumber) : List Char :=
  trimmedLeft number.significand

def power (number : JsonNumber) : Int :=
  number.exponentValue +
    ((number.digits.length : Int) - (trimmedRight number.digits).length - number.fraction.length)

def canonical (number : JsonNumber) : JsonNumber :=
  if nonzero : number.digits = [] then zero
  else
    { negative := number.negative
      whole := trimmedRight number.digits
      fraction := []
      exponent := powerExponent number.power
      wholeValid := ⟨(trimmedRight_head nonzero (trimmedLeft_head _)).1, fun c member =>
        number.significand_digits c (mem_trimmed member)⟩
      noLeadingZero := fun head => absurd
        ((trimmedRight_head nonzero (trimmedLeft_head _)).2.symm.trans head) (trimmedLeft_head _)
      fractionValid := by simp }

theorem magnitude_of_digits_nil {number : JsonNumber} (nil : number.digits = []) :
    number.magnitude = 0 := by
  have value := value_trimmedLeft number.significand
  rw [show trimmedLeft number.significand = [] from nil, Nat.ofDigitChars_nil] at value
  simp [magnitude, ← value]

theorem canonical_magnitude (number : JsonNumber) :
    number.canonical.magnitude = number.magnitude := by
  by_cases nil : number.digits = []
  · rw [magnitude_of_digits_nil nil]
    have same : number.canonical = zero := by simp [canonical, nil]
    rw [same]
    simp [magnitude, zero, significand, Nat.ofDigitChars_cons]
  · have trailing := value_trimmedRight number.digits
    have leading : Nat.ofDigitChars 10 number.digits 0 = _ := value_trimmedLeft number.significand
    have shorter := trimmedRight_length_le number.digits
    have exponents : number.power =
        ((number.digits.length - (trimmedRight number.digits).length : ℕ) : ℤ) +
          (number.exponentValue - number.fraction.length) := by
      simp only [power]
      omega
    have whole : number.canonical.magnitude =
        (Nat.ofDigitChars 10 (trimmedRight number.digits) 0 : ℚ) * 10 ^ number.power := by
      have exponent : number.canonical.exponentValue = number.power := by
        simp [exponentValue, canonical, nil, powerExponent_value]
      have fraction : number.canonical.fraction = [] := by simp [canonical, nil]
      have digits : number.canonical.significand = trimmedRight number.digits := by
        simp [significand, canonical, nil]
      rw [magnitude, digits, exponent, fraction]
      simp
    rw [whole, exponents, zpow_add₀ (by norm_num), zpow_natCast, magnitude, ← leading, trailing]
    push_cast
    ring

/-- A canonical token keeps the sign of every token that is not zero. -/
theorem canonical_negative {number : JsonNumber} (nonzero : number.digits ≠ []) :
    number.canonical.negative = number.negative := by
  simp [canonical, nonzero]

theorem canonical_digits_nil (number : JsonNumber) :
    number.canonical.digits = [] ↔ number.digits = [] := by
  by_cases nil : number.digits = []
  · simp only [nil, iff_true]
    have same : number.canonical = zero := by simp [canonical, nil]
    rw [same]
    decide
  · simp only [nil, iff_false]
    have head := trimmedRight_head nil (trimmedLeft_head number.significand)
    intro empty
    have digits : number.canonical.significand = trimmedRight number.digits := by
      simp [significand, canonical, nil]
    rw [JsonNumber.digits, digits] at empty
    obtain ⟨d, ds, cons⟩ := List.exists_cons_of_ne_nil head.1
    have first : d ≠ '0' := by
      rintro rfl
      rw [cons] at head
      exact trimmedLeft_head number.significand head.2.symm
    rw [cons] at empty
    simp [trimmedLeft, first] at empty

/-- Tokens with one canonical token denote one value: the magnitude, and the sign
unless it is zero. -/
theorem eq_of_canonical_eq {left right : JsonNumber} (same : left.canonical = right.canonical) :
    left.magnitude = right.magnitude ∧ (left.digits = [] ↔ right.digits = []) ∧
      (left.digits ≠ [] → left.negative = right.negative) := by
  refine ⟨?_, ?_, fun nonzero => ?_⟩
  · rw [← canonical_magnitude left, same, canonical_magnitude]
  · rw [← canonical_digits_nil left, same, canonical_digits_nil]
  · have nonzero' : right.digits ≠ [] := by
      rwa [Ne, ← canonical_digits_nil right, ← same, canonical_digits_nil]
    rw [← canonical_negative nonzero, same, canonical_negative nonzero']

end JsonNumber
