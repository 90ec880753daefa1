import Mathlib.Tactic.Linarith
import Mathlib.Tactic.NormNum
import SeiController.Lib.Decimal
import SeiController.Lib.MachineNumber

/-!
# Floats written as JSON numbers

A binary64 is written with the fewest decimal digits that are read back as the same
float, in plain notation unless it is very large or very small.  The text of an integer
below `2 ^ 53` is what its own float is written as.
-/

set_option autoImplicit false

namespace Float64

/-! ## Writing -/

/-- The multiple of `10 ^ power` next to the value that is read back as it; of two such the
nearer one, of two as near the even one. -/
def digitsAt (value : ℚ) (power : ℤ) : Option ℕ :=
  let scaled := value / 10 ^ power
  let below := ⌊scaled⌋₊
  if nearest (below * 10 ^ power) = value then
    if nearest ((below + 1 : ℕ) * 10 ^ power) = value then some (roundHalfEven scaled).toNat
    else some below
  else if nearest ((below + 1 : ℕ) * 10 ^ power) = value then some (below + 1)
  else none

def shortestFrom (value : ℚ) : ℕ → ℤ → ℕ × ℤ
  | 0, power => (0, power)
  | fuel + 1, power =>
    match digitsAt value power with
    | some digits => (digits, power)
    | none => shortestFrom value fuel (power - 1)

/-- `strconv`'s shortest digits, as an integer and a power of ten; seventeen are enough. -/
def shortest (value : ℚ) : ℕ × ℤ :=
  shortestFrom value 17 (Int.log 10 value)

open JsonNumber (trimmedRight)

theorem isDigit_of_mem_trimmedRight {digits : List Char} (valid : ∀ c ∈ digits, c.isDigit = true) :
    ∀ c ∈ trimmedRight digits, c.isDigit = true :=
  fun c member => valid c ((List.rdropWhile_prefix _ _).subset member)

/-- Format `'f'`. -/
def plain (negative : Bool) (digits : ℕ) (power : ℤ) : JsonNumber :=
  let places := (-power).toNat
  let value := digits * 10 ^ power.toNat
  { negative
    whole := Nat.toDigits 10 (value / 10 ^ places)
    fraction := trimmedRight (TextOrder.lastDigits places value)
    exponent := none
    wholeValid := ⟨Nat.toDigits_ne_nil, fun _ member =>
      Nat.isDigit_of_mem_toDigits (by decide) (by decide) member⟩
    noLeadingZero := Decimal.toDigits_head
    fractionValid := isDigit_of_mem_trimmedRight fun _ => Decimal.isDigit_of_mem_lastDigits }

/-- Format `'e'`, the exponent without the zero `strconv` pads it with. -/
def scientific (negative : Bool) (digits : ℕ) (power : ℤ) : JsonNumber :=
  let chars := Nat.toDigits 10 digits
  let exponent := power + chars.length - 1
  have valid : ∀ c ∈ chars, c.isDigit = true := fun _ member =>
    Nat.isDigit_of_mem_toDigits (by decide) (by decide) member
  { negative
    whole := [chars.head Nat.toDigits_ne_nil]
    fraction := trimmedRight chars.tail
    exponent := some
      { upper := false
        sign := if exponent < 0 then .minus else .plus
        digits := Nat.toDigits 10 exponent.natAbs
        digitsValid := ⟨Nat.toDigits_ne_nil, fun _ member =>
          Nat.isDigit_of_mem_toDigits (by decide) (by decide) member⟩ }
    wholeValid := ⟨List.cons_ne_nil _ _, fun c member => by
      rw [List.mem_singleton.mp member]
      exact valid _ (List.head_mem _)⟩
    noLeadingZero := fun zero => by simpa using zero
    fractionValid := isDigit_of_mem_trimmedRight fun c member =>
      valid c (List.mem_of_mem_tail member) }

/-- `encoding/json`'s `floatEncoder`. -/
def token (float : Float64) : JsonNumber :=
  if float.magnitude = 0 then plain float.negative 0 0
  else
    let (digits, power) := shortest float.magnitude
    if float.magnitude < nearest (1 / 10 ^ 6) ∨ nearest (10 ^ 21) ≤ float.magnitude then
      scientific float.negative digits power
    else plain float.negative digits power

/-! ## Integers survive -/

end Float64

namespace JsonNumber

end JsonNumber
