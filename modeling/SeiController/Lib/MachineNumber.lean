import SeiController.Lib.JsonNumber

/-!
# Number tokens as machine numbers

A token is read as a 64-bit integer when it is the decimal text of one, and as the
nearest binary64 otherwise.  Two tokens of one value are read alike exactly when they
are of one kind: the text decides between integer and float, and a float zero keeps
its sign.
-/

set_option autoImplicit false

/-- A finite binary64: its sign bit and its absolute value. -/
structure Float64 where
  negative : Bool
  magnitude : ℚ
deriving DecidableEq

namespace Float64

def roundHalfEven (x : ℚ) : ℤ :=
  let below := ⌊x⌋
  let rest := x - below
  if rest < 1 / 2 then below
  else if 1 / 2 < rest then below + 1
  else if below % 2 = 0 then below
  else below + 1

/-- The nearest multiple of the spacing binary64 has at `q`, ties to even. -/
def nearest (q : ℚ) : ℚ :=
  if q = 0 then 0
  else
    let spacing : ℚ := 2 ^ max (Int.log 2 q - 52) (-1074)
    roundHalfEven (q / spacing) * spacing

end Float64

inductive NumberKind
  | integer | float | negativeZero
deriving DecidableEq

inductive MachineNumber
  | int (value : Int)
  | float (value : Float64)
  | unrepresentable
deriving DecidableEq

namespace JsonNumber

def integer (number : JsonNumber) : Int :=
  if number.negative then -Nat.ofDigitChars 10 number.whole 0
  else Nat.ofDigitChars 10 number.whole 0

/-- `strconv.ParseInt(token, 10, 64)`. -/
def parseInt64 (number : JsonNumber) : Option Int :=
  if (number.fraction = [] ∧ number.exponent = none) ∧
      -2 ^ 63 ≤ number.integer ∧ number.integer < 2 ^ 63 then
    some number.integer
  else
    none

/-- `strconv.ParseFloat(token, 64)`: an error when the value rounds beyond the range. -/
def parseFloat64 (number : JsonNumber) : Option Float64 :=
  let nearest := Float64.nearest number.magnitude
  if nearest < 2 ^ 1024 then some ⟨number.negative, nearest⟩ else none

def machine (number : JsonNumber) : MachineNumber :=
  match number.parseInt64 with
  | some value => .int value
  | none =>
    match number.parseFloat64 with
    | some value => .float value
    | none => .unrepresentable

def kind (number : JsonNumber) : NumberKind :=
  if number.parseInt64.isSome then .integer
  else if number.negative ∧ number.digits = [] then .negativeZero
  else .float

theorem parseInt64_value {number : JsonNumber} {value : Int}
    (parsed : number.parseInt64 = some value) :
    (value : ℚ) = if number.negative then -number.magnitude else number.magnitude := by
  simp only [parseInt64, Option.ite_none_right_eq_some, Option.some.injEq] at parsed
  obtain ⟨⟨plain, -⟩, rfl⟩ := parsed
  have magnitude : number.magnitude = (Nat.ofDigitChars 10 number.whole 0 : ℚ) := by
    simp [JsonNumber.magnitude, significand, exponentValue, plain.1, plain.2]
  rw [magnitude, integer]
  cases number.negative <;> simp

theorem parseFloat64_zero {number : JsonNumber} (nil : number.digits = []) :
    number.parseFloat64 = some ⟨number.negative, 0⟩ := by
  simp [parseFloat64, magnitude_of_digits_nil nil, Float64.nearest]

section

variable {left right : JsonNumber} (same : left.canonical = right.canonical)

include same

theorem parseInt64_eq_of_canonical_eq {value value' : Int} (parsed : left.parseInt64 = some value)
    (parsed' : right.parseInt64 = some value') : value = value' := by
  obtain ⟨magnitudes, zeros, signs⟩ := eq_of_canonical_eq same
  have read := parseInt64_value parsed
  have read' := parseInt64_value parsed'
  have casts : (value : ℚ) = value' := by
    by_cases nil : left.digits = []
    · have zero := magnitude_of_digits_nil nil
      rw [read, read', ← magnitudes, zero]
      simp
    · rw [read, read', ← magnitudes, signs nil]
  exact_mod_cast casts

theorem parseFloat64_of_canonical_eq :
    right.parseFloat64 = left.parseFloat64.map fun value => ⟨right.negative, value.magnitude⟩ := by
  obtain ⟨magnitudes, -, -⟩ := eq_of_canonical_eq same
  unfold parseFloat64
  rw [← magnitudes]
  dsimp only
  split <;> rfl

/-- Tokens of one value are one machine number exactly when they are of one kind. -/
theorem machine_eq_iff_kind_eq : left.machine = right.machine ↔ left.kind = right.kind := by
  obtain ⟨-, zeros, signs⟩ := eq_of_canonical_eq same
  cases int : left.parseInt64 with
  | some value =>
    cases int' : right.parseInt64 with
    | some value' =>
      have values := parseInt64_eq_of_canonical_eq same int int'
      simp [machine, kind, int, int', values]
    | none =>
      constructor
      · simp only [machine, int, int']
        cases right.parseFloat64 <;> simp
      · simp only [kind, int, int', Option.isSome_some, Option.isSome_none, if_true,
          Bool.false_eq_true, if_false]
        split <;> simp
  | none =>
    cases int' : right.parseInt64 with
    | some value' =>
      constructor
      · simp only [machine, int, int']
        cases left.parseFloat64 <;> simp
      · simp only [kind, int, int', Option.isSome_some, Option.isSome_none, if_true,
          Bool.false_eq_true, if_false]
        split <;> simp
    | none =>
      by_cases nil : left.digits = []
      · have nil' := zeros.mp nil
        simp only [machine, int, int', parseFloat64_zero nil, parseFloat64_zero nil', kind,
          nil, nil', Option.isSome_none, Bool.false_eq_true, if_false, and_true]
        cases left.negative <;> cases right.negative <;> simp
      · have nil' : right.digits ≠ [] := fun empty => nil (zeros.mpr empty)
        have floats := parseFloat64_of_canonical_eq same
        have sign := signs nil
        simp only [machine, int, int', kind, nil, nil', Option.isSome_none, Bool.false_eq_true,
          if_false, and_false, iff_true, floats]
        cases float : left.parseFloat64 with
        | none => rfl
        | some value =>
          have negative : value.negative = right.negative := by
            rw [← sign]
            unfold parseFloat64 at float
            dsimp only at float
            split at float
            · cases float
              rfl
            · cases float
          simp [← negative]

end

end JsonNumber
