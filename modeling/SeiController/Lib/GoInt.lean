import SeiController.Lib.Decimal

/-!
# Decimal integers

`FormatInt` and `ParseInt` of Go, base 10: an optional sign and digits, refused beyond the
range of a signed 64-bit integer, and `SetString` of its unbounded integers.  What is
formatted parses back.
-/

set_option autoImplicit false

namespace GoInt

def formatInt (n : Int) : String :=
  if n < 0 then "-" ++ String.ofList (Nat.toDigits 10 n.natAbs)
  else String.ofList (Nat.toDigits 10 n.natAbs)

def parseDigits (chars : List Char) : Option Nat :=
  if chars ≠ [] ∧ chars.all Char.isDigit then some (Nat.ofDigitChars 10 chars 0) else none

def InRange (n : Int) : Prop :=
  -(2 ^ 63) ≤ n ∧ n < 2 ^ 63

instance (n : Int) : Decidable (InRange n) :=
  inferInstanceAs (Decidable (_ ∧ _))

def inRange? (n : Int) : Option Int :=
  if InRange n then some n else none

def parseInt (text : String) : Option Int :=
  match text.toList with
  | '-' :: digits => (parseDigits digits).bind fun n => inRange? (-n)
  | '+' :: digits => (parseDigits digits).bind fun n => inRange? n
  | digits => (parseDigits digits).bind fun n => inRange? n

theorem parseInt_of_digits {chars : List Char} (valid : chars.all Char.isDigit = true) :
    parseInt (String.ofList chars) = (parseDigits chars).bind fun n => inRange? n := by
  unfold parseInt
  rw [String.toList_ofList]
  split
  · simp at valid
  · simp at valid
  · rfl

theorem all_isDigit_toDigits (n : Nat) : (Nat.toDigits 10 n).all Char.isDigit = true :=
  List.all_eq_true.mpr fun _ member => Nat.isDigit_of_mem_toDigits (by decide) (by decide) member

theorem parseDigits_toDigits (n : Nat) : parseDigits (Nat.toDigits 10 n) = some n := by
  rw [parseDigits, if_pos ⟨Nat.toDigits_ne_nil, all_isDigit_toDigits n⟩,
    Nat.ofDigitChars_ten_toDigits]

theorem parseInt_formatInt {n : Int} (range : InRange n) : parseInt (formatInt n) = some n := by
  unfold formatInt
  by_cases negative : n < 0
  · have value : -(n.natAbs : Int) = n := by omega
    rw [if_pos negative, parseInt, String.toList_append, String.toList_ofList, String.toList_ofList]
    show ((parseDigits (Nat.toDigits 10 n.natAbs)).bind fun m => inRange? (-m)) = some n
    rw [parseDigits_toDigits, Option.bind_some, value, inRange?, if_pos range]
  · have value : (n.natAbs : Int) = n := by omega
    rw [if_neg negative, parseInt_of_digits (all_isDigit_toDigits _), parseDigits_toDigits,
      Option.bind_some, value, inRange?, if_pos range]

theorem toList_formatInt {n : Int} (positive : 0 ≤ n) :
    (formatInt n).toList = Nat.toDigits 10 n.natAbs := by
  rw [formatInt, if_neg (by omega), String.toList_ofList]

/-- `SetString` of `big.Int`, base 10. -/
def setString (text : List Char) : Option Int :=
  match text with
  | '-' :: digits => (parseDigits digits).map fun n => -(n : Int)
  | '+' :: digits => (parseDigits digits).map fun n => (n : Int)
  | digits => (parseDigits digits).map fun n => (n : Int)

theorem setString_of_digits {digits : List Char} (valid : ∀ c ∈ digits, c.isDigit = true) :
    setString digits = (parseDigits digits).map fun n => (n : Int) := by
  unfold setString
  split
  · exact absurd (valid '-' List.mem_cons_self) (by decide)
  · exact absurd (valid '+' List.mem_cons_self) (by decide)
  · rfl

end GoInt
