import SeiController.Lib.GoInt
import SeiController.Lib.GoText
import SeiController.Lib.NormalForm

/-!
# The spelling of a number in the hash of the configuration values

`canonicalJSONNumber` works on the text of a number token: it cuts the text at the exponent
mark and at the point, trims zeros and prints the exponent anew.  On every token it prints
the canonical token of the number the token denotes.
-/

set_option autoImplicit false

def JsonNumber.text (number : JsonNumber) : String :=
  String.ofList number.chars

theorem JsonNumber.text_inj {left right : JsonNumber} : left.text = right.text ↔ left = right := by
  refine ⟨fun same => ?_, fun same => by rw [same]⟩
  have chars : left.chars ++ [] = right.chars ++ [] := by
    simpa [JsonNumber.text] using congrArg String.toList same
  exact (chars_inj (Text.stops_nil _) (Text.stops_nil _) chars).1

namespace SeiController

open GoText (cut)
open JsonNumber (trimmedLeft trimmedRight)

/-- The sign of the mantissa, the digits left and right of the point, and the exponent. -/
structure NumberParts where
  negative : Bool
  whole : List Char
  fraction : List Char
  exponent : List Char
deriving DecidableEq

def numberParts (text : List Char) : NumberParts :=
  let (mantissa, exponent) := cut 'e' (text.map Char.toLower)
  let negative := mantissa.head? == some '-'
  let mantissa := if negative then mantissa.drop 1 else mantissa
  let (whole, fraction) := cut '.' mantissa
  { negative, whole, fraction, exponent }

def canonicalJSONNumber (number : String) : String :=
  let parts := numberParts number.toList
  let digits := trimmedLeft (parts.whole ++ parts.fraction)
  if digits = [] then "0"
  else
    let trimmed := trimmedRight digits
    let power := (if parts.exponent = [] then 0 else (GoInt.setString parts.exponent).getD 0) +
      ((digits.length : Int) - trimmed.length - parts.fraction.length)
    let sign := if parts.negative then "-" else ""
    let tail := if power = 0 then "" else "e" ++ GoInt.formatInt power
    sign ++ String.ofList trimmed ++ tail

/-! ## The parts of a token -/

theorem toLower_of_isDigit {c : Char} (digit : c.isDigit = true) : c.toLower = c := by
  simp only [Char.isDigit, Bool.and_eq_true, decide_eq_true_eq] at digit
  have low : 48 ≤ c.toNat := digit.1
  have high : c.toNat ≤ 57 := digit.2
  have back : Char.ofNat c.toNat = c := Char.ofNat_toNat c
  generalize c.toNat = n at low high back
  subst back
  interval_cases n <;> decide

theorem map_toLower_of_digits {digits : List Char} (valid : ∀ c ∈ digits, c.isDigit = true) :
    digits.map Char.toLower = digits := by
  induction digits with
  | nil => rfl
  | cons c digits ih =>
    simp [toLower_of_isDigit (valid c List.mem_cons_self),
      ih fun d member => valid d (List.mem_cons_of_mem c member)]

def exponentText : Option Exponent → List Char
  | none => []
  | some exponent => Exponent.signChars exponent.sign ++ exponent.digits

def mantissaText (number : JsonNumber) : List Char :=
  number.whole ++ (if number.fraction = [] then [] else '.' :: number.fraction)

theorem map_toLower_exponentChars (exponent : Option Exponent) :
    (JsonNumber.exponentChars exponent).map Char.toLower =
      if exponent = none then [] else 'e' :: exponentText exponent := by
  cases exponent with
  | none => rfl
  | some exponent =>
    have mark : (if exponent.upper then 'E' else 'e').toLower = 'e' := by
      cases exponent.upper <;> decide
    have sign : (Exponent.signChars exponent.sign).map Char.toLower =
        Exponent.signChars exponent.sign := by
      cases exponent.sign <;> decide
    simp [JsonNumber.exponentChars, Exponent.chars, exponentText, mark, sign,
      map_toLower_of_digits exponent.digitsValid.2]

theorem map_toLower_mantissaText (number : JsonNumber) :
    (mantissaText number).map Char.toLower = mantissaText number := by
  unfold mantissaText
  rw [List.map_append, map_toLower_of_digits number.wholeValid.2]
  by_cases none_ : number.fraction = []
  · simp [none_]
  · simp [none_, map_toLower_of_digits number.fractionValid]

theorem chars_eq_mantissaText (number : JsonNumber) :
    number.chars = (if number.negative then ['-'] else []) ++
      (mantissaText number ++ JsonNumber.exponentChars number.exponent) := by
  simp [JsonNumber.chars, mantissaText]

theorem isDigit_or_point_of_mem {number : JsonNumber} {c : Char} (member : c ∈ mantissaText number) :
    c.isDigit = true ∨ c = '.' := by
  unfold mantissaText at member
  rcases List.mem_append.mp member with inWhole | after
  · exact .inl (number.wholeValid.2 c inWhole)
  · by_cases none_ : number.fraction = []
    · simp [none_] at after
    · simp only [none_, if_false, List.mem_cons] at after
      rcases after with point | inFraction
      · exact .inr point
      · exact .inl (number.fractionValid c inFraction)

theorem cut_exponent (number : JsonNumber) :
    cut 'e' (number.chars.map Char.toLower) =
      ((if number.negative then ['-'] else []) ++ mantissaText number,
        exponentText number.exponent) := by
  have sign : (if number.negative then ['-'] else []).map Char.toLower =
      if number.negative then ['-'] else [] := by
    cases number.negative <;> decide
  have unmarked : ∀ c ∈ (if number.negative then ['-'] else []) ++ mantissaText number, c ≠ 'e' := by
    intro c member
    rcases List.mem_append.mp member with inSign | inMantissa
    · have minus : c = '-' := by
        cases negative : number.negative <;> simp [negative] at inSign
        exact inSign
      rw [minus]
      decide
    · rcases isDigit_or_point_of_mem inMantissa with digit | rfl
      · exact JsonNumber.isDigit_ne digit (by decide)
      · decide
  rw [chars_eq_mantissaText, List.map_append, List.map_append, sign, map_toLower_mantissaText,
    map_toLower_exponentChars, ← List.append_assoc]
  generalize (if number.negative then ['-'] else []) ++ mantissaText number = mantissa at unmarked ⊢
  cases number.exponent with
  | none =>
    rw [if_pos rfl, List.append_nil]
    exact GoText.cut_absent unmarked
  | some exponent =>
    rw [if_neg (by simp)]
    exact GoText.cut_append _ unmarked

theorem cut_point (number : JsonNumber) :
    cut '.' (mantissaText number) = (number.whole, number.fraction) := by
  have unmarked : ∀ c ∈ number.whole, c ≠ '.' := fun c member =>
    JsonNumber.isDigit_ne (number.wholeValid.2 c member) (by decide)
  unfold mantissaText
  by_cases none_ : number.fraction = []
  · simpa [none_] using GoText.cut_absent unmarked
  · rw [if_neg none_]
    exact GoText.cut_append _ unmarked

theorem mantissaText_head (number : JsonNumber) : (mantissaText number).head? ≠ some '-' := by
  obtain ⟨d, ds, whole⟩ := List.exists_cons_of_ne_nil number.wholeValid.1
  have digit := number.wholeValid.2 d (by rw [whole]; exact List.mem_cons_self)
  simp only [mantissaText, whole, List.cons_append, List.head?_cons, ne_eq, Option.some.injEq]
  exact JsonNumber.isDigit_ne digit (by decide)

theorem numberParts_chars (number : JsonNumber) :
    numberParts number.chars =
      ⟨number.negative, number.whole, number.fraction, exponentText number.exponent⟩ := by
  have unsigned := mantissaText_head number
  unfold numberParts
  rw [cut_exponent]
  cases negative : number.negative with
  | false => simp [unsigned, cut_point]
  | true => simp [cut_point]

theorem setString_exponentText (exponent : Option Exponent) :
    (if exponentText exponent = [] then 0 else (GoInt.setString (exponentText exponent)).getD 0) =
      (exponent.map Exponent.value).getD 0 := by
  cases exponent with
  | none => rfl
  | some exponent =>
    obtain ⟨upper, sign, digits, valid⟩ := exponent
    have read : GoInt.parseDigits digits = some (Nat.ofDigitChars 10 digits 0) := by
      rw [GoInt.parseDigits, if_pos ⟨valid.1, List.all_eq_true.mpr valid.2⟩]
    cases sign with
    | absent => simp [exponentText, Exponent.signChars, Exponent.value, valid.1,
        GoInt.setString_of_digits valid.2, read]
    | plus => simp [exponentText, Exponent.signChars, Exponent.value, GoInt.setString, read]
    | minus => simp [exponentText, Exponent.signChars, Exponent.value, GoInt.setString, read]

/-! ## The printed token -/

theorem powerExponent_text (power : Int) :
    String.ofList (JsonNumber.exponentChars (JsonNumber.powerExponent power)) =
      if power = 0 then "" else "e" ++ GoInt.formatInt power := by
  unfold JsonNumber.powerExponent GoInt.formatInt
  by_cases zero : power = 0
  · simp [zero, JsonNumber.exponentChars]
  · apply String.toList_inj.mp
    by_cases negative : power < 0
    · simp [zero, negative, JsonNumber.exponentChars, Exponent.chars, Exponent.signChars]
    · simp [zero, negative, JsonNumber.exponentChars, Exponent.chars, Exponent.signChars]

/-- On a token the function prints the canonical token. -/
theorem canonicalJSONNumber_text (number : JsonNumber) :
    canonicalJSONNumber number.text = number.canonical.text := by
  unfold canonicalJSONNumber
  rw [JsonNumber.text, String.toList_ofList, numberParts_chars]
  simp only [setString_exponentText]
  change (if number.digits = [] then "0"
    else (if number.negative then "-" else "") ++ String.ofList (trimmedRight number.digits) ++
      if number.power = 0 then "" else "e" ++ GoInt.formatInt number.power) = _
  by_cases nil : number.digits = []
  · rw [if_pos nil]
    simp [JsonNumber.canonical, nil, JsonNumber.text, JsonNumber.zero, JsonNumber.chars,
      JsonNumber.exponentChars]
  · have sign : (if number.negative then "-" else "") =
        String.ofList (if number.negative then ['-'] else []) := by
      cases number.negative <;> rfl
    rw [if_neg nil, ← powerExponent_text, sign, ← String.ofList_append, ← String.ofList_append]
    simp [JsonNumber.text, JsonNumber.chars, JsonNumber.canonical, nil]

/-- The function is a normal form of JSON numbers: the outputs for two tokens are equal
exactly when the tokens denote one rational, an output is a token of the same number, and
a second application changes nothing. -/
theorem canonicalJSONNumber_normal_form (left right : JsonNumber) :
    (canonicalJSONNumber left.text = canonicalJSONNumber right.text ↔ left.value = right.value) ∧
      (∃ token : JsonNumber, canonicalJSONNumber left.text = token.text ∧
        token.value = left.value) ∧
      canonicalJSONNumber (canonicalJSONNumber left.text) = canonicalJSONNumber left.text := by
  refine ⟨?_, ⟨left.canonical, canonicalJSONNumber_text left, JsonNumber.canonical_value left⟩, ?_⟩
  · rw [canonicalJSONNumber_text, canonicalJSONNumber_text, JsonNumber.text_inj,
      JsonNumber.canonical_eq_iff]
  · rw [canonicalJSONNumber_text, canonicalJSONNumber_text, JsonNumber.canonical_canonical]

end SeiController
