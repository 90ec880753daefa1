import Mathlib.Data.Nat.Digits.Defs

/-!
# Text as Go's formatting verbs print it and as its `strings` package cuts it
-/

set_option autoImplicit false

namespace GoText

def hex (upper : Bool) (width n : Nat) : String :=
  let digits := ((Nat.digits 16 n).map fun digit =>
    if upper then (Nat.digitChar digit).toUpper else Nat.digitChar digit).reverse
  String.ofList (List.replicate (width - digits.length) '0' ++ digits)

/-- The verb `%U`. -/
def unicodeName (c : Char) : String :=
  "U+" ++ hex true 4 c.toNat

/-- One character as `strconv.Quote` writes it. -/
def quoteChar (isPrint : Char → Bool) (c : Char) : String :=
  if c = '"' then "\\\""
  else if c = '\\' then "\\\\"
  else if isPrint c then c.toString
  else
    match c.toNat with
    | 7 => "\\a"
    | 8 => "\\b"
    | 9 => "\\t"
    | 10 => "\\n"
    | 11 => "\\v"
    | 12 => "\\f"
    | 13 => "\\r"
    | n =>
      if n < 32 ∨ n = 127 then "\\x" ++ hex false 2 n
      else if n < 65536 then "\\u" ++ hex false 4 n
      else "\\U" ++ hex false 8 n

/-- The verb `%q`. -/
def quote (isPrint : Char → Bool) (text : String) : String :=
  "\"" ++ String.join (text.toList.map (quoteChar isPrint)) ++ "\""

/-- `strings.Cut` at a single character. -/
def cut (mark : Char) : List Char → List Char × List Char
  | [] => ([], [])
  | c :: text =>
    if c = mark then ([], text) else (c :: (cut mark text).1, (cut mark text).2)

theorem cut_absent {mark : Char} {text : List Char} (absent : ∀ c ∈ text, c ≠ mark) :
    cut mark text = (text, []) := by
  induction text with
  | nil => rfl
  | cons c text ih =>
    have rest := ih fun d member => absent d (List.mem_cons_of_mem c member)
    simp [cut, absent c List.mem_cons_self, rest]

theorem cut_append {mark : Char} {before : List Char} (after : List Char)
    (absent : ∀ c ∈ before, c ≠ mark) :
    cut mark (before ++ mark :: after) = (before, after) := by
  induction before with
  | nil => simp [cut]
  | cons c before ih =>
    have rest := ih fun d member => absent d (List.mem_cons_of_mem c member)
    simp [cut, absent c List.mem_cons_self, rest]

end GoText
