import Mathlib.Data.Char
import SeiController.Lib.Json

/-!
# The text of a JSON value

The compact encoding Go's `json.Marshal` writes, with its escapes, and the proof that
a text determines its value.
-/

set_option autoImplicit false

namespace Json

/-! ## Strings -/

def hexDigit (n : Nat) : Char :=
  if n < 10 then Char.ofNat (48 + n) else Char.ofNat (87 + n)

/-- `\uXXXX`. -/
def unicodeEscape (c : Char) : List Char :=
  let n := c.toNat
  ['\\', 'u', hexDigit (n / 4096 % 16), hexDigit (n / 256 % 16), hexDigit (n / 16 % 16),
    hexDigit (n % 16)]

/-- The characters with a two-character escape, and its second character. -/
def shortEscape (c : Char) : Option Char :=
  if c = '"' then some '"'
  else if c = '\\' then some '\\'
  else if c = '\x08' then some 'b'
  else if c = '\x0c' then some 'f'
  else if c = '\n' then some 'n'
  else if c = '\r' then some 'r'
  else if c = '\t' then some 't'
  else none

/-- The other characters `json.Marshal` escapes: control characters, the three it
escapes for HTML, and the two line separators. -/
def needsUnicodeEscape (c : Char) : Bool :=
  c.toNat < 32 || c == '<' || c == '>' || c == '&' || c.toNat == 0x2028 || c.toNat == 0x2029

def escapeChar (c : Char) : List Char :=
  match shortEscape c with
  | some short => ['\\', short]
  | none => if needsUnicodeEscape c then unicodeEscape c else [c]

def quoteChars (text : List Char) : List Char :=
  '"' :: (text.flatMap escapeChar ++ ['"'])

def shortUnescape (short : Char) : Char :=
  if short = 'b' then '\x08'
  else if short = 'f' then '\x0c'
  else if short = 'n' then '\n'
  else if short = 'r' then '\r'
  else if short = 't' then '\t'
  else short

theorem shortUnescape_shortEscape {c short : Char} (escaped : shortEscape c = some short) :
    shortUnescape short = c ∧ short ≠ 'u' := by
  unfold shortEscape at escaped
  repeat' split at escaped
  all_goals first
    | (cases escaped; subst c; exact ⟨by decide, by decide⟩)
    | cases escaped

theorem hexDigit_inj {m n : Nat} (mSmall : m < 16) (nSmall : n < 16)
    (same : hexDigit m = hexDigit n) : m = n := by
  have all : ∀ a b : Fin 16, hexDigit a = hexDigit b → a = b := by decide
  exact congrArg Fin.val (all ⟨m, mSmall⟩ ⟨n, nSmall⟩ same)

theorem needsUnicodeEscape_lt {c : Char} (needs : needsUnicodeEscape c = true) :
    c.toNat < 65536 := by
  simp only [needsUnicodeEscape, Bool.or_eq_true, decide_eq_true_eq, beq_iff_eq] at needs
  rcases needs with ((((control | rfl) | rfl) | rfl) | line) | paragraph
  · omega
  · decide
  · decide
  · decide
  · omega
  · omega

variable {rest' rest : List Char}

theorem unicodeEscape_inj {c d : Char} (cSmall : c.toNat < 65536) (dSmall : d.toNat < 65536)
    (same : unicodeEscape c ++ rest = unicodeEscape d ++ rest') : c = d ∧ rest = rest' := by
  simp only [unicodeEscape, List.cons_append, List.nil_append, List.cons.injEq, true_and] at same
  obtain ⟨first, second, third, fourth, rests⟩ := same
  have digits := fun k l => @hexDigit_inj (k % 16) (l % 16) (Nat.mod_lt _ (by decide))
    (Nat.mod_lt _ (by decide))
  have h₁ := digits _ _ first
  have h₂ := digits _ _ second
  have h₃ := digits _ _ third
  have h₄ := digits _ _ fourth
  exact ⟨Char.toNat_inj.mp (by omega), rests⟩

inductive Escaped (c : Char) : Prop
  | short (second : Char) (escaped : shortEscape c = some second)
      (same : escapeChar c = ['\\', second])
  | unicode (small : c.toNat < 65536) (same : escapeChar c = unicodeEscape c)
  | plain (quote : c ≠ '"') (backslash : c ≠ '\\') (same : escapeChar c = [c])

theorem escaped (c : Char) : Escaped c := by
  cases short : shortEscape c with
  | some second => exact .short second short (by simp [escapeChar, short])
  | none =>
    by_cases needs : needsUnicodeEscape c = true
    · exact .unicode (needsUnicodeEscape_lt needs) (by simp [escapeChar, short, needs])
    · refine .plain ?_ ?_ (by simp [escapeChar, short, needs])
      · rintro rfl
        simp [shortEscape] at short
      · rintro rfl
        simp [shortEscape] at short

theorem escapeChar_inj {c d : Char} (same : escapeChar c ++ rest = escapeChar d ++ rest') :
    c = d ∧ rest = rest' := by
  cases escaped c with
  | short second short text =>
    have back := shortUnescape_shortEscape short
    cases escaped d with
    | short second' short' text' =>
      have back' := shortUnescape_shortEscape short'
      simp only [text, text', List.cons_append, List.nil_append, List.cons.injEq, true_and] at same
      exact ⟨by rw [← back.1, ← back'.1, same.1], same.2⟩
    | unicode _ text' =>
      simp only [text, text', unicodeEscape, List.cons_append, List.nil_append, List.cons.injEq,
        true_and] at same
      exact absurd same.1 back.2
    | plain _ backslash text' =>
      simp only [text, text', List.cons_append, List.nil_append, List.cons.injEq] at same
      exact absurd same.1.symm backslash
  | unicode small text =>
    cases escaped d with
    | short second' short' text' =>
      simp only [text, text', unicodeEscape, List.cons_append, List.nil_append, List.cons.injEq,
        true_and] at same
      exact absurd same.1.symm (shortUnescape_shortEscape short').2
    | unicode small' text' =>
      rw [text, text'] at same
      exact unicodeEscape_inj small small' same
    | plain _ backslash text' =>
      simp only [text, text', unicodeEscape, List.cons_append, List.nil_append,
        List.cons.injEq] at same
      exact absurd same.1.symm backslash
  | plain _ backslash text =>
    cases escaped d with
    | short _ _ text' =>
      simp only [text, text', List.cons_append, List.nil_append, List.cons.injEq] at same
      exact absurd same.1 backslash
    | unicode _ text' =>
      simp only [text, text', unicodeEscape, List.cons_append, List.nil_append,
        List.cons.injEq] at same
      exact absurd same.1 backslash
    | plain _ _ text' =>
      simpa only [text, text', List.cons_append, List.nil_append, List.cons.injEq] using same

theorem escapeChar_ne_quote (c : Char) (rest rest' : List Char) :
    escapeChar c ++ rest ≠ '"' :: rest' := by
  cases escaped c with
  | short _ _ text => simp [text]
  | unicode _ text => simp [text, unicodeEscape]
  | plain quote _ text => simp [text, quote]

theorem escapes_inj {left right : List Char}
    (same : left.flatMap escapeChar ++ '"' :: rest = right.flatMap escapeChar ++ '"' :: rest') :
    left = right ∧ rest = rest' := by
  induction left generalizing right with
  | nil =>
    cases right with
    | nil => simpa using same
    | cons d right =>
      rw [List.flatMap_cons, List.append_assoc] at same
      exact absurd same.symm (escapeChar_ne_quote d _ _)
  | cons c left ih =>
    cases right with
    | nil =>
      rw [List.flatMap_cons, List.append_assoc] at same
      exact absurd same (escapeChar_ne_quote c _ _)
    | cons d right =>
      rw [List.flatMap_cons, List.flatMap_cons, List.append_assoc, List.append_assoc] at same
      obtain ⟨heads, tails⟩ := escapeChar_inj same
      obtain ⟨lists, rests⟩ := ih tails
      exact ⟨by rw [heads, lists], rests⟩

theorem quoteChars_inj {left right : List Char}
    (same : quoteChars left ++ rest = quoteChars right ++ rest') : left = right ∧ rest = rest' := by
  simp only [quoteChars, List.cons_append, List.append_assoc, List.nil_append, List.cons.injEq,
    true_and] at same
  exact escapes_inj same

/-! ## Values -/

mutual

def chars : Json → List Char
  | null => ['n', 'u', 'l', 'l']
  | bool true => ['t', 'r', 'u', 'e']
  | bool false => ['f', 'a', 'l', 's', 'e']
  | num token => token.chars
  | str text => quoteChars text.toList
  | arr [] => ['[', ']']
  | arr (item :: rest) => '[' :: (item.chars ++ itemChars rest)
  | obj [] => ['\x7b', '\x7d']
  | obj ((key, value) :: rest) =>
    '\x7b' :: (quoteChars key.toList ++ ':' :: (value.chars ++ fieldChars rest))

def itemChars : List Json → List Char
  | [] => [']']
  | item :: rest => ',' :: (item.chars ++ itemChars rest)

def fieldChars : List (String × Json) → List Char
  | [] => ['\x7d']
  | (key, value) :: rest =>
    ',' :: (quoteChars key.toList ++ ':' :: (value.chars ++ fieldChars rest))

end

inductive First
  | null | true | false | num | str | arr | obj | none
deriving DecidableEq

def firstOf (c : Char) : First :=
  if c = 'n' then .null
  else if c = 't' then .true
  else if c = 'f' then .false
  else if c = '"' then .str
  else if c = '[' then .arr
  else if c = '\x7b' then .obj
  else if c = '-' || c.isDigit then .num
  else .none

def first : Json → First
  | null => .null
  | bool true => .true
  | bool false => .false
  | num _ => .num
  | str _ => .str
  | arr _ => .arr
  | obj _ => .obj

theorem firstOf_digit {c : Char} (digit : c.isDigit = true) : firstOf c = .num := by
  unfold firstOf
  repeat rw [if_neg (JsonNumber.isDigit_ne digit (by decide))]
  simp [digit]

theorem number_first (token : JsonNumber) :
    ∃ c cs, token.chars = c :: cs ∧ firstOf c = .num := by
  obtain ⟨d, ds, head, digit⟩ := token.body_head []
  rw [List.append_nil] at head
  rw [JsonNumber.chars, ← JsonNumber.body]
  cases token.negative with
  | true => exact ⟨'-', token.body, by simp, by decide⟩
  | false => exact ⟨d, ds, by simp [head], firstOf_digit digit⟩

theorem chars_first : ∀ value : Json, ∃ c cs, value.chars = c :: cs ∧ firstOf c = value.first
  | null => ⟨_, _, by rw [chars], by decide⟩
  | bool true => ⟨_, _, by rw [chars], by decide⟩
  | bool false => ⟨_, _, by rw [chars], by decide⟩
  | num token => by rw [chars]; exact number_first token
  | str text => ⟨_, _, by rw [chars, quoteChars], rfl⟩
  | arr [] => ⟨_, _, by rw [chars], rfl⟩
  | arr (item :: rest) => ⟨_, _, by rw [chars], rfl⟩
  | obj [] => ⟨_, _, by rw [chars], rfl⟩
  | obj ((key, value) :: rest) => ⟨_, _, by rw [chars], rfl⟩

theorem first_eq {left right : Json} (same : left.chars ++ rest = right.chars ++ rest') :
    left.first = right.first := by
  obtain ⟨c, cs, head, first⟩ := chars_first left
  obtain ⟨d, ds, head', first'⟩ := chars_first right
  rw [head, head'] at same
  simp only [List.cons_append, List.cons.injEq] at same
  rw [← first, ← first', same.1]

theorem chars_ne_close {value : Json} {close : Char} (none : firstOf close = .none) :
    value.chars ++ rest ≠ close :: rest' := by
  intro same
  obtain ⟨c, cs, head, first⟩ := chars_first value
  rw [head] at same
  simp only [List.cons_append, List.cons.injEq] at same
  rw [same.1, none] at first
  cases value with
  | bool value => cases value <;> cases first
  | _ => cases first

theorem itemChars_stops (items : List Json) (rest : List Char) :
    Text.Stops JsonNumber.continues (itemChars items ++ rest) := by
  cases items <;> simp [itemChars, JsonNumber.continues]

theorem fieldChars_stops (fields : List (String × Json)) (rest : List Char) :
    Text.Stops JsonNumber.continues (fieldChars fields ++ rest) := by
  rcases fields with _ | ⟨⟨key, value⟩, fields⟩ <;> simp [fieldChars, JsonNumber.continues]

/-- The text of a value determines it, when the rest cannot continue a number. -/
def Readable (left : Json) : Prop :=
  ∀ (right : Json) (rest rest' : List Char), Text.Stops JsonNumber.continues rest →
    Text.Stops JsonNumber.continues rest' → left.chars ++ rest = right.chars ++ rest' →
    left = right ∧ rest = rest'

theorem readable_num (token : JsonNumber) : Readable (num token) := by
  intro right rest rest' stops stops' same
  cases right with
  | num token' =>
    rw [chars, chars] at same
    obtain ⟨rfl, rests⟩ := JsonNumber.chars_inj stops stops' same
    exact ⟨rfl, rests⟩
  | bool value => exact absurd (first_eq same) (by cases value <;> simp [first])
  | _ => exact absurd (first_eq same) (by simp [first])

theorem readable_str (text : String) : Readable (str text) := by
  intro right rest rest' _ _ same
  cases right with
  | str text' =>
    rw [chars, chars] at same
    obtain ⟨texts, rests⟩ := quoteChars_inj same
    exact ⟨by rw [String.toList_inj.mp texts], rests⟩
  | bool value => exact absurd (first_eq same) (by cases value <;> simp [first])
  | _ => exact absurd (first_eq same) (by simp [first])

theorem readable_null : Readable null := by
  intro right rest rest' _ _ same
  cases right with
  | null => exact ⟨rfl, List.append_cancel_left same⟩
  | bool value => exact absurd (first_eq same) (by cases value <;> simp [first])
  | _ => exact absurd (first_eq same) (by simp [first])

theorem readable_bool (value : Bool) : Readable (bool value) := by
  intro right rest rest' _ _ same
  cases right with
  | bool value' =>
    have kinds := first_eq same
    have values : value = value' := by cases value <;> cases value' <;> simp [first] at kinds ⊢
    subst values
    exact ⟨rfl, List.append_cancel_left same⟩
  | _ => exact absurd (first_eq same) (by cases value <;> simp [first])

mutual

theorem readable : ∀ left : Json, Readable left
  | null => readable_null
  | bool value => readable_bool value
  | num token => readable_num token
  | str text => readable_str text
  | arr [] => by
      intro right rest rest' _ _ same
      cases right with
      | arr items' =>
        cases items' with
        | nil => exact ⟨rfl, List.append_cancel_left same⟩
        | cons item' items' =>
          simp only [chars, List.cons_append, List.cons.injEq, true_and, List.nil_append,
            List.append_assoc] at same
          exact absurd same.symm (chars_ne_close (by decide))
      | bool value => exact absurd (first_eq same) (by cases value <;> simp [first])
      | _ => exact absurd (first_eq same) (by simp [first])
  | arr (item :: items) => by
      intro right rest rest' stops stops' same
      cases right with
      | arr items' =>
        cases items' with
        | nil =>
          simp only [chars, List.cons_append, List.cons.injEq, true_and, List.nil_append,
            List.append_assoc] at same
          exact absurd same (chars_ne_close (by decide))
        | cons item' items' =>
          simp only [chars, List.cons_append, List.cons.injEq, true_and,
            List.append_assoc] at same
          obtain ⟨heads, tails⟩ := readable item item' _ _ (itemChars_stops items rest)
            (itemChars_stops items' rest') same
          obtain ⟨others, rests⟩ := readable_items items items' rest rest' tails
          exact ⟨by rw [heads, others], rests⟩
      | bool value => exact absurd (first_eq same) (by cases value <;> simp [first])
      | _ => exact absurd (first_eq same) (by simp [first])
  | obj [] => by
      intro right rest rest' _ _ same
      cases right with
      | obj fields' =>
        rcases fields' with _ | ⟨⟨key', value'⟩, fields'⟩
        · exact ⟨rfl, List.append_cancel_left same⟩
        · simp [chars, quoteChars] at same
      | bool value => exact absurd (first_eq same) (by cases value <;> simp [first])
      | _ => exact absurd (first_eq same) (by simp [first])
  | obj ((key, value) :: fields) => by
      intro right rest rest' stops stops' same
      cases right with
      | obj fields' =>
        rcases fields' with _ | ⟨⟨key', value'⟩, fields'⟩
        · simp [chars, quoteChars] at same
        · simp only [chars, List.cons_append, List.cons.injEq, true_and, List.append_assoc] at same
          obtain ⟨keys, values⟩ := quoteChars_inj same
          simp only [List.cons.injEq, true_and] at values
          obtain ⟨heads, tails⟩ := readable value value' _ _ (fieldChars_stops fields rest)
            (fieldChars_stops fields' rest') values
          obtain ⟨others, rests⟩ := readable_fields fields fields' rest rest' tails
          exact ⟨by rw [heads, others, String.toList_inj.mp keys], rests⟩
      | bool value => exact absurd (first_eq same) (by cases value <;> simp [first])
      | _ => exact absurd (first_eq same) (by simp [first])

theorem readable_items : ∀ (left right : List Json) (rest rest' : List Char),
    itemChars left ++ rest = itemChars right ++ rest' → left = right ∧ rest = rest'
  | [], [], _, _, same => ⟨rfl, List.append_cancel_left same⟩
  | [], _ :: _, _, _, same => by simp [itemChars] at same
  | _ :: _, [], _, _, same => by simp [itemChars] at same
  | item :: items, item' :: items', rest, rest', same => by
      simp only [itemChars, List.cons_append, List.cons.injEq, true_and, List.append_assoc] at same
      obtain ⟨heads, tails⟩ := readable item item' _ _ (itemChars_stops items rest)
        (itemChars_stops items' rest') same
      obtain ⟨others, rests⟩ := readable_items items items' rest rest' tails
      exact ⟨by rw [heads, others], rests⟩

theorem readable_fields : ∀ (left right : List (String × Json)) (rest rest' : List Char),
    fieldChars left ++ rest = fieldChars right ++ rest' → left = right ∧ rest = rest'
  | [], [], _, _, same => ⟨rfl, List.append_cancel_left same⟩
  | [], (_, _) :: _, _, _, same => by simp [fieldChars] at same
  | (_, _) :: _, [], _, _, same => by simp [fieldChars] at same
  | (key, value) :: fields, (key', value') :: fields', rest, rest', same => by
      simp only [fieldChars, List.cons_append, List.cons.injEq, true_and, List.append_assoc] at same
      obtain ⟨keys, values⟩ := quoteChars_inj same
      simp only [List.cons.injEq, true_and] at values
      obtain ⟨heads, tails⟩ := readable value value' _ _ (fieldChars_stops fields rest)
        (fieldChars_stops fields' rest') values
      obtain ⟨others, rests⟩ := readable_fields fields fields' rest rest' tails
      exact ⟨by rw [heads, others, String.toList_inj.mp keys], rests⟩

end

/-- `json.Marshal`. -/
def marshal (value : Json) : String :=
  String.ofList value.chars

theorem marshal_injective : Function.Injective marshal := by
  intro left right same
  have texts : left.chars = right.chars := String.ofList_injective same
  exact (readable left right [] [] (Text.stops_nil _) (Text.stops_nil _) (by simpa using texts)).1

end Json
