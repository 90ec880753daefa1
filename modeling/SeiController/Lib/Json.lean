import SeiController.Lib.JsonNumber

/-!
# JSON values

Numbers keep their token.  An object is an association list; sorted by key it
represents the unordered map a decoder yields.
-/

set_option autoImplicit false

inductive Json
  | null
  | bool (value : Bool)
  | num (token : JsonNumber)
  | str (text : String)
  | arr (items : List Json)
  | obj (fields : List (String × Json))

namespace Json

mutual

def beq : Json → Json → Bool
  | null, null => true
  | bool left, bool right => left == right
  | num left, num right => left == right
  | str left, str right => left == right
  | arr left, arr right => beqItems left right
  | obj left, obj right => beqFields left right
  | _, _ => false

def beqItems : List Json → List Json → Bool
  | [], [] => true
  | left :: lefts, right :: rights => beq left right && beqItems lefts rights
  | _, _ => false

def beqFields : List (String × Json) → List (String × Json) → Bool
  | [], [] => true
  | (key, left) :: lefts, (key', right) :: rights =>
    key == key' && beq left right && beqFields lefts rights
  | _, _ => false

end

mutual

theorem beq_true_iff : ∀ left right : Json, beq left right = true ↔ left = right
  | null, right => by cases right <;> simp [beq]
  | bool _, right => by cases right <;> simp [beq]
  | num _, right => by cases right <;> simp [beq]
  | str _, right => by cases right <;> simp [beq]
  | arr items, right => by cases right <;> simp [beq, beqItems_iff_eq items]
  | obj fields, right => by cases right <;> simp [beq, beqFields_iff_eq fields]

theorem beqItems_iff_eq : ∀ left right : List Json, beqItems left right = true ↔ left = right
  | [], right => by cases right <;> simp [beqItems]
  | head :: rest, right => by
      cases right <;> simp [beqItems, beq_true_iff head, beqItems_iff_eq rest]

theorem beqFields_iff_eq :
    ∀ left right : List (String × Json), beqFields left right = true ↔ left = right
  | [], right => by cases right <;> simp [beqFields]
  | (key, head) :: rest, right => by
      rcases right with _ | ⟨⟨key', head'⟩, rest'⟩ <;>
        simp [beqFields, beq_true_iff head, beqFields_iff_eq rest, and_assoc]

end

instance : DecidableEq Json := fun left right => decidable_of_iff _ (beq_true_iff left right)

end Json
