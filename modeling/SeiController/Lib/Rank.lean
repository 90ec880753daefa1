import Mathlib.Data.List.Count
import Mathlib.Data.String.Basic
import Mathlib.Order.Basic

/-!
# Places in a sorted list

The place of a member is the number of members that sort before it.
-/

set_option autoImplicit false

section

variable {α : Type} [LinearOrder α]

/-- What precedes the first occurrence is what is smaller. -/
theorem List.idxOf_eq_countP_lt {l : List α} {x : α} (sorted : l.Pairwise (· ≤ ·)) (member : x ∈ l) :
    l.idxOf x = l.countP (· < x) := by
  induction l with
  | nil => cases member
  | cons y rest ih =>
    by_cases here : y = x
    · subst here
      rw [List.idxOf_cons_self, eq_comm, List.countP_eq_zero]
      intro other found
      rcases List.mem_cons.mp found with rfl | later
      · simp
      · simpa using List.rel_of_pairwise_cons sorted later
    · have later : x ∈ rest := (List.mem_cons.mp member).resolve_left (Ne.symm here)
      have before : y < x := lt_of_le_of_ne (List.rel_of_pairwise_cons sorted later) here
      rw [List.idxOf_cons_ne rest here, List.countP_cons_of_pos (by simpa using before),
        ih sorted.of_cons later]

theorem List.idxOf?_eq_some_idxOf {l : List α} {x : α} (member : x ∈ l) :
    l.idxOf? x = some (l.idxOf x) := by
  induction l with
  | nil => cases member
  | cons y rest ih =>
    by_cases here : y = x
    · rw [here, List.idxOf_cons_self, List.idxOf?_cons, if_pos (beq_self_eq_true x)]
    · have later : x ∈ rest := (List.mem_cons.mp member).resolve_left (Ne.symm here)
      rw [List.idxOf_cons_ne rest here, List.idxOf?_cons, if_neg (by simpa using here), ih later]
      rfl

end

/-- Two tests that no member passes both of. -/
theorem List.countP_or {α : Type} {l : List α} {p q : α → Bool}
    (apart : ∀ x ∈ l, p x = true → q x = false) :
    l.countP (fun x => p x || q x) = l.countP p + l.countP q := by
  induction l with
  | nil => rfl
  | cons y rest ih =>
    have later := ih fun x found => apart x (List.mem_cons_of_mem y found)
    have here := apart y List.mem_cons_self
    rw [List.countP_cons, List.countP_cons, List.countP_cons, later]
    cases first : p y with
    | true => simp [here first]; omega
    | false => simp; omega

/-- Names sorted as `slices.Sort` leaves them. -/
def sortNames (names : List String) : List String :=
  names.mergeSort fun left right => left ≤ right

theorem sortNames_sorted (names : List String) : (sortNames names).Pairwise (· ≤ ·) := by
  have ordered := @List.pairwise_mergeSort String (fun left right => decide (left ≤ right))
    (fun a b c first second => by
      rw [decide_eq_true_eq] at *
      exact le_trans first second)
    (fun a b => by simpa using le_total a b) names
  exact ordered.imp fun le => of_decide_eq_true le

theorem sortNames_perm (names : List String) : (sortNames names).Perm names :=
  List.mergeSort_perm names _

@[simp] theorem sortNames_nil : sortNames [] = [] :=
  List.mergeSort_nil

theorem sortNames_of_sorted {names : List String} (sorted : names.Pairwise (· ≤ ·)) :
    sortNames names = names :=
  List.mergeSort_of_pairwise (sorted.imp fun le => decide_eq_true le)
