import Mathlib.Data.List.Lookmap
import Mathlib.Order.Lattice

/-!
# Sorted association lists

Finite maps as lists of pairs with strictly increasing keys: the representation is
unique, so equal lookups mean equal lists.
-/

set_option autoImplicit false

namespace Assoc

variable {κ α β : Type} [LinearOrder κ]

def Sorted (entries : List (κ × α)) : Prop :=
  (entries.map Prod.fst).Pairwise (· < ·)

theorem sorted_nil : Sorted ([] : List (κ × α)) :=
  List.Pairwise.nil

def set (k : κ) (a : α) : List (κ × α) → List (κ × α)
  | [] => [(k, a)]
  | (k', a') :: rest =>
    if k < k' then (k, a) :: (k', a') :: rest
    else if k = k' then (k, a) :: rest
    else (k', a') :: set k a rest

def get (k : κ) : List (κ × α) → Option α
  | [] => none
  | (k', a) :: rest => if k = k' then some a else get k rest

@[simp] theorem get_nil (k : κ) : get k ([] : List (κ × α)) = none := rfl

theorem get_cons (k k' : κ) (a : α) (rest : List (κ × α)) :
    get k ((k', a) :: rest) = if k = k' then some a else get k rest := rfl

theorem get_set (k k' : κ) (a : α) (entries : List (κ × α)) :
    get k (set k' a entries) = if k = k' then some a else get k entries := by
  induction entries with
  | nil => rfl
  | cons head rest ih =>
    obtain ⟨k'', a''⟩ := head
    unfold set
    split
    · rfl
    · split
      next same =>
        subst same
        simp only [get_cons]
        by_cases hit : k = k' <;> simp [hit]
      next different =>
        rw [get_cons, get_cons, ih]
        by_cases hit : k = k''
        · have other : k ≠ k' := fun eq => different (eq ▸ hit)
          rw [if_pos hit, if_neg other, if_pos hit]
        · rw [if_neg hit, if_neg hit]

theorem set_set (k : κ) (a b : α) (entries : List (κ × α)) :
    set k a (set k b entries) = set k a entries := by
  induction entries with
  | nil => simp [set]
  | cons head rest ih =>
    obtain ⟨k', a'⟩ := head
    rcases lt_trichotomy k k' with below | rfl | above
    · simp [set, below]
    · simp [set]
    · simp [set, not_lt_of_gt above, ne_of_gt above, ih]

theorem set_comm {k k' : κ} (apart : k ≠ k') (a a' : α) (entries : List (κ × α)) :
    set k a (set k' a' entries) = set k' a' (set k a entries) := by
  induction entries with
  | nil =>
    rcases lt_or_gt_of_ne apart with below | above
    · simp [set, below, not_lt_of_gt below, apart.symm]
    · simp [set, above, not_lt_of_gt above, apart]
  | cons head rest ih =>
    obtain ⟨h, b⟩ := head
    rcases lt_trichotomy k h with left | rfl | right
    · rcases lt_trichotomy k' h with left' | rfl | right'
      · rcases lt_or_gt_of_ne apart with below | above
        · simp [set, left, left', below, not_lt_of_gt below, apart.symm]
        · simp [set, left, left', above, not_lt_of_gt above, apart]
      · simp [set, left, not_lt_of_gt left, apart.symm]
      · have below : k < k' := lt_trans left right'
        simp [set, left, not_lt_of_gt right', ne_of_gt right', not_lt_of_gt below, apart.symm]
    · rcases lt_or_gt_of_ne apart with below | above
      · simp [set, not_lt_of_gt below, apart.symm]
      · simp [set, above, not_lt_of_gt above, apart]
    · rcases lt_trichotomy k' h with left' | rfl | right'
      · have above : k' < k := lt_trans left' right
        simp [set, left', not_lt_of_gt right, ne_of_gt right, not_lt_of_gt above, apart]
      · simp [set, not_lt_of_gt right, apart]
      · simp [set, not_lt_of_gt right, ne_of_gt right, not_lt_of_gt right', ne_of_gt right', ih]

theorem mem_of_get {k : κ} {a : α} {entries : List (κ × α)} (found : get k entries = some a) :
    (k, a) ∈ entries := by
  induction entries with
  | nil => cases found
  | cons head rest ih =>
    obtain ⟨k', a'⟩ := head
    rw [get_cons] at found
    split at found
    next same =>
      cases found
      rw [same]
      exact List.mem_cons_self
    next => exact List.mem_cons_of_mem _ (ih found)

theorem get_eq_none_of_lt {k : κ} {entries : List (κ × α)}
    (below : ∀ k' ∈ entries.map Prod.fst, k < k') : get k entries = none := by
  induction entries with
  | nil => rfl
  | cons head rest ih =>
    obtain ⟨k', a⟩ := head
    have first : k < k' := below k' List.mem_cons_self
    rw [get_cons, if_neg (ne_of_lt first)]
    exact ih fun other member => below other (List.mem_cons_of_mem _ member)

theorem Sorted.tail {head : κ × α} {rest : List (κ × α)} (sorted : Sorted (head :: rest)) :
    Sorted rest :=
  (List.pairwise_cons.mp sorted).2

theorem Sorted.head_lt {head : κ × α} {rest : List (κ × α)} (sorted : Sorted (head :: rest)) :
    ∀ k ∈ rest.map Prod.fst, head.1 < k :=
  (List.pairwise_cons.mp sorted).1

theorem Sorted.get_head_rest {k : κ} {a : α} {rest : List (κ × α)}
    (sorted : Sorted ((k, a) :: rest)) : get k rest = none :=
  get_eq_none_of_lt sorted.head_lt

theorem keys_set {k : κ} {a : α} {entries : List (κ × α)} {k' : κ}
    (member : k' ∈ (set k a entries).map Prod.fst) : k' = k ∨ k' ∈ entries.map Prod.fst := by
  induction entries with
  | nil => simpa [set] using member
  | cons head rest ih =>
    obtain ⟨k'', a''⟩ := head
    unfold set at member
    split at member
    · simpa using member
    · split at member
      next same => subst same; simpa using member
      next =>
        rcases List.mem_cons.mp member with rfl | later
        · exact .inr List.mem_cons_self
        · exact (ih later).imp id (List.mem_cons_of_mem _)

theorem Sorted.set {entries : List (κ × α)} (sorted : Sorted entries) (k : κ) (a : α) :
    Sorted (set k a entries) := by
  induction entries with
  | nil => simp [Assoc.set, Sorted]
  | cons head rest ih =>
    obtain ⟨k', a'⟩ := head
    unfold Assoc.set
    split
    next below =>
      refine List.pairwise_cons.mpr ⟨?_, sorted⟩
      intro other member
      rcases List.mem_cons.mp member with rfl | later
      · exact below
      · exact lt_trans below (sorted.head_lt other later)
    next notBelow =>
      split
      next same =>
        subst same
        exact List.pairwise_cons.mpr ⟨sorted.head_lt, sorted.tail⟩
      next different =>
        have above : k' < k := lt_of_le_of_ne (not_lt.mp notBelow) fun eq => different eq.symm
        refine List.pairwise_cons.mpr ⟨?_, ih sorted.tail⟩
        intro other member
        rcases keys_set member with rfl | later
        · exact above
        · exact sorted.head_lt other later

theorem ext {left right : List (κ × α)} (sortedLeft : Sorted left) (sortedRight : Sorted right)
    (same : ∀ k, get k left = get k right) : left = right := by
  induction left generalizing right with
  | nil =>
    cases right with
    | nil => rfl
    | cons head rest =>
      obtain ⟨k, a⟩ := head
      have found := same k
      simp [get_cons] at found
  | cons head rest ih =>
    obtain ⟨k, a⟩ := head
    cases right with
    | nil =>
      have found := same k
      simp [get_cons] at found
    | cons head' rest' =>
      obtain ⟨k', a'⟩ := head'
      have keys : k = k' := by
        rcases lt_trichotomy k k' with below | equal | above
        · have missing := same k
          rw [get_cons, if_pos rfl, get_cons, if_neg (ne_of_lt below),
            get_eq_none_of_lt fun other member => lt_trans below (sortedRight.head_lt other member)]
            at missing
          cases missing
        · exact equal
        · have missing := same k'
          rw [get_cons, if_neg (ne_of_lt above), get_cons, if_pos rfl,
            get_eq_none_of_lt fun other member => lt_trans above (sortedLeft.head_lt other member)]
            at missing
          cases missing
      subst keys
      have values := same k
      simp only [get_cons, if_true] at values
      cases values
      congr 1
      refine ih sortedLeft.tail sortedRight.tail fun other => ?_
      by_cases hit : other = k
      · rw [hit, sortedLeft.get_head_rest, sortedRight.get_head_rest]
      · have there := same other
        simpa only [get_cons, if_neg hit] using there

def mapValues (f : α → β) (entries : List (κ × α)) : List (κ × β) :=
  entries.map fun entry => (entry.1, f entry.2)

theorem get_mapValues (f : α → β) (k : κ) (entries : List (κ × α)) :
    get k (mapValues f entries) = (get k entries).map f := by
  induction entries with
  | nil => rfl
  | cons head rest ih =>
    obtain ⟨k', a⟩ := head
    have unfolded : mapValues f ((k', a) :: rest) = (k', f a) :: mapValues f rest := rfl
    rw [unfolded, get_cons, get_cons, ih]
    split <;> rfl

theorem mapValues_set (f : α → β) (k : κ) (a : α) (entries : List (κ × α)) :
    mapValues f (set k a entries) = set k (f a) (mapValues f entries) := by
  induction entries with
  | nil => rfl
  | cons head rest ih =>
    obtain ⟨k', a'⟩ := head
    have unfolded : mapValues f ((k', a') :: rest) = (k', f a') :: mapValues f rest := rfl
    rw [unfolded, set, set]
    split
    · rfl
    · split
      · rfl
      · rw [← ih]
        rfl

theorem Sorted.mapValues {entries : List (κ × α)} (sorted : Sorted entries) (f : α → β) :
    Sorted (mapValues f entries) := by
  unfold Sorted Assoc.mapValues
  rw [List.map_map]
  exact sorted

/-! ## Keys -/

theorem isSome_get {k : κ} {entries : List (κ × α)} :
    (get k entries).isSome = true ↔ k ∈ entries.map Prod.fst := by
  induction entries with
  | nil => simp
  | cons head rest ih =>
    obtain ⟨k', a⟩ := head
    rw [get_cons, List.map_cons, List.mem_cons, ← ih]
    split
    next same => simp [same]
    next other => simp [other]

theorem Sorted.get_of_mem {entries : List (κ × α)} (sorted : Sorted entries) {k : κ} {a : α}
    (member : (k, a) ∈ entries) : get k entries = some a := by
  induction entries with
  | nil => cases member
  | cons head rest ih =>
    obtain ⟨k', a'⟩ := head
    rcases List.mem_cons.mp member with here | there
    · cases here
      rw [get_cons, if_pos rfl]
    · have above : k' < k := sorted.head_lt k (List.mem_map_of_mem there)
      rw [get_cons, if_neg (ne_of_gt above)]
      exact ih sorted.tail there

theorem get_filter (p : κ → Bool) (k : κ) (entries : List (κ × α)) :
    get k (entries.filter fun entry => p entry.1) = if p k then get k entries else none := by
  induction entries with
  | nil => simp
  | cons head rest ih =>
    obtain ⟨k', a⟩ := head
    rw [List.filter_cons]
    by_cases same : k = k'
    · subst same
      split
      next => simp [get_cons]
      next drops =>
        simp only [Bool.not_eq_true] at drops
        rw [ih]
        simp [drops]
    · split
      · rw [get_cons, if_neg same, ih, get_cons, if_neg same]
      · rw [ih, get_cons, if_neg same]

theorem Sorted.filter {entries : List (κ × α)} (sorted : Sorted entries) (p : κ × α → Bool) :
    Sorted (entries.filter p) := by
  refine List.Pairwise.sublist ?_ sorted
  exact List.filter_sublist.map Prod.fst

end Assoc
