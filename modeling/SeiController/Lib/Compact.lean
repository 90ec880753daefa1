import Mathlib.Data.List.Induction
import SeiController.Lib.Rank

/-!
# Sorted lists without repetitions

`slices.Compact` drops a member that equals the one before it.  After `slices.Sort` that
leaves each member once, so the result depends on the members only.
-/

set_option autoImplicit false

section

variable {α : Type} [BEq α]

/-- The loop of `List.eraseReps`, without its accumulator: `last` has been kept. -/
def List.compactAfter (last : α) : List α → List α
  | [] => []
  | x :: rest => if last == x then compactAfter last rest else x :: compactAfter x rest

theorem List.eraseRepsBy_loop (xs : List α) :
    ∀ (last : α) (acc : List α), List.eraseRepsBy.loop (· == ·) last xs acc =
      acc.reverse ++ last :: compactAfter last xs := by
  induction xs with
  | nil => simp [List.eraseRepsBy.loop, List.compactAfter]
  | cons x rest ih =>
    intro last acc
    rw [List.eraseRepsBy.loop, List.compactAfter]
    cases same : last == x with
    | true => simp [ih]
    | false => simp [ih]

theorem List.eraseReps_cons (x : α) (rest : List α) :
    (x :: rest).eraseReps = x :: compactAfter x rest := by
  simp [List.eraseReps, List.eraseRepsBy, List.eraseRepsBy_loop]

section

variable [LawfulBEq α]

theorem List.mem_compactAfter {a last : α} {xs : List α} :
    a = last ∨ a ∈ compactAfter last xs ↔ a = last ∨ a ∈ xs := by
  induction xs generalizing last with
  | nil => simp [List.compactAfter]
  | cons x rest ih =>
    rw [List.compactAfter]
    split
    next same =>
      rw [ih, List.mem_cons, eq_of_beq same]
      tauto
    · rw [List.mem_cons, List.mem_cons, ih]

@[simp] theorem List.mem_eraseReps {a : α} {xs : List α} : a ∈ xs.eraseReps ↔ a ∈ xs := by
  cases xs with
  | nil => rfl
  | cons x rest => rw [List.eraseReps_cons, List.mem_cons, List.mem_compactAfter, List.mem_cons]

variable [LinearOrder α]

theorem List.compactAfter_increasing {last : α} {xs : List α} (sorted : (last :: xs).Pairwise (· ≤ ·)) :
    (last :: compactAfter last xs).Pairwise (· < ·) := by
  induction xs generalizing last with
  | nil => simp [List.compactAfter]
  | cons x rest ih =>
    obtain ⟨least, tail⟩ := List.pairwise_cons.mp sorted
    rw [List.compactAfter]
    split
    next same =>
      rw [eq_of_beq same]
      exact ih tail
    next differ =>
      have below : last < x :=
        lt_of_le_of_ne (least x List.mem_cons_self) fun same => differ (beq_iff_eq.mpr same)
      have later := ih tail
      refine List.pairwise_cons.mpr ⟨fun y member => ?_, later⟩
      rcases List.mem_cons.mp member with rfl | member
      · exact below
      · exact below.trans (List.rel_of_pairwise_cons later member)

theorem List.Pairwise.eraseReps {xs : List α} (sorted : xs.Pairwise (· ≤ ·)) :
    xs.eraseReps.Pairwise (· < ·) := by
  cases xs with
  | nil => exact .nil
  | cons x rest =>
    rw [List.eraseReps_cons]
    exact List.compactAfter_increasing sorted

end

end

/-- `slices.Compact` after `slices.Sort`. -/
def compactNames (names : List String) : List String :=
  (sortNames names).eraseReps

theorem mem_compactNames {name : String} {names : List String} :
    name ∈ compactNames names ↔ name ∈ names :=
  List.mem_eraseReps.trans (sortNames_perm names).mem_iff

theorem compactNames_increasing (names : List String) : (compactNames names).Pairwise (· < ·) :=
  (sortNames_sorted names).eraseReps

theorem compactNames_nodup (names : List String) : (compactNames names).Nodup :=
  (compactNames_increasing names).imp fun less => less.ne

/-- The increasing list of the same members. -/
theorem compactNames_eq {names others : List String} (increasing : others.Pairwise (· < ·))
    (same : ∀ name, name ∈ names ↔ name ∈ others) : compactNames names = others := by
  refine List.Perm.eq_of_pairwise (fun _ _ _ _ below above => absurd above (lt_asymm below))
    (compactNames_increasing names) increasing ?_
  refine (List.perm_ext_iff_of_nodup (compactNames_nodup names)
    (increasing.imp fun less => less.ne)).mpr ?_
  intro name
  rw [mem_compactNames, same]

theorem compactNames_congr {names others : List String}
    (same : ∀ name, name ∈ names ↔ name ∈ others) : compactNames names = compactNames others :=
  compactNames_eq (compactNames_increasing others) fun name => by rw [mem_compactNames, same]

/-- The last member of an increasing list is its greatest one. -/
theorem List.Pairwise.getLast?_eq_some_iff {α : Type} [LinearOrder α] {xs : List α} {x : α}
    (increasing : xs.Pairwise (· < ·)) :
    xs.getLast? = some x ↔ x ∈ xs ∧ ∀ other ∈ xs, other ≤ x := by
  induction xs using List.reverseRecOn with
  | nil => simp
  | append_singleton front last _ =>
    obtain ⟨-, -, below⟩ := List.pairwise_append.mp increasing
    have above (other : α) (member : other ∈ front) : other < last :=
      below other member last (List.mem_singleton.mpr rfl)
    rw [List.getLast?_concat, Option.some.injEq]
    constructor
    · rintro rfl
      refine ⟨List.mem_append_right _ (List.mem_singleton.mpr rfl), fun other member => ?_⟩
      rcases List.mem_append.mp member with earlier | same
      · exact (above other earlier).le
      · exact (List.mem_singleton.mp same).le
    · rintro ⟨member, greatest⟩
      rcases List.mem_append.mp member with earlier | same
      · have reached := greatest last (List.mem_append_right _ (List.mem_singleton.mpr rfl))
        exact absurd (above x earlier) (not_lt.mpr reached)
      · exact (List.mem_singleton.mp same).symm
