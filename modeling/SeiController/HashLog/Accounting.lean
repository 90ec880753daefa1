import Mathlib.Algebra.GroupWithZero.Nat
import Mathlib.Data.List.Induction
import SeiController.HashLog.Compare

/-!
# Every height is accounted for

A run of rows and compare calls compares each height that both sides supply once, at the
first call after both rows are there, and counts as gaps the heights between the first and
the last compared one that only one side supplied.
-/

set_option autoImplicit false

namespace SeiController.HashLog

/-! ## Differing columns -/

structure Differing (a b : Columns) (columns : List String) : Prop where
  sorted : columns.Pairwise (· < ·)
  mem_iff : ∀ name, name ∈ columns ↔ a.get name ≠ b.get name

theorem Differing.unique {a b : Columns} {columns columns' : List String}
    (differing : Differing a b columns) (differing' : Differing a b columns') : columns = columns' := by
  have perm : columns.Perm columns' := by
    refine (List.perm_ext_iff_of_nodup (differing.sorted.imp ne_of_lt)
      (differing'.sorted.imp ne_of_lt)).mpr fun name => ?_
    rw [differing.mem_iff, differing'.mem_iff]
  exact perm.eq_of_pairwise (fun _ _ _ _ below above => absurd above (lt_asymm below))
    differing.sorted differing'.sorted

theorem Columns.nodup (columns : Columns) : (columns.entries.map Prod.fst).Nodup :=
  List.Pairwise.imp ne_of_lt columns.sorted

theorem mem_differingColumns {a b : Columns} {name : String} :
    name ∈ differingColumns a b ↔ a.get name ≠ b.get name := by
  unfold differingColumns
  simp only [List.mem_mergeSort, List.mem_append, List.mem_map, List.mem_filter, decide_eq_true_eq,
    Prod.exists, exists_and_right, exists_eq_right]
  constructor
  · rintro (⟨hash, member, differs⟩ | ⟨⟨hash, member⟩, missing⟩)
    · rw [Columns.get, a.sorted.get_of_mem member]
      exact fun same => differs same.symm
    · rw [Option.isNone_iff_eq_none.mp missing, Columns.get, b.sorted.get_of_mem member]
      simp
  · intro differs
    cases found : a.get name with
    | some hash =>
      refine .inl ⟨hash, Assoc.mem_of_get found, ?_⟩
      rw [found] at differs
      exact fun same => differs same.symm
    | none =>
      cases found' : b.get name with
      | none => exact absurd (found.trans found'.symm) differs
      | some hash => exact .inr ⟨⟨hash, Assoc.mem_of_get found'⟩, rfl⟩

theorem differingColumns_nodup (a b : Columns) : (differingColumns a b).Nodup := by
  unfold differingColumns
  rw [(List.mergeSort_perm _ _).nodup_iff, List.nodup_append]
  refine ⟨a.nodup.sublist (List.filter_sublist.map _), b.nodup.sublist (List.filter_sublist.map _), ?_⟩
  intro name inChanged other inExtra same
  subst same
  obtain ⟨⟨_, hash⟩, there, rfl⟩ := List.mem_map.mp inChanged
  obtain ⟨⟨_, hash'⟩, there', rfl⟩ := List.mem_map.mp inExtra
  have held := a.sorted.get_of_mem (List.mem_of_mem_filter there)
  have missing := (List.mem_filter.mp there').2
  simp only [Columns.get, Option.isNone_iff_eq_none] at missing
  simp [held] at missing

theorem differing (a b : Columns) : Differing a b (differingColumns a b) := by
  refine ⟨?_, fun name => mem_differingColumns⟩
  have ordered := @List.pairwise_mergeSort String (fun left right => decide (left ≤ right))
    (fun _ _ _ below above => by simp at below above ⊢; exact le_trans below above)
    (fun left right => by simpa using le_total left right)
  have sorted : (differingColumns a b).Pairwise (· ≤ ·) := by
    simpa [differingColumns] using ordered _
  refine List.Pairwise.imp₂ (fun _ _ le ne => lt_of_le_of_ne le ne) sorted (differingColumns_nodup a b)

theorem differingColumns_eq_nil {a b : Columns} : differingColumns a b = [] ↔ a = b := by
  constructor
  · intro nil
    refine Columns.ext_get fun name => ?_
    by_contra differs
    have member := mem_differingColumns.mpr differs
    rw [nil] at member
    cases member
  · rintro rfl
    rw [List.eq_nil_iff_forall_not_mem]
    intro name member
    exact mem_differingColumns.mp member rfl

/-! ## A compare call -/

def Side.other : Side → Side
  | .migrating => .reserve
  | .reserve => .migrating

def CompareResult.gaps (result : CompareResult) : Side → Nat
  | .migrating => result.migratingGaps
  | .reserve => result.reserveGaps

theorem get_delete (buf : Buffer) (height height' : Int) :
    Assoc.get height' (delete buf height) = if height' = height then none else Assoc.get height' buf := by
  rw [delete, Assoc.get_filter fun row => decide (row ≠ height)]
  by_cases same : height' = height <;> simp [same]

variable {height : Int} {ops : List Op} {side : Side} {hashes : Columns}

theorem rowAt_delete {buf : Buffer} {height' : Int} (other : height' ≠ height) :
    rowAt (delete buf height) height' = rowAt buf height' := by
  rw [rowAt, rowAt, get_delete, if_neg other]

structure Looped (p : PairState) (heights : List Int) (res : CompareResult)
    (out : PairState × CompareResult) : Prop where
  migrating : out.1.migrating = p.migrating.filter fun row => row.1 ∉ heights
  reserve : out.1.reserve = p.reserve.filter fun row => row.1 ∉ heights
  first : out.1.firstCompared = if p.firstCompared = 0 then heights.head?.getD 0 else p.firstCompared
  last : out.1.lastCompared = heights.getLast?.getD p.lastCompared
  compared : out.2.compared = res.compared + heights.length
  mismatches : out.2.mismatches = res.mismatches ++ heights.filterMap p.mismatchAt

theorem filter_delete (buf : Buffer) (height : Int) (heights : List Int) :
    (delete buf height).filter (fun row => row.1 ∉ heights) =
      buf.filter fun row => row.1 ∉ height :: heights := by
  rw [delete, List.filter_filter]
  refine List.filter_congr fun row _ => ?_
  by_cases same : row.1 = height <;> simp [same]

theorem foldl_compareHeight {heights : List Int} (nodup : heights.Nodup)
    (positive : ∀ height ∈ heights, height ≠ 0) (p : PairState) (res : CompareResult) :
    Looped p heights res (heights.foldl PairState.compareHeight (p, res)) := by
  induction heights generalizing p res with
  | nil =>
    refine ⟨by simp, by simp, ?_, rfl, rfl, by simp⟩
    split
    next zero => exact zero
    next => rfl
  | cons height rest ih =>
    rw [List.nodup_cons] at nodup
    obtain ⟨here, there⟩ := List.forall_mem_cons.mp positive
    rw [List.foldl_cons]
    have step := ih nodup.2 there (PairState.compareHeight (p, res) height).1
      (PairState.compareHeight (p, res) height).2
    have rest_mismatches : rest.filterMap (PairState.compareHeight (p, res) height).1.mismatchAt =
        rest.filterMap p.mismatchAt := by
      refine List.filterMap_congr fun other member => ?_
      have differ : other ≠ height := fun same => nodup.1 (same ▸ member)
      simp only [PairState.mismatchAt, PairState.compareHeight, rowAt_delete differ]
    refine ⟨?_, ?_, ?_, ?_, ?_, ?_⟩
    · rw [step.migrating]
      exact filter_delete p.migrating height rest
    · rw [step.reserve]
      exact filter_delete p.reserve height rest
    · rw [step.first]
      by_cases zero : p.firstCompared = 0
      · simp [PairState.compareHeight, zero, here]
      · simp [PairState.compareHeight, zero]
    · rw [step.last]
      cases rest <;> simp [PairState.compareHeight, List.getLast?_cons]
    · rw [step.compared, List.length_cons]
      simp only [PairState.compareHeight]
      omega
    · rw [step.mismatches, rest_mismatches, List.filterMap_cons]
      cases found : p.mismatchAt height <;> simp [PairState.compareHeight, found]

/-! ## The shared heights -/

theorem mem_sharedHeights {p : PairState} :
    height ∈ p.sharedHeights ↔ ∀ side, (Assoc.get height (p.buffer side)).isSome = true := by
  rw [PairState.sharedHeights, List.mem_mergeSort, List.mem_filter, ← Assoc.isSome_get]
  constructor
  · rintro ⟨migrating, reserve⟩ side
    cases side
    · exact migrating
    · exact reserve
  · intro both
    exact ⟨both .migrating, both .reserve⟩

theorem sharedHeights_sorted {p : PairState} (sorted : Assoc.Sorted p.migrating) :
    p.sharedHeights.Pairwise (· < ·) := by
  have ordered : p.sharedHeights.Pairwise (· ≤ ·) := by
    have merged := @List.pairwise_mergeSort Int (fun left right => decide (left ≤ right))
      (fun _ _ _ below above => by simp at below above ⊢; omega) (fun _ _ => by simp; omega)
    simpa [PairState.sharedHeights] using merged _
  have nodup : p.sharedHeights.Nodup := by
    rw [PairState.sharedHeights, (List.mergeSort_perm _ _).nodup_iff]
    exact (List.Pairwise.imp ne_of_lt sorted).sublist List.filter_sublist
  exact List.Pairwise.imp₂ (fun _ _ le ne => lt_of_le_of_ne le ne) ordered nodup

structure Called (p : PairState) (out : PairState × CompareResult) : Prop where
  buffer : ∀ side, out.1.buffer side = (p.buffer side).filter fun row =>
    row.1 ∉ p.sharedHeights ∧ out.1.lastCompared < row.1
  first : out.1.firstCompared =
    if p.firstCompared = 0 then p.sharedHeights.head?.getD 0 else p.firstCompared
  last : out.1.lastCompared = p.sharedHeights.getLast?.getD p.lastCompared
  compared : out.2.compared = p.sharedHeights.length
  mismatches : out.2.mismatches = p.sharedHeights.filterMap p.mismatchAt
  gaps : ∀ side, out.2.gaps side = ((p.buffer side.other).filter fun row =>
    row.1 ∉ p.sharedHeights ∧ out.1.firstCompared < row.1 ∧ row.1 ≤ out.1.lastCompared).length

theorem prune_filter (p : PairState) (buf : Buffer) (heights : List Int) :
    p.prune (buf.filter fun row => row.1 ∉ heights) =
      ((buf.filter fun row =>
          row.1 ∉ heights ∧ p.firstCompared < row.1 ∧ row.1 ≤ p.lastCompared).length,
        buf.filter fun row => row.1 ∉ heights ∧ p.lastCompared < row.1) := by
  rw [PairState.prune, List.filter_filter, List.filter_filter, Prod.mk.injEq]
  constructor
  · refine congrArg List.length (List.filter_congr fun row _ => ?_)
    simp [and_comm]
  · refine List.filter_congr fun row _ => ?_
    simp [and_comm]

theorem compare_called {p : PairState} (nodup : p.sharedHeights.Nodup)
    (positive : ∀ height ∈ p.sharedHeights, height ≠ 0) : Called p p.compare := by
  have looped := foldl_compareHeight nodup positive p ⟨0, [], 0, 0⟩
  unfold PairState.compare
  generalize p.sharedHeights.foldl PairState.compareHeight (p, ⟨0, [], 0, 0⟩) = out at looped
  obtain ⟨p', res⟩ := out
  have migrating : p'.migrating = p.migrating.filter fun row => row.1 ∉ p.sharedHeights :=
    looped.migrating
  have reserve : p'.reserve = p.reserve.filter fun row => row.1 ∉ p.sharedHeights := looped.reserve
  simp only [migrating, reserve, prune_filter]
  refine ⟨fun side => ?_, looped.first, looped.last, by simpa using looped.compared,
    by simpa using looped.mismatches, fun side => ?_⟩
  · cases side <;> rfl
  · cases side <;> rfl

/-! ## What the sides have supplied -/

theorem rows_append_add (side side' : Side) (ops : List Op) (height : Int) (hashes : Columns) :
    rows side (ops ++ [.add side' height hashes]) =
      rows side ops ++ if side' = side then [(height, hashes)] else [] := by
  induction ops with
  | nil =>
    simp only [List.nil_append, rows]
  | cons op ops ih =>
    cases op with
    | compare => exact ih
    | add side'' height' hashes' =>
      rw [List.cons_append, rows, rows, ih]
      split <;> simp

theorem rows_append_compare (side : Side) (ops : List Op) :
    rows side (ops ++ [.compare]) = rows side ops := by
  induction ops with
  | nil => rfl
  | cons op ops ih =>
    cases op with
    | compare => exact ih
    | add side' height hashes =>
      rw [List.cons_append, rows, rows, ih]

theorem heights_append_add (side side' : Side) (ops : List Op) (height : Int) (hashes : Columns) :
    heights side (ops ++ [.add side' height hashes]) =
      heights side ops ++ if side' = side then [height] else [] := by
  rw [heights, rows_append_add, List.map_append, ← heights]
  split <;> rfl

theorem heights_append_compare (side : Side) (ops : List Op) :
    heights side (ops ++ [.compare]) = heights side ops := by
  rw [heights, rows_append_compare, ← heights]

theorem Orderly.of_append {op : Op} (orderly : Orderly (ops ++ [op])) : Orderly ops := by
  intro side
  have here := orderly side
  cases op with
  | compare => rwa [heights_append_compare] at here
  | add side' height hashes =>
    rw [heights_append_add, List.pairwise_append] at here
    exact ⟨here.1.1, fun height member => here.2 height (List.mem_append_left _ member)⟩

/-- A new row is above all rows of its side. -/
theorem Orderly.above (orderly : Orderly (ops ++ [.add side height hashes])) :
    1 ≤ height ∧ ∀ height' ∈ heights side ops, height' < height := by
  have here := orderly side
  rw [heights_append_add, if_pos rfl, List.pairwise_append] at here
  exact ⟨here.2 height (by simp), fun height' member => here.1.2.2 height' member height (by simp)⟩

theorem Fits.of_append {op : Op} (fits : Fits (ops ++ [op])) : Fits ops := by
  intro before side height hashes later split
  exact fits before side height hashes (later ++ [op]) (by rw [split]; simp)

theorem progress_append (ops : List Op) (op : Op) :
    progress (ops ++ [op]) = (progress ops).advance op := by
  rw [progress, List.foldl_append]
  rfl

/-! ## The invariant of a run -/

/-- The heights between two heights that only the other side supplied. -/
def skipped (ops : List Op) (first last : Int) (side : Side) : List Int :=
  (heights side.other ops).filter fun height =>
    first < height ∧ height < last ∧ height ∉ heights side ops

/-- What the buffers hold and what was compared and counted, in terms of the rows supplied. -/
structure Accounts (ops : List Op) (s : Progress) : Prop where
  sorted : ∀ side, Assoc.Sorted (s.pair.buffer side)
  held : ∀ side height hashes, Assoc.get height (s.pair.buffer side) = some hashes ↔
    (height, hashes) ∈ rows side ops ∧ s.pair.lastCompared < height
  increasing : s.compared.Pairwise (· < ·)
  compared : ∀ height, height ∈ s.compared ↔
    (∀ side, height ∈ heights side ops) ∧ height ≤ s.pair.lastCompared
  first : s.pair.firstCompared = s.compared.head?.getD 0
  last : s.pair.lastCompared = s.compared.getLast?.getD 0
  gaps : ∀ side, (s.results.map fun result => result.gaps side).sum =
    (skipped ops s.pair.firstCompared s.pair.lastCompared side).length

namespace Accounts

variable {s : Progress}

theorem start : Accounts [] (progress []) := by
  refine ⟨?_, ?_, .nil, ?_, rfl, rfl, ?_⟩
  · intro side
    cases side <;> exact Assoc.sorted_nil
  · intro side height hashes
    cases side <;> simp [progress, newPairState, PairState.buffer, rows]
  · intro height
    constructor
    · intro member
      cases member
    · rintro ⟨both, -⟩
      cases both .migrating
  · intro side
    cases side <;> rfl

theorem last_mem (accounts : Accounts ops s) :
    s.pair.lastCompared = 0 ∨ ∀ side, s.pair.lastCompared ∈ heights side ops := by
  have last := accounts.last
  cases found : s.compared.getLast? with
  | none =>
    rw [found] at last
    exact .inl last
  | some height =>
    rw [found, Option.getD_some] at last
    have member := List.mem_of_getLast? found
    rw [← last] at member
    exact .inr ((accounts.compared _).mp member).1

theorem last_lt (accounts : Accounts ops s) (orderly : Orderly (ops ++ [.add side height hashes])) :
    s.pair.lastCompared < height := by
  obtain ⟨positive, above⟩ := orderly.above
  rcases accounts.last_mem with none_ | both
  · omega
  · exact above _ (both side)

theorem skipped_append_add {first last : Int} (beyond : last < height) (side side' : Side)
    (hashes : Columns) :
    skipped (ops ++ [.add side' height hashes]) first last side = skipped ops first last side := by
  unfold skipped
  rw [heights_append_add, heights_append_add, List.filter_append]
  have new : (if side' = side.other then [height] else []).filter (fun height' => decide
      (first < height' ∧ height' < last ∧
        height' ∉ heights side ops ++ if side' = side then [height] else []))
      = [] := by
    rw [List.filter_eq_nil_iff]
    intro height' member
    have same : height' = height := by
      split at member
      · exact List.mem_singleton.mp member
      · cases member
    simp only [decide_eq_true_eq]
    omega
  rw [new, List.append_nil]
  refine List.filter_congr fun height' _ => ?_
  rw [decide_eq_decide]
  constructor
  · rintro ⟨above, below, outside⟩
    exact ⟨above, below, fun member => outside (List.mem_append_left _ member)⟩
  · rintro ⟨above, below, outside⟩
    refine ⟨above, below, fun member => ?_⟩
    rcases List.mem_append.mp member with old | new
    · exact outside old
    · split at new
      · have same := List.mem_singleton.mp new
        omega
      · cases new

theorem buffer_add (accounts : Accounts ops s)
    (orderly : Orderly (ops ++ [.add side height hashes]))
    (fits : (Assoc.set height hashes (s.pair.buffer side)).length ≤ maxBufferedRows) (side' : Side) :
    (s.pair.add side height hashes).buffer side' =
      if side' = side then Assoc.set height hashes (s.pair.buffer side) else s.pair.buffer side' := by
  have beyond := accounts.last_lt orderly
  have added : addRow s.pair.lastCompared (s.pair.buffer side) height hashes =
      Assoc.set height hashes (s.pair.buffer side) := by
    rw [addRow, if_neg (by omega)]
    exact if_neg (by omega)
  cases side <;> cases side' <;> first | exact added | rfl

theorem add (accounts : Accounts ops s) (orderly : Orderly (ops ++ [.add side height hashes]))
    (fits : (Assoc.set height hashes (s.pair.buffer side)).length ≤ maxBufferedRows) :
    Accounts (ops ++ [.add side height hashes]) (s.advance (.add side height hashes)) := by
  have beyond := accounts.last_lt orderly
  have buffers := accounts.buffer_add orderly fits
  have same : (s.pair.add side height hashes).lastCompared = s.pair.lastCompared := by cases side <;> rfl
  have same' : (s.pair.add side height hashes).firstCompared = s.pair.firstCompared := by
    cases side <;> rfl
  refine ⟨?_, ?_, accounts.increasing, ?_, same'.trans accounts.first, same.trans accounts.last, ?_⟩
  · intro side'
    show Assoc.Sorted ((s.pair.add side height hashes).buffer side')
    rw [buffers]
    split
    · exact (accounts.sorted side).set height hashes
    · exact accounts.sorted side'
  · intro side' height' hashes'
    show Assoc.get height' ((s.pair.add side height hashes).buffer side') = some hashes' ↔ _
    rw [buffers, rows_append_add]
    show _ ↔ _ ∧ (s.pair.add side height hashes).lastCompared < height'
    rw [same]
    by_cases here : side = side'
    · subst here
      rw [if_pos rfl, if_pos rfl, Assoc.get_set, List.mem_append, List.mem_singleton, Prod.mk.injEq]
      by_cases new : height' = height
      · subst new
        rw [if_pos rfl, Option.some.injEq]
        constructor
        · rintro rfl
          exact ⟨.inr ⟨rfl, rfl⟩, beyond⟩
        · rintro ⟨old | ⟨-, same⟩, -⟩
          · exact absurd (orderly.above.2 _ (List.mem_map_of_mem old)) (lt_irrefl _)
          · exact same.symm
      · rw [if_neg new, accounts.held]
        simp [new]
    · rw [if_neg (Ne.symm here), if_neg here, List.append_nil, accounts.held]
  · intro height'
    show height' ∈ s.compared ↔ _ ∧ height' ≤ (s.pair.add side height hashes).lastCompared
    rw [same, accounts.compared]
    constructor
    · rintro ⟨both, old⟩
      refine ⟨fun side' => ?_, old⟩
      rw [heights_append_add]
      exact List.mem_append_left _ (both side')
    · rintro ⟨both, old⟩
      refine ⟨fun side' => ?_, old⟩
      have there := both side'
      rw [heights_append_add] at there
      rcases List.mem_append.mp there with there | new
      · exact there
      · split at new
        · have new := List.mem_singleton.mp new
          omega
        · cases new
  · intro side'
    show (s.results.map fun result => result.gaps side').sum = (skipped _
      (s.pair.add side height hashes).firstCompared (s.pair.add side height hashes).lastCompared _).length
    rw [same, same', skipped_append_add beyond]
    exact accounts.gaps side'

/-- The shared heights are those both sides supplied that were not compared yet. -/
theorem mem_shared (accounts : Accounts ops s) :
    height ∈ s.pair.sharedHeights ↔
      (∀ side, height ∈ heights side ops) ∧ s.pair.lastCompared < height := by
  rw [mem_sharedHeights]
  have one (side : Side) : (Assoc.get height (s.pair.buffer side)).isSome = true ↔
      height ∈ heights side ops ∧ s.pair.lastCompared < height := by
    rw [Option.isSome_iff_exists]
    simp only [accounts.held]
    rw [heights, List.mem_map]
    constructor
    · rintro ⟨hashes, member, beyond⟩
      exact ⟨⟨_, member, rfl⟩, beyond⟩
    · rintro ⟨⟨⟨_, hashes⟩, member, rfl⟩, beyond⟩
      exact ⟨hashes, member, beyond⟩
  simp only [one]
  exact ⟨fun both => ⟨fun side => (both side).1, (both .migrating).2⟩,
    fun both side => ⟨both.1 side, both.2⟩⟩

theorem shared_sorted (accounts : Accounts ops s) : s.pair.sharedHeights.Pairwise (· < ·) :=
  sharedHeights_sorted (accounts.sorted .migrating)

theorem increasing_append (accounts : Accounts ops s) :
    (s.compared ++ s.pair.sharedHeights).Pairwise (· < ·) := by
  rw [List.pairwise_append]
  refine ⟨accounts.increasing, accounts.shared_sorted, fun height member height' member' => ?_⟩
  have old := ((accounts.compared height).mp member).2
  have new := (accounts.mem_shared.mp member').2
  omega

theorem compared_append (accounts : Accounts ops s) :
    height ∈ s.compared ++ s.pair.sharedHeights ↔ ∀ side, height ∈ heights side ops := by
  rw [List.mem_append, accounts.compared, accounts.mem_shared]
  constructor
  · rintro (⟨both, -⟩ | ⟨both, -⟩)
    · exact both
    · exact both
  · intro both
    rcases lt_or_ge s.pair.lastCompared height with new | old
    · exact .inr ⟨both, new⟩
    · exact .inl ⟨both, old⟩

theorem called (accounts : Accounts ops s) (orderly : Orderly ops) : Called s.pair s.pair.compare := by
  refine compare_called (accounts.shared_sorted.imp ne_of_lt) fun height member => ?_
  have positive := (orderly .migrating).2 height ((accounts.mem_shared.mp member).1 .migrating)
  omega

theorem last_after (accounts : Accounts ops s) (orderly : Orderly ops) :
    s.pair.compare.1.lastCompared = (s.compared ++ s.pair.sharedHeights).getLast?.getD 0 := by
  rw [(accounts.called orderly).last, accounts.last, List.getLast?_append]
  cases s.pair.sharedHeights.getLast? <;> rfl

theorem first_after (accounts : Accounts ops s) (orderly : Orderly ops) :
    s.pair.compare.1.firstCompared = (s.compared ++ s.pair.sharedHeights).head?.getD 0 := by
  rw [(accounts.called orderly).first, accounts.first, List.head?_append]
  cases found : s.compared.head? with
  | none => simp
  | some height =>
    have both := ((accounts.compared height).mp (List.mem_of_head? found)).1
    have positive := (orderly .migrating).2 height (both .migrating)
    simp only [Option.getD_some, Option.some_or]
    rw [if_neg (by omega)]

/-- No compared height is above the last one. -/
theorem le_last_after (accounts : Accounts ops s) (orderly : Orderly ops)
    (member : height ∈ s.compared ++ s.pair.sharedHeights) :
    height ≤ s.pair.compare.1.lastCompared := by
  rw [accounts.last_after orderly]
  have increasing := accounts.increasing_append
  generalize s.compared ++ s.pair.sharedHeights = all at member increasing
  induction all using List.reverseRecOn with
  | nil => cases member
  | append_singleton all last _ =>
    rw [List.getLast?_concat, Option.getD_some]
    rcases List.mem_append.mp member with earlier | here
    · rw [List.pairwise_append] at increasing
      exact le_of_lt (increasing.2.2 height earlier last (List.mem_singleton.mpr rfl))
    · exact le_of_eq (List.mem_singleton.mp here)

theorem last_mono (accounts : Accounts ops s) (orderly : Orderly ops) :
    s.pair.lastCompared ≤ s.pair.compare.1.lastCompared := by
  rw [(accounts.called orderly).last]
  cases found : s.pair.sharedHeights.getLast? with
  | none => exact le_refl _
  | some height => exact le_of_lt (accounts.mem_shared.mp (List.mem_of_getLast? found)).2

theorem last_after_mem (accounts : Accounts ops s) (orderly : Orderly ops) :
    s.pair.compare.1.lastCompared = s.pair.lastCompared ∨
      ∀ side, s.pair.compare.1.lastCompared ∈ heights side ops := by
  rw [(accounts.called orderly).last]
  cases found : s.pair.sharedHeights.getLast? with
  | none => exact .inl rfl
  | some height => exact .inr (accounts.mem_shared.mp (List.mem_of_getLast? found)).1

theorem mem_filter_buffer (accounts : Accounts ops s) {p : Int → Prop} [DecidablePred p] :
    height ∈ ((s.pair.buffer side).filter fun row => p row.1).map Prod.fst ↔
      height ∈ heights side ops ∧ s.pair.lastCompared < height ∧ p height := by
  rw [List.mem_map, heights, List.mem_map]
  constructor
  · rintro ⟨⟨_, hashes⟩, member, rfl⟩
    obtain ⟨there, holds⟩ := List.mem_filter.mp member
    obtain ⟨row, beyond⟩ := (accounts.held side _ hashes).mp ((accounts.sorted side).get_of_mem there)
    exact ⟨⟨_, row, rfl⟩, beyond, of_decide_eq_true holds⟩
  · rintro ⟨⟨⟨_, hashes⟩, row, rfl⟩, beyond, holds⟩
    refine ⟨⟨_, hashes⟩, List.mem_filter.mpr ⟨?_, decide_eq_true holds⟩, rfl⟩
    exact Assoc.mem_of_get ((accounts.held side _ hashes).mpr ⟨row, beyond⟩)

theorem gaps_called (accounts : Accounts ops s) (orderly : Orderly ops) (side : Side) :
    s.pair.compare.2.gaps side =
      ((skipped ops s.pair.compare.1.firstCompared s.pair.compare.1.lastCompared side).filter
        fun height => s.pair.lastCompared < height).length := by
  rw [(accounts.called orderly).gaps side, skipped, List.filter_filter]
  have nodup := List.Pairwise.imp ne_of_lt (accounts.sorted side.other)
  have nodup' : (heights side.other ops).Nodup := List.Pairwise.imp ne_of_lt (orderly side.other).1
  rw [← List.length_map Prod.fst]
  refine List.Perm.length_eq ((List.perm_ext_iff_of_nodup (nodup.sublist (List.filter_sublist.map _))
    (nodup'.filter _)).mpr fun height => ?_)
  have shared : height ∈ s.pair.sharedHeights ↔ _ := accounts.mem_shared
  refine (accounts.mem_filter_buffer (p := fun height => height ∉ s.pair.sharedHeights ∧
    s.pair.compare.1.firstCompared < height ∧ height ≤ s.pair.compare.1.lastCompared)).trans ?_
  simp only [List.mem_filter, Bool.and_eq_true, decide_eq_true_eq]
  constructor
  · rintro ⟨member, beyond, unshared, above, below⟩
    have alone : height ∉ heights side ops := by
      intro other
      refine unshared (shared.mpr ⟨fun side' => ?_, beyond⟩)
      cases side <;> cases side' <;> assumption
    refine ⟨member, beyond, above, lt_of_le_of_ne below fun same => ?_, alone⟩
    rcases accounts.last_after_mem orderly with unchanged | both
    · omega
    · exact alone (same ▸ both side)
  · rintro ⟨member, beyond, above, below, alone⟩
    exact ⟨member, beyond, fun there => alone ((shared.mp there).1 side), above, le_of_lt below⟩

/-- The gaps that were counted before are those up to the last height compared before. -/
theorem skipped_before (accounts : Accounts ops s) (orderly : Orderly ops) (side : Side) :
    (skipped ops s.pair.compare.1.firstCompared s.pair.compare.1.lastCompared side).filter
        (fun height => !decide (s.pair.lastCompared < height)) =
      skipped ops s.pair.firstCompared s.pair.lastCompared side := by
  rw [skipped, List.filter_filter, skipped]
  refine List.filter_congr fun height member => ?_
  have positive := (orderly side.other).2 height member
  have longer := accounts.last_mono orderly
  rw [Bool.eq_iff_iff]
  simp only [Bool.and_eq_true, Bool.not_eq_true', decide_eq_true_eq, decide_eq_false_iff_not, not_lt]
  rcases accounts.last_mem with none_ | both
  · -- nothing was compared before
    have never : ¬ (s.pair.firstCompared < height ∧ height < s.pair.lastCompared) := by omega
    constructor
    · rintro ⟨old, -⟩
      omega
    · rintro ⟨above, below, -⟩
      exact absurd ⟨above, below⟩ never
  · have started : s.pair.compare.1.firstCompared = s.pair.firstCompared := by
      have there := (accounts.compared s.pair.lastCompared).mpr ⟨both, le_refl _⟩
      obtain ⟨height', rest, split⟩ := List.exists_cons_of_ne_nil (List.ne_nil_of_mem there)
      rw [accounts.first_after orderly, accounts.first, split]
      rfl
    rw [started]
    constructor
    · rintro ⟨old, above, -, alone⟩
      exact ⟨above, lt_of_le_of_ne old fun same => alone (same ▸ both side), alone⟩
    · rintro ⟨above, below, alone⟩
      exact ⟨le_of_lt below, above, lt_of_lt_of_le below longer, alone⟩

theorem compare (accounts : Accounts ops s) (orderly : Orderly ops) :
    Accounts (ops ++ [.compare]) (s.advance .compare) := by
  have called := accounts.called orderly
  have longer := accounts.last_mono orderly
  refine ⟨?_, ?_, accounts.increasing_append, ?_, accounts.first_after orderly,
    accounts.last_after orderly, ?_⟩
  · intro side
    show Assoc.Sorted (s.pair.compare.1.buffer side)
    rw [called.buffer]
    exact (accounts.sorted side).filter _
  · intro side height hashes
    show Assoc.get height (s.pair.compare.1.buffer side) = some hashes ↔
      _ ∧ s.pair.compare.1.lastCompared < height
    rw [called.buffer, rows_append_compare, Assoc.get_filter fun height => decide
      (height ∉ s.pair.sharedHeights ∧ s.pair.compare.1.lastCompared < height)]
    constructor
    · intro found
      split at found
      next kept =>
        simp only [decide_eq_true_eq] at kept
        exact ⟨((accounts.held side height hashes).mp found).1, kept.2⟩
      next => cases found
    · rintro ⟨row, beyond⟩
      have unshared : height ∉ s.pair.sharedHeights := fun there =>
        absurd (accounts.le_last_after orderly (List.mem_append_right _ there)) (not_le_of_gt beyond)
      rw [if_pos (by simp [unshared, beyond])]
      exact (accounts.held side height hashes).mpr ⟨row, by omega⟩
  · intro height
    show height ∈ s.compared ++ s.pair.sharedHeights ↔ _ ∧ height ≤ s.pair.compare.1.lastCompared
    simp only [heights_append_compare]
    rw [accounts.compared_append]
    exact ⟨fun both => ⟨both, accounts.le_last_after orderly (accounts.compared_append.mpr both)⟩,
      fun both => both.1⟩
  · intro side
    show ((s.results ++ [s.pair.compare.2]).map fun result => result.gaps side).sum =
      (skipped (ops ++ [.compare]) s.pair.compare.1.firstCompared s.pair.compare.1.lastCompared
        side).length
    have total := @List.length_eq_length_filter_add Int
      (skipped ops s.pair.compare.1.firstCompared s.pair.compare.1.lastCompared side)
      fun height => decide (s.pair.lastCompared < height)
    rw [accounts.skipped_before orderly, ← accounts.gaps_called orderly, ← accounts.gaps] at total
    have same : skipped (ops ++ [.compare]) s.pair.compare.1.firstCompared
        s.pair.compare.1.lastCompared side = skipped ops s.pair.compare.1.firstCompared
        s.pair.compare.1.lastCompared side := by
      rw [skipped, heights_append_compare, heights_append_compare, ← skipped]
    rw [same, total, List.map_append, List.sum_append, List.map_singleton, List.sum_singleton,
      Nat.add_comm]

end Accounts

theorem progress_accounts (orderly : Orderly ops) (fits : Fits ops) :
    Accounts ops (progress ops) := by
  induction ops using List.reverseRecOn with
  | nil => exact .start
  | append_singleton ops op ih =>
    have accounts := ih orderly.of_append fits.of_append
    rw [progress_append]
    cases op with
    | compare => exact accounts.compare orderly.of_append
    | add side height hashes => exact accounts.add orderly (fits ops side height hashes [] rfl)

/-! ## The results of a call -/

theorem rowAt_shared {s : Progress} (accounts : Accounts ops s)
    (shared : height ∈ s.pair.sharedHeights) (side : Side) :
    (height, rowAt (s.pair.buffer side) height) ∈ rows side ops := by
  obtain ⟨hashes, found⟩ := Option.isSome_iff_exists.mp (mem_sharedHeights.mp shared side)
  rw [rowAt, found, Option.getD_some]
  exact ((accounts.held side height hashes).mp found).1

theorem Orderly.row_unique (orderly : Orderly ops) {hashes' : Columns}
    (row : (height, hashes) ∈ rows side ops) (row' : (height, hashes') ∈ rows side ops) :
    hashes = hashes' := by
  have nodup : ((rows side ops).map Prod.fst).Nodup := List.Pairwise.imp ne_of_lt (orderly side).1
  have same := List.inj_on_of_nodup_map nodup row row' rfl
  exact congrArg Prod.snd same

theorem mem_mismatches {s : Progress} (accounts : Accounts ops s) (orderly : Orderly ops)
    {mismatch : Mismatch} :
    mismatch ∈ s.pair.compare.2.mismatches ↔
      mismatch.height ∈ s.pair.sharedHeights ∧ ∃ hashes hashes',
        (mismatch.height, hashes) ∈ rows .migrating ops ∧
        (mismatch.height, hashes') ∈ rows .reserve ops ∧
        hashes ≠ hashes' ∧ Differing hashes hashes' mismatch.columns := by
  rw [(accounts.called orderly).mismatches, List.mem_filterMap]
  constructor
  · rintro ⟨height, shared, found⟩
    have migrating := rowAt_shared accounts shared .migrating
    have reserve := rowAt_shared accounts shared .reserve
    unfold PairState.mismatchAt at found
    dsimp only at found
    split at found
    next some_ =>
      cases found
      refine ⟨shared, _, _, migrating, reserve, fun same => ?_, differing _ _⟩
      have nil : differingColumns (rowAt s.pair.migrating height) (rowAt s.pair.reserve height) = [] :=
        differingColumns_eq_nil.mpr same
      simp [nil] at some_
    next => cases found
  · rintro ⟨shared, hashes, hashes', row, row', differ, columns⟩
    refine ⟨mismatch.height, shared, ?_⟩
    have migrating := orderly.row_unique (rowAt_shared accounts shared .migrating) row
    have reserve := orderly.row_unique (rowAt_shared accounts shared .reserve) row'
    have same := columns.unique (differing hashes hashes')
    have some_ : (differingColumns hashes hashes').length > 0 :=
      List.length_pos_of_ne_nil fun nil => differ (differingColumns_eq_nil.mp nil)
    unfold PairState.mismatchAt
    rw [show rowAt s.pair.migrating mismatch.height = hashes from migrating,
      show rowAt s.pair.reserve mismatch.height = hashes' from reserve]
    dsimp only
    rw [if_pos some_, ← same]

theorem mismatches_sorted {s : Progress} (accounts : Accounts ops s) (orderly : Orderly ops) :
    (s.pair.compare.2.mismatches.map Mismatch.height).Pairwise (· < ·) := by
  rw [(accounts.called orderly).mismatches]
  have sorted := accounts.shared_sorted
  have height_of {height : Int} {mismatch : Mismatch}
      (found : s.pair.mismatchAt height = some mismatch) : mismatch.height = height := by
    unfold PairState.mismatchAt at found
    dsimp only at found
    split at found
    · cases found
      rfl
    · cases found
  rw [List.pairwise_map, List.pairwise_filterMap]
  refine sorted.imp fun below mismatch found mismatch' found' => ?_
  rw [height_of found, height_of found']
  exact below

/-- A compare call after any orderly run that fits: by then exactly the heights both sides have
supplied are compared, each once and in order; the call reports a height as a mismatch exactly
when the rows differ, with exactly the differing columns; and the gaps counted for a side so
far are the heights between the first and the last compared one that only the other side
supplied. -/
theorem compare_accounts_for_every_height {ops : List Op} (orderly : Orderly ops) (fits : Fits ops) :
    let found := (progress ops).pair
    let done := progress (ops ++ [.compare])
    done.compared = (progress ops).compared ++ found.sharedHeights ∧
    done.results = (progress ops).results ++ [found.compare.2] ∧
    (∀ height, height ∈ done.compared ↔ ∀ side, height ∈ heights side ops) ∧
    done.compared.Pairwise (· < ·) ∧
    found.compare.2.compared = found.sharedHeights.length ∧
    (∀ mismatch, mismatch ∈ found.compare.2.mismatches ↔
      mismatch.height ∈ found.sharedHeights ∧ ∃ hashes hashes',
        (mismatch.height, hashes) ∈ rows .migrating ops ∧
        (mismatch.height, hashes') ∈ rows .reserve ops ∧
        hashes ≠ hashes' ∧ Differing hashes hashes' mismatch.columns) ∧
    (found.compare.2.mismatches.map Mismatch.height).Pairwise (· < ·) ∧
    done.pair.firstCompared = done.compared.head?.getD 0 ∧
    done.pair.lastCompared = done.compared.getLast?.getD 0 ∧
    ∀ side, (done.results.map fun result => result.gaps side).sum =
      (skipped ops done.pair.firstCompared done.pair.lastCompared side).length := by
  have accounts := progress_accounts orderly fits
  have next := accounts.compare orderly
  intro found done
  have advanced : done = (progress ops).advance .compare := progress_append ops .compare
  rw [advanced]
  refine ⟨rfl, rfl, fun height => accounts.compared_append, accounts.increasing_append,
    (accounts.called orderly).compared, fun mismatch => mem_mismatches accounts orderly,
    mismatches_sorted accounts orderly, next.first, next.last, fun side => ?_⟩
  rw [next.gaps side, skipped, heights_append_compare, heights_append_compare, ← skipped]

/-! A run with a gap of the reserve and a mismatch. -/

def appHash (hash : String) : Columns :=
  ⟨[("memIAVL/mod/bank", hash)], List.pairwise_singleton _ _⟩

def sampleRun : List Op :=
  [.add .migrating 1 (appHash "x"), .add .reserve 1 (appHash "x"), .add .migrating 2 (appHash "y"),
    .add .migrating 3 (appHash "z"), .add .reserve 3 (appHash "w")]

theorem sampleRun_orderly : Orderly sampleRun := by
  intro side
  cases side <;> exact ⟨by decide, by decide⟩

theorem sampleRun_fits : Fits sampleRun := by
  intro before side height hashes later split
  match before with
  | [] | [_] | [_, _] | [_, _, _] | [_, _, _, _] =>
    cases split
    decide
  | _ :: _ :: _ :: _ :: _ :: _ => simp [sampleRun] at split

theorem sampleRun_accounted :
    3 ∈ (progress (sampleRun ++ [.compare])).compared ∧
      2 ∉ (progress (sampleRun ++ [.compare])).compared := by
  obtain ⟨-, -, compared, -⟩ := compare_accounts_for_every_height sampleRun_orderly sampleRun_fits
  refine ⟨(compared 3).mpr fun side => ?_, fun member => ?_⟩
  · cases side <;> decide
  · exact absurd ((compared 2).mp member .reserve) (by decide)

end SeiController.HashLog
