import Mathlib.Data.List.Perm.Basic
import Mathlib.Data.List.Sort
import SeiController.Lib.MergePatch

/-!
# Writing values at paths

A write puts a value at a path of keys below a tree.  It goes through tables, makes one
where nothing or a null stands, and is refused at any other value on the way.  A list of
writes is carried out in an order, and the result says for which lists the order does not
matter.
-/

set_option autoImplicit false

namespace Json

/-- The entries a path goes on in. -/
def openFields : Json → Option (List (String × Json))
  | null => some []
  | obj fields => some fields
  | _ => none

def entries (tree : Json) : List (String × Json) :=
  tree.openFields.getD []

def child (tree : Json) (key : String) : Json :=
  (Assoc.get key tree.entries).getD null

def opens : Json → List String → Bool
  | _, [] => true
  | tree, key :: path => tree.openFields.isSome && (tree.child key).opens path

def place (value : Json) : List String → Json → Json
  | [], _ => value
  | key :: path, tree => obj (Assoc.set key (place value path (tree.child key)) tree.entries)

/-! ## One write -/

@[simp] theorem opens_nil (tree : Json) : tree.opens [] = true := by
  cases tree <;> rfl

theorem opens_cons (tree : Json) (key : String) (path : List String) :
    tree.opens (key :: path) = (tree.openFields.isSome && (tree.child key).opens path) := by
  rw [opens]

@[simp] theorem place_nil (value tree : Json) : place value [] tree = value := rfl

theorem place_cons (value : Json) (key : String) (path : List String) (tree : Json) :
    place value (key :: path) tree =
      obj (Assoc.set key (place value path (tree.child key)) tree.entries) := rfl

@[simp] theorem entries_obj (fields : List (String × Json)) : (obj fields).entries = fields := rfl

@[simp] theorem openFields_obj (fields : List (String × Json)) :
    (obj fields).openFields = some fields := rfl

theorem child_place (value : Json) (key key' : String) (path : List String) (tree : Json) :
    (place value (key :: path) tree).child key' =
      if key' = key then place value path (tree.child key) else tree.child key' := by
  rw [place_cons, child, entries_obj, Assoc.get_set]
  split
  · rfl
  · rfl

@[simp] theorem opens_place_cons (value : Json) (key key' : String) (path path' : List String)
    (tree : Json) :
    (place value (key :: path) tree).opens (key' :: path') =
      if key' = key then (place value path (tree.child key)).opens path'
      else (tree.child key').opens path' := by
  rw [opens_cons, child_place, place_cons, openFields_obj, Option.isSome_some, Bool.true_and]
  split <;> rfl

theorem place_place_cons (value value' : Json) (key key' : String) (path path' : List String)
    (tree : Json) :
    place value (key :: path) (place value' (key' :: path') tree) =
      obj (Assoc.set key (place value path ((place value' (key' :: path') tree).child key))
        (Assoc.set key' (place value' path' (tree.child key')) tree.entries)) := by
  rw [place_cons, place_cons value', entries_obj]

variable {tree : Json} {path' : List String}

theorem opens_of_append {path below : List String} (open_ : tree.opens (path ++ below) = true) :
    tree.opens path = true := by
  induction path generalizing tree with
  | nil => exact opens_nil tree
  | cons key path ih =>
    rw [List.cons_append, opens_cons, Bool.and_eq_true] at open_
    rw [opens_cons, Bool.and_eq_true]
    exact ⟨open_.1, ih open_.2⟩

/-- Below the path the tree is the value. -/
theorem opens_place_below (value : Json) (path below : List String) (tree : Json) :
    (place value path tree).opens (path ++ below) = value.opens below := by
  induction path generalizing tree with
  | nil => rfl
  | cons key path ih => rw [List.cons_append, opens_place_cons, if_pos rfl, ih]

theorem opens_place_above (value : Json) (path below : List String) (tree : Json) :
    (place value (path ++ below) tree).opens path = true := by
  induction path generalizing tree with
  | nil => exact opens_nil _
  | cons key path ih => rw [List.cons_append, opens_place_cons, if_pos rfl, ih]

theorem place_above (value value' : Json) (path below : List String) (tree : Json) :
    place value path (place value' (path ++ below) tree) = place value path tree := by
  induction path generalizing tree with
  | nil => rfl
  | cons key path ih =>
    rw [List.cons_append, place_place_cons, child_place, if_pos rfl, ih, Assoc.set_set, place_cons]

/-- The later write at the longer path changes the value. -/
theorem place_below (value value' : Json) (path below : List String) (tree : Json) :
    place value' (path ++ below) (place value path tree) =
      place (place value' below value) path tree := by
  induction path generalizing tree with
  | nil => rfl
  | cons key path ih =>
    rw [List.cons_append, place_place_cons, child_place, if_pos rfl, ih, Assoc.set_set, place_cons]

def Beside (path path' : List String) : Prop :=
  ¬ path <+: path' ∧ ¬ path' <+: path

theorem Beside.symm {path : List String} (beside : Beside path path') : Beside path' path :=
  ⟨beside.2, beside.1⟩

theorem Beside.cons {key key' : String} {path : List String}
    (beside : Beside (key :: path) (key' :: path')) (same : key = key') : Beside path path' := by
  subst same
  exact ⟨fun within => beside.1 ((List.prefix_cons_inj _).mpr within),
    fun within => beside.2 ((List.prefix_cons_inj _).mpr within)⟩

theorem place_comm {path : List String} (beside : Beside path path') (value value' tree : Json) :
    place value path (place value' path' tree) = place value' path' (place value path tree) := by
  induction path generalizing path' tree with
  | nil => exact absurd List.nil_prefix beside.1
  | cons key path ih =>
    cases path' with
    | nil => exact absurd List.nil_prefix beside.2
    | cons key' path' =>
      rw [place_place_cons, place_place_cons, child_place, child_place]
      by_cases same : key = key'
      · have inner := ih (beside.cons same) (tree.child key')
        subst same
        rw [if_pos rfl, if_pos rfl, Assoc.set_set, Assoc.set_set, inner]
      · rw [if_neg same, if_neg (Ne.symm same), Assoc.set_comm same]

theorem opens_place_beside {path : List String} (beside : Beside path path') (value : Json)
    (open_ : tree.opens path = true) : (place value path tree).opens path' = tree.opens path' := by
  induction path generalizing path' tree with
  | nil => exact absurd List.nil_prefix beside.1
  | cons key path ih =>
    cases path' with
    | nil => exact absurd List.nil_prefix beside.2
    | cons key' path' =>
      rw [opens_cons, Bool.and_eq_true] at open_
      rw [opens_place_cons, opens_cons, open_.1, Bool.true_and]
      split
      next same =>
        rw [same]
        exact ih (beside.cons same.symm) open_.2
      next => rfl

theorem valueAt_place (value : Json) (path : List String) (tree : Json) :
    (place value path tree).valueAt path = some value := by
  induction path generalizing tree with
  | nil => rfl
  | cons key path ih =>
    rw [place_cons, valueAt_obj_cons, Assoc.get_set, if_pos rfl, Option.bind_some, ih]

theorem child_of_get {fields : List (String × Json)} {key : String} {value : Json}
    (found : Assoc.get key fields = some value) : (obj fields).child key = value := by
  rw [child, entries_obj, found, Option.getD_some]

theorem opens_of_valueAt {value : Json} {path : List String}
    (there : tree.valueAt path = some value) : tree.opens path = true := by
  induction path generalizing tree with
  | nil => exact opens_nil tree
  | cons key path ih =>
    obtain ⟨fields, below, rfl, found, at_⟩ := fields_of_valueAt there
    rw [opens_cons, child_of_get found, ih at_]
    rfl

theorem place_of_valueAt {value : Json} {path : List String} (sorted : tree.Sorted)
    (there : tree.valueAt path = some value) : place value path tree = tree := by
  induction path generalizing tree with
  | nil =>
    cases there
    rfl
  | cons key path ih =>
    obtain ⟨fields, below, rfl, found, at_⟩ := fields_of_valueAt there
    rw [place_cons, child_of_get found, ih (sorted.2.of_get found) at_, entries_obj]
    refine congrArg obj (Assoc.ext (sorted.1.set key below) sorted.1 fun key' => ?_)
    rw [Assoc.get_set]
    split
    next same => rw [same, found]
    next => rfl

/-! ## A list of writes -/

structure Write where
  path : List String
  value : Json

def run : List Write → Json → Option Json
  | [], tree => some tree
  | write :: rest, tree =>
    if tree.opens write.path then run rest (place write.value write.path tree) else none

theorem run_cons_of_opens {write : Write} (open_ : tree.opens write.path = true) (rest : List Write) :
    run (write :: rest) tree = run rest (place write.value write.path tree) := by
  rw [run, if_pos open_]

theorem run_cons {write : Write} {rest : List Write} {done : Json} :
    run (write :: rest) tree = some done ↔
      tree.opens write.path = true ∧ run rest (place write.value write.path tree) = some done := by
  rw [run]
  split
  next open_ => simp [open_]
  next shut => simp [shut]

theorem run_append {writes rest : List Write} {done : Json} :
    run (writes ++ rest) tree = some done ↔
      ∃ between, run writes tree = some between ∧ run rest between = some done := by
  induction writes generalizing tree with
  | nil => simp [run]
  | cons write writes ih =>
    rw [List.cons_append, run_cons, ih]
    constructor
    · rintro ⟨open_, between, first, last⟩
      exact ⟨between, run_cons.mpr ⟨open_, first⟩, last⟩
    · rintro ⟨between, first, last⟩
      obtain ⟨open_, first⟩ := run_cons.mp first
      exact ⟨open_, between, first, last⟩

theorem path_cases (path path' : List String) :
    path = path' ∨ Beside path path' ∨ (∃ rest, rest ≠ [] ∧ path' = path ++ rest) ∨
      ∃ rest, rest ≠ [] ∧ path = path' ++ rest := by
  by_cases same : path = path'
  · exact .inl same
  have longer {first second : List String} (within : first <+: second) (differ : first ≠ second) :
      ∃ rest, rest ≠ [] ∧ second = first ++ rest := by
    obtain ⟨rest, rfl⟩ := within
    refine ⟨rest, fun empty => differ ?_, rfl⟩
    rw [empty, List.append_nil]
  by_cases within : path <+: path'
  · exact .inr (.inr (.inl (longer within same)))
  by_cases within' : path' <+: path
  · exact .inr (.inr (.inr (longer within' (Ne.symm same))))
  · exact .inr (.inl ⟨within, within'⟩)

/-! ### Writes that are refused in every order -/

/-- The path is open below the value of a write at its beginning. -/
def OpenedBy (write : Write) (path : List String) : Prop :=
  ∃ rest, rest ≠ [] ∧ path = write.path ++ rest ∧ write.value.opens rest = true

/-- A write opens another path only below its own. -/
theorem opens_before_place {write : Write} {path : List String}
    (open_ : tree.opens write.path = true) (differ : write.path ≠ path)
    (after : (place write.value write.path tree).opens path = true) :
    tree.opens path = true ∨ OpenedBy write path := by
  rcases path_cases write.path path with same | beside | ⟨rest, longer, rfl⟩ | ⟨rest, longer, split⟩
  · exact absurd same differ
  · rw [opens_place_beside beside _ open_] at after
    exact .inl after
  · rw [opens_place_below] at after
    exact .inr ⟨rest, longer, rfl, after⟩
  · rw [split] at open_
    exact .inl (opens_of_append open_)

theorem opens_before_run {writes : List Write} {done : Json} {path : List String}
    (ran : run writes tree = some done) (differ : ∀ write ∈ writes, write.path ≠ path)
    (after : done.opens path = true) :
    tree.opens path = true ∨ ∃ write ∈ writes, OpenedBy write path := by
  induction writes generalizing tree with
  | nil =>
    cases ran
    exact .inl after
  | cons write rest ih =>
    obtain ⟨differs, others⟩ := List.forall_mem_cons.mp differ
    obtain ⟨open_, ran⟩ := run_cons.mp ran
    rcases ih ran others with between | ⟨other, member, opened⟩
    · rcases opens_before_place open_ differs between with before | opened
      · exact .inl before
      · exact .inr ⟨write, List.mem_cons_self, opened⟩
    · exact .inr ⟨other, List.mem_cons_of_mem _ member, opened⟩

/-- A write that neither the tree nor any of the writes makes way for. -/
def Blocked (writes : List Write) (tree : Json) (write : Write) : Prop :=
  tree.opens write.path = false ∧ ∀ other ∈ writes, ¬ OpenedBy other write.path

def DistinctPaths (writes : List Write) : Prop :=
  (writes.map Write.path).Nodup

theorem DistinctPaths.perm {writes order : List Write} (distinct : DistinctPaths writes)
    (perm : order.Perm writes) : DistinctPaths order :=
  (perm.map Write.path).nodup_iff.mpr distinct

theorem run_eq_none_of_blocked {writes order : List Write} {write : Write}
    (distinct : DistinctPaths writes) (perm : order.Perm writes) (member : write ∈ writes)
    (blocked : Blocked writes tree write) : run order tree = none := by
  rw [Option.eq_none_iff_forall_ne_some]
  intro done ran
  have distinct' := distinct.perm perm
  obtain ⟨first, last, rfl⟩ := List.append_of_mem (perm.mem_iff.mpr member)
  obtain ⟨between, before, after⟩ := run_append.mp ran
  have differ : ∀ other ∈ first, other.path ≠ write.path := by
    intro other there same
    rw [DistinctPaths, List.map_append, List.map_cons, List.nodup_append] at distinct'
    exact distinct'.2.2 _ (List.mem_map_of_mem there) _ List.mem_cons_self same
  rcases opens_before_run before differ (run_cons.mp after).1 with open_ | ⟨other, there, opened⟩
  · rw [blocked.1] at open_
    cases open_
  · exact blocked.2 other (perm.mem_iff.mp (List.mem_append_left _ there)) opened

/-! ### An order for writes that are not refused -/

/-- A write that was carried out before, and that no later one leads through, leaves the later
ones possible. -/
theorem run_after_place {writes : List Write} {done : Json} {write : Write}
    (ran : run writes tree = some done) (open_ : tree.opens write.path = true)
    (apart : ∀ other ∈ writes, ¬ write.path <+: other.path) :
    ∃ done', run writes (place write.value write.path tree) = some done' := by
  induction writes generalizing tree with
  | nil => exact ⟨_, rfl⟩
  | cons other rest ih =>
    obtain ⟨openOther, ran⟩ := run_cons.mp ran
    obtain ⟨here, there⟩ := List.forall_mem_cons.mp apart
    rcases path_cases write.path other.path with same | beside | ⟨below, -, split⟩ | ⟨below, longer, split⟩
    · exact absurd (same ▸ List.prefix_refl write.path) here
    · have stays := opens_place_beside beside write.value open_
      have stays' := opens_place_beside beside.symm other.value openOther
      rw [openOther] at stays
      rw [open_] at stays'
      obtain ⟨done', ran'⟩ := ih ran stays' there
      refine ⟨done', run_cons.mpr ⟨stays, ?_⟩⟩
      rwa [place_comm beside.symm]
    · exact absurd (by rw [split]; exact List.prefix_append _ _) here
    · -- the other write replaces all that the first one did
      refine ⟨done, run_cons.mpr ⟨?_, ?_⟩⟩
      · rw [split]
        exact opens_place_above _ _ _ _
      · rw [split, place_above]
        exact ran

/-- Writes none of which is blocked can be carried out: each follows the write that makes way
for it, shorter paths being placed first. -/
theorem exists_order_of_ascending {writes : List Write} (distinct : DistinctPaths writes)
    (ascending : writes.Pairwise fun first second => first.path.length ≤ second.path.length)
    (free : ∀ write ∈ writes, ¬ Blocked writes tree write) :
    ∃ order, order.Perm writes ∧ ∃ done, run order tree = some done := by
  induction writes using List.reverseRecOn with
  | nil => exact ⟨[], .nil, tree, rfl⟩
  | append_singleton writes write ih =>
    rw [DistinctPaths, List.map_append, List.nodup_append] at distinct
    rw [List.pairwise_append] at ascending
    have apart : ∀ other ∈ writes, ¬ write.path <+: other.path := by
      intro other member within
      have short := ascending.2.2 other member write (List.mem_singleton.mpr rfl)
      have same := within.eq_of_length_le short
      exact distinct.2.2 _ (List.mem_map_of_mem member) _ (by simp) same.symm
    have free' : ∀ other ∈ writes, ¬ Blocked writes tree other := by
      rintro other member ⟨shut, alone⟩
      refine free other (List.mem_append_left _ member) ⟨shut, fun another there => ?_⟩
      rcases List.mem_append.mp there with there | last
      · exact alone another there
      · rw [List.mem_singleton.mp last]
        rintro ⟨rest, -, split, -⟩
        exact apart other member (by rw [split]; exact List.prefix_append _ _)
    obtain ⟨order, perm, done, ran⟩ := ih distinct.1 ascending.1 free'
    have moved : (write :: order).Perm (writes ++ [write]) :=
      (perm.cons write).trans (List.perm_append_singleton write writes).symm
    by_cases open_ : tree.opens write.path = true
    · obtain ⟨done', ran'⟩ := run_after_place ran open_ fun other member =>
        apart other (perm.mem_iff.mp member)
      exact ⟨write :: order, moved, done', run_cons.mpr ⟨open_, ran'⟩⟩
    · have opened : ∃ other ∈ writes ++ [write], OpenedBy other write.path := by
        by_contra none_
        push Not at none_
        exact free write (by simp) ⟨by simpa using open_, none_⟩
      obtain ⟨other, member, rest, longer, split, below⟩ := opened
      have earlier : other ∈ writes := by
        rcases List.mem_append.mp member with member | last
        · exact member
        · rw [List.mem_singleton.mp last] at split
          exact absurd (List.append_right_eq_self.mp split.symm) longer
      obtain ⟨first, last, rfl⟩ := List.append_of_mem (perm.mem_iff.mpr earlier)
      obtain ⟨between, before, after⟩ := run_append.mp ran
      obtain ⟨openOther, after⟩ := run_cons.mp after
      have openThere : (place other.value other.path between).opens write.path = true := by
        rw [split, opens_place_below]
        exact below
      obtain ⟨done', ran'⟩ := run_after_place after openThere fun another there =>
        apart another (perm.mem_iff.mp (by simp [there]))
      refine ⟨first ++ other :: write :: last, ?_, done', ?_⟩
      · have swapped : (first ++ other :: write :: last).Perm (write :: (first ++ other :: last)) := by
          simpa using @List.perm_middle _ write (first ++ [other]) last
        exact swapped.trans moved
      · exact run_append.mpr ⟨between, before,
          run_cons.mpr ⟨openOther, run_cons.mpr ⟨openThere, ran'⟩⟩⟩

theorem exists_ascending (writes : List Write) :
    ∃ order : List Write, order.Perm writes ∧
      order.Pairwise fun first second => first.path.length ≤ second.path.length := by
  refine ⟨writes.mergeSort fun first second => first.path.length ≤ second.path.length,
    List.mergeSort_perm _ _, ?_⟩
  have sorted := @List.pairwise_mergeSort Write
    (fun first second => decide (first.path.length ≤ second.path.length))
    (fun _ _ _ ab bc => by simp at ab bc ⊢; omega) (fun _ _ => by simp; omega) writes
  simpa using sorted

theorem Blocked.perm {writes order : List Write} {tree : Json} {write : Write}
    (blocked : Blocked order tree write) (perm : order.Perm writes) : Blocked writes tree write :=
  ⟨blocked.1, fun other member => blocked.2 other (perm.mem_iff.mpr member)⟩

theorem exists_order {writes : List Write} (distinct : DistinctPaths writes)
    (free : ∀ write ∈ writes, ¬ Blocked writes tree write) :
    ∃ order, order.Perm writes ∧ ∃ done, run order tree = some done := by
  obtain ⟨sorted, perm, ascending⟩ := exists_ascending writes
  obtain ⟨order, reordered, ran⟩ := exists_order_of_ascending (distinct.perm perm) ascending
    fun write member blocked => free write (perm.mem_iff.mp member) (blocked.perm perm)
  exact ⟨order, reordered.trans perm, ran⟩

/-! ### When the order does not matter -/

/-- A write at the beginning of another's path has the other's value in its own. -/
def Agreeing (writes : List Write) : Prop :=
  ∀ write ∈ writes, ∀ other ∈ writes, ∀ rest, rest ≠ [] → other.path = write.path ++ rest →
    write.value.valueAt rest = some other.value

/-- Agreeing writes commute. -/
theorem place_comm_of_agreeing {writes : List Write} (distinct : DistinctPaths writes)
    (agreeing : Agreeing writes) (sorted : ∀ write ∈ writes, write.value.Sorted)
    {first second : Write} (member : first ∈ writes) (member' : second ∈ writes) (tree : Json) :
    place second.value second.path (place first.value first.path tree) =
      place first.value first.path (place second.value second.path tree) := by
  have nested {short long : Write} (there : short ∈ writes) (there' : long ∈ writes) {rest : List String}
      (longer : rest ≠ []) (split : long.path = short.path ++ rest) :
      place long.value long.path (place short.value short.path tree) =
        place short.value short.path (place long.value long.path tree) := by
    have held := agreeing short there long there' rest longer split
    rw [split, place_below, place_above, place_of_valueAt (sorted short there) held]
  rcases path_cases first.path second.path with
    same | beside | ⟨rest, longer, split⟩ | ⟨rest, longer, split⟩
  · rw [List.inj_on_of_nodup_map distinct member member' same]
  · exact place_comm beside.symm _ _ _
  · exact nested member member' longer split
  · exact (nested member' member longer split).symm

theorem opens_place_of_agreeing {writes : List Write} (agreeing : Agreeing writes)
    {write other : Write} (member : write ∈ writes) (member' : other ∈ writes)
    (here : tree.opens write.path = true) (there : tree.opens other.path = true) :
    (place write.value write.path tree).opens other.path = true := by
  rcases path_cases write.path other.path with same | beside | ⟨rest, longer, split⟩ | ⟨rest, -, split⟩
  · rw [← same]
    simpa using opens_place_above write.value write.path [] tree
  · rw [opens_place_beside beside _ here]
    exact there
  · rw [split, opens_place_below]
    exact opens_of_valueAt (agreeing write member other member' rest longer split)
  · rw [split]
    exact opens_place_above _ _ _ _

theorem run_of_agreeing {writes order : List Write} (agreeing : Agreeing writes)
    (open_ : ∀ write ∈ writes, tree.opens write.path = true) (within : order ⊆ writes) :
    run order tree = some (order.foldl (fun tree write => place write.value write.path tree) tree) := by
  induction order generalizing tree with
  | nil => rfl
  | cons write rest ih =>
    obtain ⟨member, others⟩ := List.cons_subset.mp within
    rw [run_cons_of_opens (open_ write member), List.foldl_cons]
    exact ih (fun other there =>
      opens_place_of_agreeing agreeing member there (open_ write member) (open_ other there)) others

/-- Every order has the same outcome, and where that is a tree each write can be read in it. -/
def Independent (writes : List Write) (tree : Json) : Prop :=
  (∀ order order', order.Perm writes → order'.Perm writes → run order tree = run order' tree) ∧
    ∀ order, order.Perm writes → ∀ done, run order tree = some done →
      ∀ write ∈ writes, done.valueAt write.path = some write.value

theorem independent_of_agreeing {writes : List Write} (distinct : DistinctPaths writes)
    (sorted : ∀ write ∈ writes, write.value.Sorted)
    (open_ : ∀ write ∈ writes, tree.opens write.path = true) (agreeing : Agreeing writes) :
    Independent writes tree := by
  have same (order order' : List Write) (perm : order.Perm writes) (perm' : order'.Perm writes) :
      run order tree = run order' tree := by
    rw [run_of_agreeing agreeing open_ perm.subset, run_of_agreeing agreeing open_ perm'.subset]
    congr 1
    refine (perm.trans perm'.symm).foldl_eq' (fun first member second member' tree => ?_) tree
    exact place_comm_of_agreeing distinct agreeing sorted (perm.subset member) (perm.subset member') tree
  refine ⟨same, fun order perm done ran write member => ?_⟩
  -- the write can be carried out last
  obtain ⟨first, last, split⟩ := List.append_of_mem member
  have moved : (first ++ last ++ [write]).Perm writes := by
    rw [split]
    exact (List.perm_append_singleton write (first ++ last)).trans List.perm_middle.symm
  rw [same order _ perm moved, run_append] at ran
  obtain ⟨between, -, ran⟩ := ran
  obtain ⟨-, ran⟩ := run_cons.mp ran
  cases ran
  exact valueAt_place _ _ _

/-- The order of writes does not matter exactly when one of them is refused in every order, or
all are open from the start and agree where one path begins another. -/
theorem independent_iff {writes : List Write} (distinct : DistinctPaths writes)
    (sorted : ∀ write ∈ writes, write.value.Sorted) :
    Independent writes tree ↔
      (∃ write ∈ writes, Blocked writes tree write) ∨
        (∀ write ∈ writes, tree.opens write.path = true) ∧ Agreeing writes := by
  constructor
  · rintro ⟨same, reads⟩
    by_cases blocked : ∃ write ∈ writes, Blocked writes tree write
    · exact .inl blocked
    push Not at blocked
    refine .inr ?_
    -- one order goes through, so each write can come first
    obtain ⟨order, perm, done, ran⟩ := exists_order distinct blocked
    have open_ : ∀ write ∈ writes, tree.opens write.path = true := by
      intro write member
      obtain ⟨first, last, split⟩ := List.append_of_mem member
      have moved : (write :: (first ++ last)).Perm writes := by
        rw [split]
        exact List.perm_middle.symm
      rw [same order _ perm moved] at ran
      exact (run_cons.mp ran).1
    refine ⟨open_, fun write member other member' rest _ split => ?_⟩
    have here := reads order perm done ran write member
    have there := reads order perm done ran other member'
    rw [split, valueAt_append, here, Option.bind_some] at there
    exact there
  · rintro (⟨write, member, blocked⟩ | ⟨open_, agreeing⟩)
    · have refused (order : List Write) (perm : order.Perm writes) : run order tree = none :=
        run_eq_none_of_blocked distinct perm member blocked
      refine ⟨fun order order' perm perm' => by rw [refused order perm, refused order' perm'], ?_⟩
      intro order perm done ran
      rw [refused order perm] at ran
      cases ran
    · exact independent_of_agreeing distinct sorted open_ agreeing

end Json
