import SeiController.Planner.Overlay

/-!
# What an overlay holds

`configValuesOverlay` holds at each path what one of its entries puts there and
nothing else: the nodes of the patch are the union of the entries' nodes.
-/

set_option autoImplicit false

namespace SeiController

open Json (nodeAt)

@[simp] theorem node_obj (fields : Table) : KeyTree.node Json.fields? (.obj fields) = .table := rfl

theorem nodeAt_obj_cons (fields : Table) (key : String) (path : List String) :
    nodeAt (.obj fields) (key :: path) = (Assoc.get key fields).bind fun child => nodeAt child path :=
  KeyTree.at?_cons rfl key path

/-- The nodes of `merged` are those of `old` and of `new`. -/
def Union (old : Option Json) (new merged : Json) : Prop :=
  ∀ path node, nodeAt merged path = some node ↔
    (∃ value, old = some value ∧ nodeAt value path = some node) ∨ nodeAt new path = some node

theorem Union.created (value : Json) : Union none value value := by
  intro path node
  simp

theorem Union.nothing (dst : Table) : Union (some (.obj dst)) (.obj []) (.obj dst) := by
  intro path node
  cases path with
  | nil => simp
  | cons key path => simp [nodeAt_obj_cons]

theorem Union.of_empty {src merged : Table} (union : Union (some (.obj [])) (.obj src) (.obj merged)) :
    Union none (.obj src) (.obj merged) := by
  intro path node
  have here := union path node
  cases path with
  | nil => simp
  | cons key path => simpa [nodeAt_obj_cons] using here

theorem Union.set {dst rest merged : Table} {name : String} {value merged' : Json}
    (absent : Assoc.get name rest = none)
    (here : Union (Assoc.get name dst) value merged')
    (there : Union (some (.obj (Assoc.set name merged' dst))) (.obj rest) (.obj merged)) :
    Union (some (.obj dst)) (.obj ((name, value) :: rest)) (.obj merged) := by
  intro path node
  rw [there]
  simp only [Option.some.injEq, exists_eq_left']
  cases path with
  | nil => simp
  | cons key path =>
    simp only [nodeAt_obj_cons, Assoc.get_set, Assoc.get_cons]
    by_cases hit : key = name
    · subst hit
      rw [if_pos rfl, if_pos rfl, absent]
      simp only [Option.bind_some, Option.bind_none, reduceCtorEq, or_false, here path node]
      cases Assoc.get key dst <;> simp
    · rw [if_neg hit, if_neg hit]

theorem insertLeaf_union {value : Json} {dst dst' : Table} {origin origin' : OverlayOrigin}
    {key name : String} (inserted : insertLeaf dst origin key name value = .ok (dst', origin')) :
    ∃ merged, dst' = Assoc.set name merged dst ∧ Union (Assoc.get name dst) value merged := by
  unfold insertLeaf at inserted
  split at inserted
  · cases inserted
  next missing =>
    cases inserted
    rw [missing]
    exact ⟨value, rfl, .created value⟩

mutual

theorem insertOverlay_union : ∀ {src dst dst' : Table} {origin origin' : OverlayOrigin} {key : String},
    Json.Distinct (.obj src) → insertOverlay dst origin key src = .ok (dst', origin') →
    Union (some (.obj dst)) (.obj src) (.obj dst')
  | [], dst, dst', origin, origin', key, distinct, inserted => by
      cases inserted
      exact .nothing dst
  | (name, value) :: rest, dst, dst', origin, origin', key, distinct, inserted => by
      rw [insertOverlay] at inserted
      split at inserted
      · cases inserted
      next between originBetween step =>
        obtain ⟨merged, rfl, union⟩ := insertValue_union distinct.2.1 step
        exact union.set distinct.1 (insertOverlay_union distinct.2.2 inserted)

theorem insertValue_union : ∀ {value : Json} {dst dst' : Table} {origin origin' : OverlayOrigin}
    {key name : String}, value.Distinct → insertValue dst origin key name value = .ok (dst', origin') →
    ∃ merged, dst' = Assoc.set name merged dst ∧ Union (Assoc.get name dst) value merged
  | .obj incoming, dst, dst', origin, origin', key, name, distinct, inserted => by
      rw [insertValue] at inserted
      split at inserted
      next current found =>
        split at inserted
        · cases inserted
        next merged child step =>
          cases inserted
          rw [found]
          exact ⟨_, rfl, insertOverlay_union distinct step⟩
      next => cases inserted
      next missing =>
        split at inserted
        · cases inserted
        next created child step =>
          cases inserted
          rw [missing]
          exact ⟨_, rfl, (insertOverlay_union distinct step).of_empty⟩
  | .null, dst, dst', origin, origin', key, name, distinct, inserted => insertLeaf_union inserted
  | .bool _, dst, dst', origin, origin', key, name, distinct, inserted => insertLeaf_union inserted
  | .num _, dst, dst', origin, origin', key, name, distinct, inserted => insertLeaf_union inserted
  | .str _, dst, dst', origin, origin', key, name, distinct, inserted => insertLeaf_union inserted
  | .arr _, dst, dst', origin, origin', key, name, distinct, inserted => insertLeaf_union inserted

end

theorem insertLeaf_sorted {value : Json} {dst dst' : Table} {origin origin' : OverlayOrigin}
    {key name : String} (sorted : Json.Sorted (.obj dst)) (sortedValue : value.Sorted)
    (inserted : insertLeaf dst origin key name value = .ok (dst', origin')) :
    Json.Sorted (.obj dst') := by
  unfold insertLeaf at inserted
  split at inserted
  · cases inserted
  · cases inserted
    exact ⟨sorted.1.set name value, sorted.2.set name sortedValue⟩

mutual

theorem insertOverlay_sorted : ∀ {src dst dst' : Table} {origin origin' : OverlayOrigin} {key : String},
    Json.Sorted (.obj dst) → Json.SortedFields src →
    insertOverlay dst origin key src = .ok (dst', origin') →
    Json.Sorted (.obj dst')
  | [], dst, dst', origin, origin', key, sorted, _, inserted => by
      cases inserted
      exact sorted
  | (name, value) :: rest, dst, dst', origin, origin', key, sorted, sortedSrc, inserted => by
      rw [insertOverlay] at inserted
      split at inserted
      · cases inserted
      next between originBetween step =>
        exact insertOverlay_sorted (insertValue_sorted sorted sortedSrc.1 step) sortedSrc.2 inserted

theorem insertValue_sorted : ∀ {value : Json} {dst dst' : Table} {origin origin' : OverlayOrigin}
    {key name : String}, Json.Sorted (.obj dst) → value.Sorted →
    insertValue dst origin key name value = .ok (dst', origin') → Json.Sorted (.obj dst')
  | .obj incoming, dst, dst', origin, origin', key, name, sorted, sortedValue, inserted => by
      rw [insertValue] at inserted
      split at inserted
      next current found =>
        split at inserted
        · cases inserted
        next merged child step =>
          cases inserted
          have below := insertOverlay_sorted (sorted.2.of_get found) sortedValue.2 step
          exact ⟨sorted.1.set name _, sorted.2.set name below⟩
      next => cases inserted
      next missing =>
        split at inserted
        · cases inserted
        next created child step =>
          cases inserted
          have below := insertOverlay_sorted ⟨Assoc.sorted_nil, trivial⟩ sortedValue.2 step
          exact ⟨sorted.1.set name _, sorted.2.set name below⟩
  | .null, _, _, _, _, _, _, sorted, sortedValue, inserted =>
    insertLeaf_sorted sorted sortedValue inserted
  | .bool _, _, _, _, _, _, _, sorted, sortedValue, inserted =>
    insertLeaf_sorted sorted sortedValue inserted
  | .num _, _, _, _, _, _, _, sorted, sortedValue, inserted =>
    insertLeaf_sorted sorted sortedValue inserted
  | .str _, _, _, _, _, _, _, sorted, sortedValue, inserted =>
    insertLeaf_sorted sorted sortedValue inserted
  | .arr _, _, _, _, _, _, _, sorted, sortedValue, inserted =>
    insertLeaf_sorted sorted sortedValue inserted

end

/-! ## The whole patch -/

def patchTree (files : PatchFiles) : Json :=
  .obj (Assoc.mapValues .obj files)

def entryTree (entry : ConfigValue) (value : Json) : Json :=
  nest (entry.fileName :: keyPath entry.key) value

theorem nest_sorted (path : List String) {value : Json} (sorted : value.Sorted) :
    (nest path value).Sorted := by
  induction path with
  | nil => exact sorted
  | cons key path ih => exact ⟨List.pairwise_singleton _ _, ih, trivial⟩

theorem keyPath_ne_nil (key : String) : keyPath key ≠ [] := by
  simp [keyPath, List.splitOn_ne_nil]

theorem entryPatch_spec {entry : ConfigValue} {patch : Table} (accepted : entryPatch entry = .ok patch) :
    ∃ value, entry.value = .ok value ∧ Json.obj patch = nest (keyPath entry.key) value := by
  unfold entryPatch at accepted
  split at accepted
  · cases accepted
  · split at accepted
    · cases accepted
    next value decoded =>
      split at accepted
      · cases accepted
      · split at accepted
        · cases accepted
        · cases accepted
          refine ⟨value, decoded, ?_⟩
          obtain ⟨key, path, split⟩ := List.exists_cons_of_ne_nil (keyPath_ne_nil entry.key)
          rw [split]
          rfl

def stateTree (state : OverlayState) : Json :=
  patchTree (Assoc.mapValues Prod.fst state)

theorem stateTree_set (file : String) (table : Table) (origin : OverlayOrigin) (state : OverlayState) :
    stateTree (Assoc.set file (table, origin) state) =
      .obj (Assoc.set file (.obj table) (Assoc.mapValues .obj (Assoc.mapValues Prod.fst state))) := by
  rw [stateTree, patchTree, Assoc.mapValues_set, Assoc.mapValues_set]

theorem addEntry_union {state state' : OverlayState} {entry : ConfigValue}
    (sorted : (stateTree state).Sorted) (added : addEntry state entry = .ok state') :
    ∃ value, entry.value = .ok value ∧ (stateTree state').Sorted ∧
      Union (some (stateTree state)) (entryTree entry value) (stateTree state') := by
  unfold addEntry at added
  split at added
  · cases added
  next patch accepted =>
    obtain ⟨value, decoded, tree⟩ := entryPatch_spec accepted
    have sortedPatch : Json.Sorted (.obj patch) := by
      rw [tree]
      exact nest_sorted _ (entry.valueSorted value decoded)
    have root : entryTree entry value = .obj [(entry.fileName, .obj patch)] := by
      rw [tree]
      rfl
    have single : Assoc.get entry.fileName ([] : Table) = none := rfl
    have kept : Assoc.get entry.fileName (Assoc.mapValues Json.obj (Assoc.mapValues Prod.fst state)) =
        (Assoc.get entry.fileName state).map fun found => Json.obj found.1 := by
      rw [Assoc.get_mapValues, Assoc.get_mapValues, Option.map_map]
      rfl
    dsimp only at added
    split at added
    · cases added
    next merged inserted =>
      cases added
      obtain ⟨table', origin'⟩ := merged
      refine ⟨value, decoded, ?_⟩
      rw [stateTree_set, root]
      cases found : Assoc.get entry.fileName state with
      | none =>
        rw [found] at inserted kept
        have sortedTable := insertOverlay_sorted ⟨Assoc.sorted_nil, trivial⟩ sortedPatch.2 inserted
        refine ⟨⟨sorted.1.set _ _, sorted.2.set _ sortedTable⟩, Union.set single ?_ (.nothing _)⟩
        rw [kept]
        exact (insertOverlay_union sortedPatch.distinct inserted).of_empty
      | some old =>
        obtain ⟨table, origin⟩ := old
        rw [found] at inserted kept
        have sortedOld := sorted.2.of_get kept
        have sortedTable := insertOverlay_sorted sortedOld sortedPatch.2 inserted
        refine ⟨⟨sorted.1.set _ _, sorted.2.set _ sortedTable⟩, Union.set single ?_ (.nothing _)⟩
        rw [kept]
        exact insertOverlay_union sortedPatch.distinct inserted

def Supplies (entry : ConfigValue) (path : List String) (node : KeyTree.Node Json) : Prop :=
  ∃ value, entry.value = .ok value ∧ nodeAt (entryTree entry value) path = some node

/-- What a list of entries leaves behind when none is refused. -/
structure Added (values : List ConfigValue) (state state' : OverlayState) : Prop where
  sorted : (stateTree state').Sorted
  decoded : ∀ entry ∈ values, ∃ value, entry.value = .ok value
  nodes : ∀ path node, nodeAt (stateTree state') path = some node ↔
    nodeAt (stateTree state) path = some node ∨ ∃ entry ∈ values, Supplies entry path node

variable {values : List ConfigValue} {files : PatchFiles}

theorem addEntries_added {state state' : OverlayState} (sorted : (stateTree state).Sorted)
    (added : values.foldlM addEntry state = .ok state') : Added values state state' := by
  induction values generalizing state with
  | nil =>
    cases added
    exact ⟨sorted, by simp, by simp⟩
  | cons entry rest ih =>
    rw [List.foldlM_cons] at added
    cases step : addEntry state entry with
    | error err =>
      rw [step] at added
      cases added
    | ok between =>
      rw [step] at added
      obtain ⟨value, decoded, sortedBetween, union⟩ := addEntry_union sorted step
      have later := ih sortedBetween added
      refine ⟨later.sorted, ?_, fun path node => ?_⟩
      · exact List.forall_mem_cons.mpr ⟨⟨value, decoded⟩, later.decoded⟩
      · rw [later.nodes, union path node]
        simp [Supplies, decoded, or_assoc]

theorem configValuesOverlay_added (accepted : configValuesOverlay values = .ok files) :
    ∃ state, files = Assoc.mapValues Prod.fst state ∧ Added values [] state := by
  unfold configValuesOverlay at accepted
  split at accepted
  · cases accepted
  next state added =>
    cases accepted
    exact ⟨state, rfl, addEntries_added ⟨Assoc.sorted_nil, trivial⟩ added⟩

theorem configValuesOverlay_sorted (accepted : configValuesOverlay values = .ok files) :
    (patchTree files).Sorted := by
  obtain ⟨state, rfl, added⟩ := configValuesOverlay_added accepted
  exact added.sorted

theorem configValuesOverlay_decoded (accepted : configValuesOverlay values = .ok files)
    {entry : ConfigValue} (member : entry ∈ values) : ∃ value, entry.value = .ok value := by
  obtain ⟨state, -, added⟩ := configValuesOverlay_added accepted
  exact added.decoded entry member

/-- The nodes of the patch are the ones its entries supply. -/
theorem nodeAt_configValuesOverlay (accepted : configValuesOverlay values = .ok files)
    (file : String) (path : List String) (node : KeyTree.Node Json) :
    nodeAt (patchTree files) (file :: path) = some node ↔
      ∃ entry ∈ values, Supplies entry (file :: path) node := by
  obtain ⟨state, rfl, added⟩ := configValuesOverlay_added accepted
  have here := added.nodes (file :: path) node
  rw [stateTree] at here
  rw [here]
  simp [stateTree, patchTree, nodeAt_obj_cons, Assoc.mapValues]

end SeiController
