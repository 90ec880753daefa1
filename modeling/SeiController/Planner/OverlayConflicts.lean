import SeiController.Planner.OverlayTree

/-!
# The conflicts of an overlay

Two trees of tables can be laid over each other when wherever both hold a node both hold a
table.  Insertion refuses exactly the trees that cannot, in whatever order the incoming
tables are visited, so `configValuesOverlay` accepts a list of entries exactly when no leaf
of one entry is in the way of another entry, and then holds the leaves of all of them.
-/

set_option autoImplicit false

namespace SeiController

open Json (nodeAt)

/-! ## Trees that meet in tables only -/

/-- Wherever both hold a node, both hold a table. -/
def Meets (old : Option Json) (new : Json) : Prop :=
  ∀ path here there, (∃ value, old = some value ∧ nodeAt value path = some here) →
    nodeAt new path = some there → here = .table ∧ there = .table

theorem meets_none (value : Json) : Meets none value := by
  rintro path here there ⟨_, missing, _⟩
  cases missing

variable {value : Json} {entry : ConfigValue}

theorem meets_some {new : Json} :
    Meets (some value) new ↔ ∀ path here there, nodeAt value path = some here →
      nodeAt new path = some there → here = .table ∧ there = .table := by
  simp [Meets]

theorem meets_empty (src : Table) : Meets (some (.obj [])) (.obj src) := by
  rw [meets_some]
  intro path here there found found'
  cases path with
  | nil =>
    simp only [KeyTree.at?_nil, node_obj, Option.some.injEq] at found found'
    exact ⟨found.symm, found'.symm⟩
  | cons key path => simp [nodeAt_obj_cons] at found

theorem meets_nothing (dst : Table) : Meets (some (.obj dst)) (.obj []) := by
  rw [meets_some]
  intro path here there found found'
  cases path with
  | nil =>
    simp only [KeyTree.at?_nil, node_obj, Option.some.injEq] at found found'
    exact ⟨found.symm, found'.symm⟩
  | cons key path => simp [nodeAt_obj_cons] at found'

theorem meets_leaf {old : Option Json} (leaf : value.fields? = none) :
    Meets old value ↔ old = none := by
  constructor
  · intro meet
    cases old with
    | none => rfl
    | some current =>
      have root := (meets_some.mp meet [] _ _ rfl rfl).2
      rw [KeyTree.node_leaf leaf] at root
      cases root
  · rintro rfl
    exact meets_none value

theorem not_meets_of_leaf {current new : Json} (leaf : current.fields? = none) :
    ¬ Meets (some current) new := by
  intro meet
  have root := (meets_some.mp meet [] _ _ rfl rfl).1
  rw [KeyTree.node_leaf leaf] at root
  cases root

theorem meets_obj {dst src : Table} :
    Meets (some (.obj dst)) (.obj src) ↔
      ∀ key value, Assoc.get key src = some value → Meets (Assoc.get key dst) value := by
  rw [meets_some]
  constructor
  · rintro meet key value incoming path here there ⟨current, found, at_⟩ below
    apply meet (key :: path)
    · rw [nodeAt_obj_cons, found, Option.bind_some, at_]
    · rw [nodeAt_obj_cons, incoming, Option.bind_some, below]
  · intro keys path here there found found'
    cases path with
    | nil =>
      simp only [KeyTree.at?_nil, node_obj, Option.some.injEq] at found found'
      exact ⟨found.symm, found'.symm⟩
    | cons key path =>
      rw [nodeAt_obj_cons] at found found'
      obtain ⟨current, held, at_⟩ := Option.bind_eq_some_iff.mp found
      obtain ⟨value, incoming, below⟩ := Option.bind_eq_some_iff.mp found'
      exact keys key value incoming path here there ⟨current, held, at_⟩ below

theorem meets_cons {dst rest : Table} {name : String} (absent : Assoc.get name rest = none) :
    Meets (some (.obj dst)) (.obj ((name, value) :: rest)) ↔
      Meets (Assoc.get name dst) value ∧ Meets (some (.obj dst)) (.obj rest) := by
  simp only [meets_obj, Assoc.get_cons]
  constructor
  · intro keys
    refine ⟨keys name value (if_pos rfl), fun key child found => keys key child ?_⟩
    rw [if_neg, found]
    rintro rfl
    simp [absent] at found
  · rintro ⟨here, there⟩ key child found
    split at found
    next hit =>
      cases found
      rw [hit]
      exact here
    next => exact there key child found

theorem meets_set {dst rest : Table} {name : String} (merged : Json)
    (absent : Assoc.get name rest = none) :
    Meets (some (.obj (Assoc.set name merged dst))) (.obj rest) ↔
      Meets (some (.obj dst)) (.obj rest) := by
  simp only [meets_obj, Assoc.get_set]
  have other {key : String} {child : Json} (found : Assoc.get key rest = some child) : key ≠ name := by
    rintro rfl
    simp [absent] at found
  constructor
  · intro keys key child found
    have there := keys key child found
    rwa [if_neg (other found)] at there
  · intro keys key child found
    rw [if_neg (other found)]
    exact keys key child found

/-! ## Insertion -/

theorem insertLeaf_ok {dst : Table} {origin : OverlayOrigin} {key name : String}
    (leaf : value.fields? = none) :
    (∃ out, insertLeaf dst origin key name value = .ok out) ↔ Meets (Assoc.get name dst) value := by
  rw [meets_leaf leaf]
  unfold insertLeaf
  cases Assoc.get name dst <;> simp

mutual

/-- Insertion goes through exactly when the trees meet in tables only. -/
theorem insertOverlay_ok : ∀ (src dst : Table) (origin : OverlayOrigin) (key : String),
    Json.Distinct (.obj src) →
    ((∃ out, insertOverlay dst origin key src = .ok out) ↔ Meets (some (.obj dst)) (.obj src))
  | [], dst, origin, key, _ => by
      simp [insertOverlay, meets_nothing]
  | (name, value) :: rest, dst, origin, key, distinct => by
      rw [meets_cons distinct.1, ← insertValue_ok value dst origin key name distinct.2.1, insertOverlay]
      cases step : insertValue dst origin key name value with
      | error previous => simp
      | ok out =>
        obtain ⟨dst', origin'⟩ := out
        obtain ⟨merged, rfl, -⟩ := insertValue_union distinct.2.1 step
        have later := insertOverlay_ok rest (Assoc.set name merged dst) origin' key distinct.2.2
        rw [meets_set merged distinct.1] at later
        simpa using later

theorem insertValue_ok : ∀ (value : Json) (dst : Table) (origin : OverlayOrigin) (key name : String),
    value.Distinct →
    ((∃ out, insertValue dst origin key name value = .ok out) ↔ Meets (Assoc.get name dst) value)
  | .obj incoming, dst, origin, key, name, distinct => by
      rw [insertValue]
      cases found : Assoc.get name dst with
      | none =>
        obtain ⟨created, inserted⟩ :=
          (insertOverlay_ok incoming [] (.mk key []) key distinct).mpr (meets_empty incoming)
        simp [inserted, meets_none]
      | some current =>
        cases current with
        | obj current =>
          rw [← insertOverlay_ok incoming current (origin.child name) key distinct]
          cases inner : insertOverlay current (origin.child name) key incoming with
          | error previous => simp [inner]
          | ok merged => simp [inner]
        | _ => simpa using not_meets_of_leaf rfl
  | .null, _, _, _, _, _ => insertLeaf_ok rfl
  | .bool _, _, _, _, _, _ => insertLeaf_ok rfl
  | .num _, _, _, _, _, _ => insertLeaf_ok rfl
  | .str _, _, _, _, _, _ => insertLeaf_ok rfl
  | .arr _, _, _, _, _, _ => insertLeaf_ok rfl

end

/-! ## Entries -/

/-- The checks an entry passes by itself: its file name, its JSON, no null in it and every
number representable. -/
structure ConfigValue.Valid (entry : ConfigValue) (value : Json) : Prop where
  fileName : matchesFileNamePattern entry.fileName = true
  decoded : entry.value = .ok value
  noNull : containsNull value = false
  numbers : validateOverlayNumbers value = .ok ()

/-- A leaf of the entry is in the way of the other: at the path of a node of the other, on
the way to it, or below a leaf. -/
def Clashes (entry other : ConfigValue) : Prop :=
  ∃ path value path' node, Supplies entry path (.leaf value) ∧ Supplies other path' node ∧
    (path <+: path' ∨ path' <+: path ∧ node ≠ .table)

theorem supplies_iff (decoded : entry.value = .ok value) {path : List String}
    {node : KeyTree.Node Json} :
    Supplies entry path node ↔ nodeAt (entryTree entry value) path = some node := by
  simp [Supplies, decoded]

theorem Clashes.not_meets {other : ConfigValue} {value' : Json} (decoded : entry.value = .ok value)
    (decoded' : other.value = .ok value') (clashes : Clashes entry other) :
    ¬ Meets (some (entryTree entry value)) (entryTree other value') := by
  obtain ⟨path, leaf, path', node, supplied, supplied', meets⟩ := clashes
  rw [supplies_iff decoded] at supplied
  rw [supplies_iff decoded'] at supplied'
  rw [meets_some]
  intro meet
  rcases meets with above | ⟨below, single⟩
  · obtain ⟨node', found, -⟩ := KeyTree.at?_above above supplied'
    cases (meet path _ _ supplied found).1
  · obtain ⟨node', found, -⟩ := KeyTree.at?_above below supplied
    exact single (meet path' _ _ found supplied').2

theorem Meets.symm {left right : Json} (meet : Meets (some left) right) : Meets (some right) left := by
  rw [meets_some] at meet ⊢
  intro path here there found found'
  exact (meet path there here found' found).symm

/-- Entries that supply no clash can be laid over each other, and no others. -/
theorem meets_iff_not_clashes {other : ConfigValue} {value' : Json}
    (decoded : entry.value = .ok value) (decoded' : other.value = .ok value') :
    Meets (some (entryTree entry value)) (entryTree other value') ↔
      ¬ Clashes entry other ∧ ¬ Clashes other entry := by
  constructor
  · intro meet
    exact ⟨fun clashes => clashes.not_meets decoded decoded' meet,
      fun clashes => clashes.not_meets decoded' decoded meet.symm⟩
  · rintro ⟨none_, none_'⟩
    rw [meets_some]
    intro path here there found found'
    constructor
    · cases here with
      | table => rfl
      | leaf leaf =>
        exact absurd ⟨path, leaf, path, there, (supplies_iff decoded).mpr found,
          (supplies_iff decoded').mpr found', .inl (List.prefix_refl path)⟩ none_
    · cases there with
      | table => rfl
      | leaf leaf =>
        exact absurd ⟨path, leaf, path, here, (supplies_iff decoded').mpr found',
          (supplies_iff decoded).mpr found, .inl (List.prefix_refl path)⟩ none_'

theorem entryPatch_valid (valid : entry.Valid value) :
    ∃ patch, entryPatch entry = .ok patch ∧
      entryTree entry value = .obj [(entry.fileName, .obj patch)] := by
  have accepted : entryPatch entry = .ok ((nest (keyPath entry.key) value).fields?.getD []) := by
    simp [entryPatch, valid.fileName, valid.decoded, valid.noNull, valid.numbers]
  obtain ⟨value', decoded, tree⟩ := entryPatch_spec accepted
  cases valid.decoded.symm.trans decoded
  refine ⟨_, accepted, ?_⟩
  rw [tree]
  rfl

theorem addEntry_ok_iff {state : OverlayState} {patch : Table}
    (accepted : entryPatch entry = .ok patch) :
    (∃ state', addEntry state entry = .ok state') ↔
      ∃ out, insertOverlay ((Assoc.get entry.fileName state).getD ([], .mk "" [])).1
        ((Assoc.get entry.fileName state).getD ([], .mk "" [])).2 entry.key patch = .ok out := by
  constructor
  · rintro ⟨state', added⟩
    unfold addEntry at added
    rw [accepted] at added
    dsimp only at added
    split at added
    · cases added
    next merged inserted => exact ⟨merged, inserted⟩
  · rintro ⟨out, inserted⟩
    refine ⟨Assoc.set entry.fileName out state, ?_⟩
    unfold addEntry
    rw [accepted]
    dsimp only
    rw [inserted]

theorem addEntry_ok {state : OverlayState} (valid : entry.Valid value) :
    (∃ state', addEntry state entry = .ok state') ↔
      Meets (some (stateTree state)) (entryTree entry value) := by
  obtain ⟨patch, accepted, tree⟩ := entryPatch_valid valid
  have distinct : Json.Distinct (.obj patch) := by
    have sorted : (entryTree entry value).Sorted :=
      nest_sorted _ (entry.valueSorted value valid.decoded)
    rw [tree] at sorted
    exact sorted.2.1.distinct
  have held : Assoc.get entry.fileName (Assoc.mapValues Json.obj (Assoc.mapValues Prod.fst state)) =
      (Assoc.get entry.fileName state).map fun found => Json.obj found.1 := by
    rw [Assoc.get_mapValues, Assoc.get_mapValues, Option.map_map]
    rfl
  have meets : Meets (some (stateTree state)) (entryTree entry value) ↔
      Meets ((Assoc.get entry.fileName state).map fun found => Json.obj found.1) (.obj patch) := by
    rw [tree, stateTree, patchTree, meets_cons (Assoc.get_nil _), held]
    exact and_iff_left (meets_nothing _)
  rw [meets, addEntry_ok_iff accepted]
  cases Assoc.get entry.fileName state with
  | none => exact iff_of_true ((insertOverlay_ok _ _ _ _ distinct).mpr (meets_empty patch)) (meets_none _)
  | some old => exact insertOverlay_ok patch old.1 old.2 entry.key distinct

theorem Union.meets {old new merged : Json} (union : Union (some old) new merged) (tree : Json) :
    Meets (some merged) tree ↔ Meets (some old) tree ∧ Meets (some new) tree := by
  simp only [meets_some]
  constructor
  · intro meet
    exact ⟨fun path here there found =>
      meet path here there ((union path here).mpr (.inl ⟨old, rfl, found⟩)),
      fun path here there found => meet path here there ((union path here).mpr (.inr found))⟩
  · rintro ⟨first, second⟩ path here there found
    rcases (union path here).mp found with ⟨value, same, held⟩ | held
    · cases same
      exact first path here there held
    · exact second path here there held

/-- A list of entries goes through exactly when each can be laid over what is there and no
two clash. -/
theorem addEntries_ok {values : List ConfigValue} (valid : ∀ entry ∈ values, ∃ value, entry.Valid value)
    {state : OverlayState} (sorted : (stateTree state).Sorted) :
    (∃ state', values.foldlM addEntry state = .ok state') ↔
      (∀ entry ∈ values, ∀ value, entry.value = .ok value →
        Meets (some (stateTree state)) (entryTree entry value)) ∧
      values.Pairwise fun entry other => ¬ Clashes entry other ∧ ¬ Clashes other entry := by
  induction values generalizing state with
  | nil => exact ⟨fun _ => ⟨by simp, .nil⟩, fun _ => ⟨state, rfl⟩⟩
  | cons entry rest ih =>
    obtain ⟨⟨value, here⟩, there⟩ := List.forall_mem_cons.mp valid
    have step : (∃ state', addEntry state entry = .ok state') ↔ _ := addEntry_ok here
    rw [List.foldlM_cons, List.forall_mem_cons, List.pairwise_cons]
    cases added : addEntry state entry with
    | error err =>
      refine iff_of_false ?_ ?_
      · rintro ⟨state', failed⟩
        cases failed
      · rintro ⟨⟨meet, -⟩, -⟩
        obtain ⟨state', accepted⟩ := step.mpr (meet value here.decoded)
        cases added.symm.trans accepted
    | ok between =>
      obtain ⟨value', decoded, sortedBetween, union⟩ := addEntry_union sorted added
      cases here.decoded.symm.trans decoded
      have meet := step.mp ⟨between, added⟩
      have clashFree (other : ConfigValue) (member : other ∈ rest) :
          (∀ value', other.value = .ok value' →
            Meets (some (stateTree between)) (entryTree other value')) ↔
          (∀ value', other.value = .ok value' →
            Meets (some (stateTree state)) (entryTree other value')) ∧
          (¬ Clashes entry other ∧ ¬ Clashes other entry) := by
        obtain ⟨value', valid'⟩ := there other member
        simp only [valid'.decoded, Except.ok.injEq, forall_eq', union.meets,
          meets_iff_not_clashes decoded valid'.decoded]
      have first : ∀ value', entry.value = .ok value' →
          Meets (some (stateTree state)) (entryTree entry value') := by
        intro value' decoded'
        cases decoded.symm.trans decoded'
        exact meet
      refine (ih there sortedBetween).trans ?_
      constructor
      · rintro ⟨later, pairs⟩
        exact ⟨⟨first, fun other member => ((clashFree other member).mp (later other member)).1⟩,
          fun other member => ((clashFree other member).mp (later other member)).2, pairs⟩
      · rintro ⟨⟨-, rests⟩, heads, pairs⟩
        exact ⟨fun other member =>
          (clashFree other member).mpr ⟨rests other member, heads other member⟩, pairs⟩

/-! ## The whole overlay -/

section

variable {values : List ConfigValue}

theorem configValuesOverlay_ok (valid : ∀ entry ∈ values, ∃ value, entry.Valid value) :
    (∃ files, configValuesOverlay values = .ok files) ↔
      values.Pairwise fun entry other => ¬ Clashes entry other ∧ ¬ Clashes other entry := by
  have whole := @addEntries_ok values valid [] ⟨Assoc.sorted_nil, trivial⟩
  have free : ∀ entry ∈ values, ∀ value, entry.value = .ok value →
      Meets (some (stateTree [])) (entryTree entry value) :=
    fun entry _ value _ => meets_empty _
  rw [and_iff_right free] at whole
  rw [← whole, configValuesOverlay]
  cases values.foldlM addEntry [] with
  | error err => simp
  | ok state => simp

theorem pairwise_iff_get :
    (values.Pairwise fun entry other => ¬ Clashes entry other ∧ ¬ Clashes other entry) ↔
      ∀ i j : Fin values.length, i ≠ j → ¬ Clashes (values.get i) (values.get j) := by
  rw [List.pairwise_iff_getElem]
  constructor
  · intro pairs i j different
    rcases lt_or_gt_of_ne (Fin.val_ne_of_ne different) with below | above
    · exact (pairs i j i.isLt j.isLt below).1
    · exact (pairs j i j.isLt i.isLt above).2
  · intro pairs i j hi hj below
    exact ⟨pairs ⟨i, hi⟩ ⟨j, hj⟩ (by simp; omega), pairs ⟨j, hj⟩ ⟨i, hi⟩ (by simp; omega)⟩

theorem clashes_of_leaves {other : ConfigValue} {path : List String} {leaf leaf' : Json}
    (supplied : Supplies entry path (.leaf leaf)) (supplied' : Supplies other path (.leaf leaf')) :
    Clashes entry other :=
  ⟨path, leaf, path, .leaf leaf', supplied, supplied', .inl (List.prefix_refl path)⟩

theorem leaf_configValuesOverlay {files : PatchFiles} (accepted : configValuesOverlay values = .ok files)
    (path : List String) (leaf : Json) :
    nodeAt (patchTree files) path = some (.leaf leaf) ↔
      ∃ entry ∈ values, Supplies entry path (.leaf leaf) := by
  cases path with
  | nil => simp [patchTree, Supplies, entryTree, nest]
  | cons file path => exact nodeAt_configValuesOverlay accepted file path _

theorem patchTree_injective : Function.Injective patchTree := by
  intro left right same
  have fields := Json.obj.inj same
  simp only [Assoc.mapValues] at fields
  refine List.map_injective_iff.mpr ?_ fields
  rintro ⟨file, table⟩ ⟨file', table'⟩ same
  simpa using same

/-- The overlay of a list of entries is that of the list in any other order. -/
theorem configValuesOverlay_perm {values' : List ConfigValue}
    (valid : ∀ entry ∈ values, ∃ value, entry.Valid value) (perm : values.Perm values')
    {files : PatchFiles} (accepted : configValuesOverlay values = .ok files) :
    configValuesOverlay values' = .ok files := by
  have valid' : ∀ entry ∈ values', ∃ value, entry.Valid value :=
    fun entry member => valid entry (perm.mem_iff.mpr member)
  have pairs := (configValuesOverlay_ok valid).mp ⟨files, accepted⟩
  have pairs' := (perm.pairwise_iff fun free => ⟨free.2, free.1⟩).mp pairs
  obtain ⟨files', accepted'⟩ := (configValuesOverlay_ok valid').mpr pairs'
  have same : patchTree files' = patchTree files := by
    refine (configValuesOverlay_sorted accepted').ext (configValuesOverlay_sorted accepted) fun path => ?_
    cases path with
    | nil => rfl
    | cons file path =>
      refine Option.ext fun node => ?_
      rw [nodeAt_configValuesOverlay accepted', nodeAt_configValuesOverlay accepted]
      simp only [perm.mem_iff]
  rw [accepted', patchTree_injective same]

/-- A list of entries that pass their own checks is accepted exactly when no leaf of one is
in the way of another.  The overlay then holds each leaf of each entry, and no other leaf,
and neither acceptance nor the overlay depends on the order of the list. -/
theorem configValuesOverlay_rejects_clashes
    (valid : ∀ entry ∈ values, ∃ value, entry.Valid value) :
    ((∃ files, configValuesOverlay values = .ok files) ↔
      ∀ i j : Fin values.length, i ≠ j → ¬ Clashes (values.get i) (values.get j)) ∧
    (∀ files, configValuesOverlay values = .ok files → ∀ path leaf,
      nodeAt (patchTree files) path = some (.leaf leaf) ↔
        ∃! i : Fin values.length, Supplies (values.get i) path (.leaf leaf)) ∧
    (∀ values', values.Perm values' → ∀ files,
      configValuesOverlay values = .ok files ↔ configValuesOverlay values' = .ok files) := by
  refine ⟨(configValuesOverlay_ok valid).trans pairwise_iff_get, ?_, ?_⟩
  · intro files accepted path leaf
    have free := pairwise_iff_get.mp ((configValuesOverlay_ok valid).mp ⟨files, accepted⟩)
    rw [leaf_configValuesOverlay accepted]
    constructor
    · rintro ⟨entry, member, supplied⟩
      obtain ⟨i, rfl⟩ := List.get_of_mem member
      refine ⟨i, supplied, fun j supplied' => ?_⟩
      by_contra different
      exact free j i different (clashes_of_leaves supplied' supplied)
    · rintro ⟨i, supplied, -⟩
      exact ⟨values.get i, List.get_mem values i, supplied⟩
  · intro values' perm files
    constructor
    · exact configValuesOverlay_perm valid perm
    · exact configValuesOverlay_perm (fun entry member => valid entry (perm.mem_iff.mpr member)) perm.symm

end

/-! Two entries that supply members of one table. -/

def memberEntry (name : String) : ConfigValue where
  fileName := "config.toml"
  key := "table"
  value := .ok (.obj [(name, .bool true)])
  keyNonempty := by decide
  valueSorted := by
    rintro value decoded
    cases decoded
    exact ⟨List.pairwise_singleton _ _, trivial, trivial⟩

theorem memberEntry_valid (name : String) :
    (memberEntry name).Valid (.obj [(name, .bool true)]) := by
  refine ⟨?_, rfl, rfl, rfl⟩
  show matchesFileNamePattern "config.toml" = true
  decide +kernel

/-- The leaf of one entry stands below the table of the other, and both are accepted. -/
theorem leaf_below_table_accepted :
    (∃ files, configValuesOverlay [memberEntry "a", memberEntry "b"] = .ok files) ∧
      Supplies (memberEntry "a") ["config.toml", "table", "a"] (.leaf (.bool true)) ∧
      Supplies (memberEntry "b") ["config.toml", "table"] .table ∧
      ["config.toml", "table"] <+: ["config.toml", "table", "a"] := by
  refine ⟨⟨[("config.toml", [("table", .obj [("a", .bool true), ("b", .bool true)])])], ?_⟩, ?_, ?_, ?_⟩
  · decide +kernel
  · exact ⟨_, rfl, by decide +kernel⟩
  · exact ⟨_, rfl, by decide +kernel⟩
  · decide

/-- Two members of one table are accepted in either order. -/
theorem members_accepted_in_any_order :
    configValuesOverlay [memberEntry "b", memberEntry "a"]
      = .ok [("config.toml", [("table", .obj [("a", .bool true), ("b", .bool true)])])] := by
  have valid : ∀ entry ∈ [memberEntry "a", memberEntry "b"], ∃ value, entry.Valid value := by
    intro entry member
    simp only [List.mem_cons, List.not_mem_nil, or_false] at member
    rcases member with rfl | rfl
    · exact ⟨_, memberEntry_valid "a"⟩
    · exact ⟨_, memberEntry_valid "b"⟩
  refine ((configValuesOverlay_rejects_clashes valid).2.2 _ (.swap _ _ _) _).mp ?_
  decide +kernel

end SeiController
