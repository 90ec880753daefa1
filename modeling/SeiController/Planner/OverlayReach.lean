import SeiController.Planner.ConfigSteps
import SeiController.Planner.OverlayTree

/-!
# Configuration values reach the files

The overlay of an accepted list of `configValues`, merged into the files it names: every
leaf of every value stands where its entry put it, and what is neither above nor below a
leaf is left alone.  An empty table counts as a leaf: it makes a table of what stands at
its path.
-/

set_option autoImplicit false

namespace SeiController

open Json (nodeAt)

/-! ## The leaves of the patch and of its entries -/

theorem nodeAt_eq_map (value : Json) (path : List String) :
    nodeAt value path = (value.valueAt path).map (KeyTree.node Json.fields?) := by
  induction path generalizing value with
  | nil => rfl
  | cons key path ih =>
    rw [nodeAt, KeyTree.at?, Json.valueAt]
    cases value.fields?.bind (Assoc.get key) with
    | none => rfl
    | some child => exact ih child

/-- The entry's value has the leaf at the path, counted from the root of its file. -/
structure ConfigValue.LeafAt (entry : ConfigValue) (path : List String) (leaf : Json) : Prop where
  held : ∃ value below, entry.value = .ok value ∧ value.valueAt below = some leaf ∧
    path = keyPath entry.key ++ below
  ends : leaf.IsLeaf

theorem valueAt_nest (path below : List String) (value : Json) :
    (nest path value).valueAt (path ++ below) = value.valueAt below := by
  induction path with
  | nil => rfl
  | cons key path ih =>
    show ((Json.obj [(key, nest path value)]).valueAt (key :: (path ++ below))) = _
    rw [Json.valueAt_obj_cons, Assoc.get_cons, if_pos rfl]
    exact ih

theorem valueAt_nest_some {path at_ : List String} {value found : Json}
    (there : (nest path value).valueAt at_ = some found) :
    (∃ key rest, path = at_ ++ key :: rest ∧ found = nest (key :: rest) value) ∨
      ∃ below, at_ = path ++ below ∧ value.valueAt below = some found := by
  induction path generalizing at_ with
  | nil => exact .inr ⟨at_, rfl, there⟩
  | cons key path ih =>
    cases at_ with
    | nil =>
      cases there
      exact .inl ⟨key, path, rfl, rfl⟩
    | cons name at_ =>
      have inside : ((Json.obj [(key, nest path value)]).valueAt (name :: at_)) = some found := there
      rw [Json.valueAt_obj_cons, Assoc.get_cons] at inside
      by_cases here : name = key
      · subst here
        rw [if_pos rfl] at inside
        rcases ih inside with ⟨inner, rest, split, same⟩ | ⟨below, split, same⟩
        · exact .inl ⟨inner, rest, by rw [split]; rfl, same⟩
        · exact .inr ⟨below, by rw [split]; rfl, same⟩
      · rw [if_neg here] at inside
        cases inside

theorem eq_of_node_leaf {found leaf : Json} (single : leaf.fields? = none)
    (same : KeyTree.node Json.fields? found = KeyTree.node Json.fields? leaf) : found = leaf := by
  rw [KeyTree.node_leaf single] at same
  cases shown : found.fields? with
  | none =>
    rw [KeyTree.node_leaf shown] at same
    cases same
    rfl
  | some fields =>
    rw [KeyTree.node_table shown] at same
    cases same

section

variable {values : List ConfigValue} {files : PatchFiles}

theorem valueAt_patchTree (files : PatchFiles) (file : String) (path : List String) :
    (patchTree files).valueAt (file :: path) =
      (Assoc.get file files).bind fun table => (Json.obj table).valueAt path := by
  rw [patchTree, Json.valueAt_obj_cons, Assoc.get_mapValues]
  cases Assoc.get file files <;> rfl

/-- A leaf that is no table stands in the patch of its file. -/
theorem ConfigValue.LeafAt.patched (accepted : configValuesOverlay values = .ok files)
    {entry : ConfigValue} (member : entry ∈ values) {path : List String} {leaf : Json}
    (here : entry.LeafAt path leaf) (single : leaf.fields? = none) :
    ∃ table, Assoc.get entry.fileName files = some table ∧
      (Json.obj table).valueAt path = some leaf := by
  obtain ⟨value, below, decoded, there, rfl⟩ := here.held
  have supplied : Supplies entry (entry.fileName :: (keyPath entry.key ++ below)) (.leaf leaf) := by
    refine ⟨value, decoded, ?_⟩
    rw [nodeAt_eq_map, ← List.cons_append, entryTree, valueAt_nest, there, Option.map_some,
      KeyTree.node_leaf single]
  have patched := (nodeAt_configValuesOverlay accepted _ _ _).mpr ⟨entry, member, supplied⟩
  rw [nodeAt_eq_map, valueAt_patchTree, Option.map_eq_some_iff] at patched
  obtain ⟨found, held, same⟩ := patched
  obtain ⟨table, got, inside⟩ := Option.bind_eq_some_iff.mp held
  rw [← KeyTree.node_leaf single] at same
  rw [eq_of_node_leaf single same] at inside
  exact ⟨table, got, inside⟩

/-- Every leaf of the patch of a file is a leaf of one of the entries. -/
theorem leafAt_of_patch (accepted : configValuesOverlay values = .ok files) {file : String}
    {table : Table} (got : Assoc.get file files = some table) {path : List String} {leaf : Json}
    (there : (Json.obj table).valueAt path = some leaf) (ends : leaf.IsLeaf) :
    ∃ entry ∈ values, entry.fileName = file ∧ entry.LeafAt path leaf := by
  have patched (below : List String) : (patchTree files).valueAt (file :: below)
      = (Json.obj table).valueAt below := by
    rw [valueAt_patchTree, got, Option.bind_some]
  have node : nodeAt (patchTree files) (file :: path) = some (KeyTree.node Json.fields? leaf) := by
    rw [nodeAt_eq_map, patched, there, Option.map_some]
  obtain ⟨entry, member, value, decoded, held⟩ := (nodeAt_configValuesOverlay accepted _ _ _).mp node
  rw [nodeAt_eq_map, Option.map_eq_some_iff] at held
  obtain ⟨found, held, same⟩ := held
  have eq : found = leaf := by
    rcases ends with single | rfl
    · exact eq_of_node_leaf single same
    · obtain ⟨fields, shown⟩ := KeyTree.node_eq_table.mp (same.trans (KeyTree.node_table rfl))
      obtain rfl : found = .obj fields := by
        cases found with
        | obj entries => cases shown; rfl
        | _ => cases shown
      cases fields with
      | nil => rfl
      | cons head rest =>
        -- A child in the entry's tree would be one in the patch.
        obtain ⟨key, child⟩ := head
        have below : (entryTree entry value).valueAt (file :: (path ++ [key])) = some child := by
          rw [← List.cons_append, Json.valueAt_append, held, Option.bind_some, Json.valueAt_obj_cons,
            Assoc.get_cons, if_pos rfl]
          rfl
        have supplied : Supplies entry (file :: (path ++ [key])) (KeyTree.node Json.fields? child) :=
          ⟨value, decoded, by rw [nodeAt_eq_map, below, Option.map_some]⟩
        have inside := (nodeAt_configValuesOverlay accepted _ _ _).mpr ⟨entry, member, supplied⟩
        rw [nodeAt_eq_map, patched, Json.valueAt_append, there] at inside
        cases inside
  subst eq
  rcases valueAt_nest_some held with ⟨key, rest, _, rfl⟩ | ⟨below, split, inside⟩
  · rcases ends with single | empty
    · cases single
    · cases empty
  · rw [List.cons_append, List.cons.injEq] at split
    exact ⟨entry, member, split.1.symm, ⟨value, below, decoded, inside, split.2⟩, ends⟩

/-! ## No nulls -/

theorem containsNull_of_get {key : String} {child : Json} (fields : List (String × Json)) :
    fieldsContainNull fields = false → Assoc.get key fields = some child →
      containsNull child = false := by
  induction fields with
  | nil => intro _ found; cases found
  | cons head rest ih =>
    intro clean found
    obtain ⟨name, value⟩ := head
    rw [fieldsContainNull, Bool.or_eq_false_iff] at clean
    rw [Assoc.get_cons] at found
    by_cases here : key = name
    · rw [if_pos here] at found
      cases found
      exact clean.1
    · rw [if_neg here] at found
      exact ih clean.2 found

theorem ne_null_of_valueAt {leaf : Json} (path : List String) :
    ∀ value : Json, containsNull value = false → value.valueAt path = some leaf → leaf ≠ .null := by
  induction path with
  | nil =>
    rintro value clean there rfl
    cases there
    cases clean
  | cons key path ih =>
    intro value clean there
    obtain ⟨fields, child, rfl, found, below⟩ := Json.fields_of_valueAt there
    exact ih child (containsNull_of_get fields clean found) below

theorem containsNull_of_entryPatch {entry : ConfigValue} {patch : Table} {value : Json}
    (accepted : entryPatch entry = .ok patch) (decoded : entry.value = .ok value) :
    containsNull value = false := by
  cases null : containsNull value with
  | false => rfl
  | true =>
    unfold entryPatch at accepted
    split at accepted
    · cases accepted
    · simp [decoded, null] at accepted

theorem addEntries_patch (entries : List ConfigValue) : ∀ {state state' : OverlayState},
    entries.foldlM addEntry state = .ok state' →
      ∀ entry ∈ entries, ∃ patch, entryPatch entry = .ok patch := by
  induction entries with
  | nil => intro _ _ _ entry member; cases member
  | cons first rest ih =>
    intro state state' added
    rw [List.foldlM_cons] at added
    cases step : addEntry state first with
    | error err =>
      rw [step] at added
      cases added
    | ok between =>
      rw [step] at added
      refine List.forall_mem_cons.mpr ⟨?_, ih added⟩
      unfold addEntry at step
      split at step
      · cases step
      next patch checked => exact ⟨patch, checked⟩

theorem ConfigValue.LeafAt.ne_null (accepted : configValuesOverlay values = .ok files)
    {entry : ConfigValue} (member : entry ∈ values) {path : List String} {leaf : Json}
    (here : entry.LeafAt path leaf) : leaf ≠ .null := by
  obtain ⟨value, below, decoded, there, -⟩ := here.held
  unfold configValuesOverlay at accepted
  split at accepted
  · cases accepted
  next state added =>
    obtain ⟨patch, checked⟩ := addEntries_patch values added entry member
    exact ne_null_of_valueAt below value (containsNull_of_entryPatch checked decoded) there

/-! ## The files -/

theorem patchFiles_of_get (files : PatchFiles) : ∀ dir : ConfigDir, Assoc.Sorted files →
    ∀ file, patchFiles files dir file =
      match Assoc.get file files with
      | some table => Json.merge (dir file) (.obj table)
      | none => dir file := by
  induction files with
  | nil => intro dir _ file; rfl
  | cons head rest ih =>
    intro dir sorted file
    obtain ⟨name, table⟩ := head
    have later := ih (patchFile dir (name, table)) sorted.tail file
    have folded : patchFiles ((name, table) :: rest) dir
        = patchFiles rest (patchFile dir (name, table)) := rfl
    rw [folded, later, Assoc.get_cons]
    by_cases here : file = name
    · subst here
      rw [if_pos rfl, sorted.get_head_rest]
      exact Function.update_self ..
    · rw [if_neg here]
      have kept : patchFile dir (name, table) file = dir file := Function.update_of_ne here ..
      rw [kept]

theorem sorted_of_patchTree {files : PatchFiles} (sorted : (patchTree files).Sorted) :
    Assoc.Sorted files := by
  have keys := sorted.1
  unfold Assoc.Sorted Assoc.mapValues at keys
  rw [List.map_map] at keys
  exact keys

/-- For every accepted list of values and every state of the files: each leaf that is no
table stands, after the overlay is merged in, at its entry's path extended by its own, and
a value neither above nor below a leaf of an entry for its file is unchanged. -/
theorem config_values_reach_files (accepted : configValuesOverlay values = .ok files)
    (dir : ConfigDir) :
    (∀ entry ∈ values, ∀ path leaf, entry.LeafAt path leaf → leaf.fields? = none →
      (patchFiles files dir entry.fileName).valueAt path = some leaf) ∧
    ∀ file path kept, (dir file).valueAt path = some kept →
      (∀ entry ∈ values, entry.fileName = file → ∀ patched leaf, entry.LeafAt patched leaf →
        ¬ path <+: patched ∧ ¬ patched <+: path) →
      (patchFiles files dir file).valueAt path = some kept := by
  have sorted := configValuesOverlay_sorted accepted
  have merged := patchFiles_of_get files dir (sorted_of_patchTree sorted)
  have sortedTable {file : String} {table : Table} (got : Assoc.get file files = some table) :
      Json.Sorted (.obj table) :=
    sorted.2.of_get (by rw [Assoc.get_mapValues, got]; rfl)
  constructor
  · intro entry member path leaf here single
    obtain ⟨table, got, there⟩ := here.patched accepted member single
    have read := merged entry.fileName
    rw [got] at read
    rw [read]
    exact Json.valueAt_merge_of_leaf single (here.ne_null accepted member) path _ _
      (sortedTable got) there
  · intro file path kept there apart
    have read := merged file
    cases got : Assoc.get file files with
    | none =>
      rw [got] at read
      rw [read]
      exact there
    | some table =>
      rw [got] at read
      rw [read]
      cases touched : (Json.obj table).touches path with
      | false => rw [Json.valueAt_merge_of_untouched _ touched, there]
      | true =>
        obtain ⟨below, leaf, held, ends, near⟩ :=
          Json.leaf_of_touches path _ (sortedTable got) touched
        obtain ⟨entry, member, same, here⟩ := leafAt_of_patch accepted got held ends
        obtain ⟨above, beneath⟩ := apart entry member same below leaf here
        exact (near.elim above beneath).elim

end

def emptyTableEntry : ConfigValue where
  fileName := "app.toml"
  key := "a"
  value := .ok (.obj [])
  keyNonempty := by decide
  valueSorted := by
    rintro decoded ⟨⟩
    exact ⟨Assoc.sorted_nil, trivial⟩

def switchEntry : ConfigValue where
  fileName := "app.toml"
  key := "api.enable"
  value := .ok (.bool true)
  keyNonempty := by decide
  valueSorted := by
    rintro decoded ⟨⟩
    trivial

def textDir : ConfigDir := fun _ => .obj [("a", .str "x")]

/-- An empty table has no leaf but itself, and replaces the text. -/
theorem empty_table_replaces_value :
    configValuesOverlay [emptyTableEntry] = .ok [("app.toml", [("a", .obj [])])] ∧
      (∀ path leaf, emptyTableEntry.LeafAt path leaf → leaf.fields? ≠ none) ∧
      (textDir "app.toml").valueAt ["a"] = some (.str "x") ∧
      (patchFiles [("app.toml", [("a", .obj [])])] textDir "app.toml").valueAt ["a"]
        = some (.obj []) := by
  refine ⟨by decide +kernel, ?_, rfl, rfl⟩
  rintro path leaf ⟨⟨value, below, decoded, there, -⟩, -⟩ single
  cases decoded
  cases below with
  | nil =>
    cases there
    cases single
  | cons key below => cases there

/-- A switch below a new table arrives, and the text beside it stays. -/
theorem switch_reaches_file :
    (patchFiles [("app.toml", [("api", .obj [("enable", .bool true)])])] textDir
        "app.toml").valueAt ["api", "enable"] = some (.bool true) ∧
      (patchFiles [("app.toml", [("api", .obj [("enable", .bool true)])])] textDir
        "app.toml").valueAt ["a"] = some (.str "x") := by
  have accepted : configValuesOverlay [switchEntry]
      = .ok [("app.toml", [("api", .obj [("enable", .bool true)])])] := by decide +kernel
  have path : keyPath switchEntry.key = ["api", "enable"] := by decide +kernel
  have reach := config_values_reach_files accepted textDir
  refine ⟨reach.1 _ List.mem_cons_self _ _ ⟨⟨.bool true, [], rfl, rfl, by rw [path]; rfl⟩,
    .inl rfl⟩ rfl, ?_⟩
  refine reach.2 "app.toml" ["a"] _ rfl ?_
  intro entry member _ patched leaf here
  obtain rfl := List.mem_singleton.mp member
  obtain ⟨value, below, decoded, there, rfl⟩ := here.held
  rw [path]
  simp

end SeiController
