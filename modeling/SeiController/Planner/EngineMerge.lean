import SeiController.Planner.Build
import SeiController.Planner.OverlayConflicts

/-!
# The engine's keys over the user's

`mergeOverlayPatches` lays the controller's patch over the user's in place.  It goes through
exactly when the two patches meet in tables only and then holds the nodes of both, in
whatever order the controller's maps are visited.  Nothing the user's patch holds is ever
changed, also when the merge is given up half way.
-/

set_option autoImplicit false

namespace SeiController

open Json (nodeAt)

/-! ## The merge in place -/

mutual

/-- The tables as they are left, and the error. -/
def mergeTablesInPlace (file pre : String) (dst : Table) : Table → Table × Option String
  | [] => (dst, none)
  | (key, value) :: rest =>
    match mergeKeyInPlace file pre dst key value with
    | (dst, some err) => (dst, some err)
    | (dst, none) => mergeTablesInPlace file pre dst rest

def mergeKeyInPlace (file pre : String) (dst : Table) (key : String) : Json → Table × Option String
  | .obj incoming =>
    match Assoc.get key dst with
    | some (.obj current) =>
      let (merged, err) := mergeTablesInPlace file (pre ++ key ++ ".") current incoming
      (Assoc.set key (.obj merged) dst, err)
    | some _ => (dst, some (ownedKey file (pre ++ key)))
    | none => (Assoc.set key (.obj incoming) dst, none)
  | value =>
    match Assoc.get key dst with
    | some _ => (dst, some (ownedKey file (pre ++ key)))
    | none => (Assoc.set key value dst, none)

end

def mergeFilesInPlace (user : PatchFiles) : PatchFiles → PatchFiles × Option String
  | [] => (user, none)
  | (file, table) :: rest =>
    match mergeTablesInPlace file "" ((Assoc.get file user).getD []) table with
    | (merged, some err) => (Assoc.set file merged user, some err)
    | (merged, none) => mergeFilesInPlace (Assoc.set file merged user) rest

def outcome {α : Type} : α × Option String → Except String α
  | (_, some err) => .error err
  | (result, none) => .ok result

mutual

theorem mergeTables_eq_outcome : ∀ (src : Table) (file pre : String) (dst : Table),
    mergeTables file pre dst src = outcome (mergeTablesInPlace file pre dst src)
  | [], _, _, _ => rfl
  | (key, value) :: rest, file, pre, dst => by
      rw [mergeTables, mergeTablesInPlace, mergeKey_eq_outcome value]
      rcases mergeKeyInPlace file pre dst key value with ⟨dst', _ | err⟩
      · exact mergeTables_eq_outcome rest file pre dst'
      · rfl

theorem mergeKey_eq_outcome : ∀ (value : Json) (file pre : String) (dst : Table) (key : String),
    mergeKey file pre dst key value = outcome (mergeKeyInPlace file pre dst key value)
  | .obj incoming, file, pre, dst, key => by
      rw [mergeKey, mergeKeyInPlace]
      cases Assoc.get key dst with
      | none => rfl
      | some held =>
        cases held with
        | obj current =>
          simp only [mergeTables_eq_outcome incoming]
          rcases mergeTablesInPlace file (pre ++ key ++ ".") current incoming with ⟨merged, _ | err⟩
          · rfl
          · rfl
        | _ => rfl
  | .null, _, _, dst, key | .bool _, _, _, dst, key | .num _, _, _, dst, key
  | .str _, _, _, dst, key | .arr _, _, _, dst, key => by
      simp only [mergeKey, mergeKeyInPlace]
      cases Assoc.get key dst <;> rfl

end

theorem mergeFiles_eq_outcome (controller : PatchFiles) (user : PatchFiles) :
    mergeFiles user controller = outcome (mergeFilesInPlace user controller) := by
  induction controller generalizing user with
  | nil => rfl
  | cons entry rest ih =>
    obtain ⟨file, table⟩ := entry
    rw [mergeFiles, mergeFilesInPlace, mergeTables_eq_outcome]
    rcases mergeTablesInPlace file "" ((Assoc.get file user).getD []) table with ⟨merged, _ | err⟩
    · exact ih (Assoc.set file merged user)
    · rfl

/-! ## What was there stays -/

def Keeps (old new : Json) : Prop :=
  ∀ path node, nodeAt old path = some node → nodeAt new path = some node

theorem Keeps.rfl {value : Json} : Keeps value value :=
  fun _ _ found => found

theorem Keeps.trans {first second third : Json} (one : Keeps first second) (two : Keeps second third) :
    Keeps first third :=
  fun path node found => two path node (one path node found)

theorem Keeps.set {dst : Table} {key : String} {value : Json}
    (held : ∀ current, Assoc.get key dst = some current → Keeps current value) :
    Keeps (.obj dst) (.obj (Assoc.set key value dst)) := by
  intro path node found
  cases path with
  | nil => exact found
  | cons name path =>
    rw [nodeAt_obj_cons] at found ⊢
    obtain ⟨current, there, below⟩ := Option.bind_eq_some_iff.mp found
    rw [Assoc.get_set]
    split
    next hit =>
      rw [hit] at there
      exact held current there path node below
    next => rw [there, Option.bind_some, below]

theorem Keeps.set_new {dst : Table} {key : String} (value : Json) (missing : Assoc.get key dst = none) :
    Keeps (.obj dst) (.obj (Assoc.set key value dst)) :=
  .set fun current found => by simp [missing] at found

mutual

theorem mergeTablesInPlace_keeps : ∀ (src : Table) (file pre : String) (dst : Table),
    Keeps (.obj dst) (.obj (mergeTablesInPlace file pre dst src).1)
  | [], _, _, _ => .rfl
  | (key, value) :: rest, file, pre, dst => by
      have first := mergeKeyInPlace_keeps value file pre dst key
      rw [mergeTablesInPlace]
      generalize mergeKeyInPlace file pre dst key value = out at first
      obtain ⟨dst', _ | err⟩ := out
      · exact first.trans (mergeTablesInPlace_keeps rest file pre dst')
      · exact first

theorem mergeKeyInPlace_keeps : ∀ (value : Json) (file pre : String) (dst : Table) (key : String),
    Keeps (.obj dst) (.obj (mergeKeyInPlace file pre dst key value).1)
  | .obj incoming, file, pre, dst, key => by
      rw [mergeKeyInPlace]
      split
      next current found =>
        refine .set fun held there => ?_
        cases found.symm.trans there
        exact mergeTablesInPlace_keeps incoming file (pre ++ key ++ ".") current
      · exact .rfl
      next missing => exact .set_new _ missing
  | .null, _, _, dst, key | .bool _, _, _, dst, key | .num _, _, _, dst, key
  | .str _, _, _, dst, key | .arr _, _, _, dst, key => by
      simp only [mergeKeyInPlace]
      cases missing : Assoc.get key dst with
      | some held => exact .rfl
      | none => exact .set_new _ missing

end

theorem patchTree_set (file : String) (table : Table) (files : PatchFiles) :
    patchTree (Assoc.set file table files) =
      .obj (Assoc.set file (.obj table) (Assoc.mapValues .obj files)) := by
  rw [patchTree, Assoc.mapValues_set]

theorem get_patchTree (file : String) (files : PatchFiles) :
    Assoc.get file (Assoc.mapValues Json.obj files) = (Assoc.get file files).map Json.obj :=
  Assoc.get_mapValues _ _ _

theorem mergeFilesInPlace_keeps (controller : PatchFiles) (user : PatchFiles) :
    Keeps (patchTree user) (patchTree (mergeFilesInPlace user controller).1) := by
  induction controller generalizing user with
  | nil => exact .rfl
  | cons entry rest ih =>
    obtain ⟨file, table⟩ := entry
    have first : Keeps (patchTree user) (patchTree (Assoc.set file
        (mergeTablesInPlace file "" ((Assoc.get file user).getD []) table).1 user)) := by
      rw [patchTree_set]
      refine .set fun held there => ?_
      rw [get_patchTree] at there
      obtain ⟨current, found, rfl⟩ := Option.map_eq_some_iff.mp there
      rw [found]
      exact mergeTablesInPlace_keeps table file "" current
    rw [mergeFilesInPlace]
    generalize mergeTablesInPlace file "" ((Assoc.get file user).getD []) table = out at first
    obtain ⟨merged, _ | err⟩ := out
    · exact first.trans (ih (Assoc.set file merged user))
    · exact first

/-! ## When it goes through, and what it leaves -/

theorem mergeKey_leaf {value : Json} (leaf : value.fields? = none) (file pre : String) (dst : Table)
    (key : String) :
    mergeKey file pre dst key value =
      match Assoc.get key dst with
      | some _ => .error (ownedKey file (pre ++ key))
      | none => .ok (Assoc.set key value dst) := by
  cases value with
  | obj fields => cases leaf
  | _ => cases found : Assoc.get key dst <;> simp only [mergeKey, found]

def MergesKey (file pre : String) (dst : Table) (key : String) (value : Json) : Prop :=
  ((∃ out, mergeKey file pre dst key value = .ok out) ↔ Meets (Assoc.get key dst) value) ∧
    ∀ out, mergeKey file pre dst key value = .ok out →
      ∃ merged, out = Assoc.set key merged dst ∧ Union (Assoc.get key dst) value merged

def MergesTable (file pre : String) (dst src : Table) : Prop :=
  ((∃ out, mergeTables file pre dst src = .ok out) ↔ Meets (some (.obj dst)) (.obj src)) ∧
    ∀ out, mergeTables file pre dst src = .ok out → Union (some (.obj dst)) (.obj src) (.obj out)

theorem mergeKey_leaf_merges {value : Json} (leaf : value.fields? = none) (file pre : String)
    (dst : Table) (key : String) : MergesKey file pre dst key value := by
  unfold MergesKey
  rw [meets_leaf leaf, mergeKey_leaf leaf]
  cases Assoc.get key dst with
  | some held => simp
  | none =>
    refine ⟨by simp, fun out merged => ?_⟩
    cases merged
    exact ⟨value, rfl, .created value⟩

mutual

theorem mergeTables_merges : ∀ (src : Table) (file pre : String) (dst : Table),
    Json.Distinct (.obj src) → MergesTable file pre dst src
  | [], _, _, dst, _ => by
      refine ⟨iff_of_true ⟨dst, rfl⟩ (meets_nothing dst), fun out merged => ?_⟩
      cases merged
      exact .nothing dst
  | (key, value) :: rest, file, pre, dst, distinct => by
      have first := mergeKey_merges value file pre dst key distinct.2.1
      unfold MergesTable
      rw [meets_cons distinct.1, ← first.1, mergeTables]
      cases step : mergeKey file pre dst key value with
      | error err => simp
      | ok between =>
        obtain ⟨merged, rfl, union⟩ := first.2 between step
        have later := mergeTables_merges rest file pre (Assoc.set key merged dst) distinct.2.2
        unfold MergesTable at later
        rw [meets_set merged distinct.1] at later
        exact ⟨by simpa using later.1, fun out done => union.set distinct.1 (later.2 out done)⟩

theorem mergeKey_merges : ∀ (value : Json) (file pre : String) (dst : Table) (key : String),
    value.Distinct → MergesKey file pre dst key value
  | .obj incoming, file, pre, dst, key, distinct => by
      unfold MergesKey
      rw [mergeKey]
      cases found : Assoc.get key dst with
      | none =>
        refine ⟨by simp [meets_none], fun out merged => ?_⟩
        cases merged
        exact ⟨_, rfl, .created _⟩
      | some held =>
        cases held with
        | obj current =>
          have below := mergeTables_merges incoming file (pre ++ key ++ ".") current distinct
          unfold MergesTable at below
          rw [← below.1]
          dsimp only
          cases step : mergeTables file (pre ++ key ++ ".") current incoming with
          | error err => simp
          | ok merged =>
            refine ⟨by simp, fun out done => ?_⟩
            cases done
            exact ⟨_, rfl, below.2 merged step⟩
        | _ => simpa using not_meets_of_leaf rfl
  | .null, file, pre, dst, key, _ | .bool _, file, pre, dst, key, _ | .num _, file, pre, dst, key, _
  | .str _, file, pre, dst, key, _ | .arr _, file, pre, dst, key, _ =>
    mergeKey_leaf_merges rfl file pre dst key

end

theorem meets_getD {old : Option Table} {src : Table} :
    Meets (old.map Json.obj) (.obj src) ↔ Meets (some (.obj (old.getD []))) (.obj src) := by
  cases old with
  | none => exact iff_of_true (meets_none _) (meets_empty src)
  | some table => rfl

theorem Union.of_getD {old : Option Table} {src out : Table}
    (union : Union (some (.obj (old.getD []))) (.obj src) (.obj out)) :
    Union (old.map Json.obj) (.obj src) (.obj out) := by
  cases old with
  | none => exact union.of_empty
  | some table => exact union

theorem mergeFiles_merges (controller : PatchFiles) (user : PatchFiles)
    (distinct : (patchTree controller).Distinct) :
    ((∃ files, mergeFiles user controller = .ok files) ↔
      Meets (some (patchTree user)) (patchTree controller)) ∧
    ∀ files, mergeFiles user controller = .ok files →
      Union (some (patchTree user)) (patchTree controller) (patchTree files) := by
  induction controller generalizing user with
  | nil =>
    refine ⟨iff_of_true ⟨user, rfl⟩ (meets_nothing _), fun files merged => ?_⟩
    cases merged
    exact .nothing _
  | cons entry rest ih =>
    obtain ⟨file, table⟩ := entry
    obtain ⟨absent, below, others⟩ := distinct
    have first := mergeTables_merges table file "" ((Assoc.get file user).getD []) below
    unfold MergesTable at first
    rw [← meets_getD, ← get_patchTree] at first
    have meets : Meets (some (patchTree user)) (patchTree ((file, table) :: rest)) ↔ _ :=
      meets_cons absent
    rw [meets, ← first.1, mergeFiles]
    cases step : mergeTables file "" ((Assoc.get file user).getD []) table with
    | error err => simp
    | ok merged =>
      have later := ih (Assoc.set file merged user) others
      rw [patchTree_set] at later
      have union := (first.2 merged step).of_getD
      rw [← get_patchTree] at union
      have same : Meets (some (.obj (Assoc.set file (.obj merged) (Assoc.mapValues .obj user))))
          (patchTree rest) ↔ _ := meets_set _ absent
      rw [same] at later
      exact ⟨later.1.trans (and_iff_right ⟨merged, rfl⟩).symm,
        fun files done => union.set absent (later.2 files done)⟩

/-- The listings are of the same nested maps. -/
def SameMaps (left right : Json) : Prop :=
  ∀ path, nodeAt left path = nodeAt right path

/-- The merge goes through exactly when no node of the controller's patch stands at the path
of a node of the user's unless both are tables.  It then holds the nodes of both and no
other, however the controller's maps are listed.  Whether it goes through or is given up half
way, the user's tables still hold every leaf they held. -/
theorem mergeOverlayPatches_conflict_free_union (user controller visited : PatchFiles)
    (distinct : (patchTree visited).Distinct)
    (same : SameMaps (patchTree visited) (patchTree controller)) :
    ((∃ files, mergeOverlayPatches user (some visited) = .ok files) ↔
      ∀ path here there, nodeAt (patchTree user) path = some here →
        nodeAt (patchTree controller) path = some there → here = .table ∧ there = .table) ∧
    (∀ files, mergeOverlayPatches user (some visited) = .ok files → ∀ path node,
      nodeAt (patchTree files) path = some node ↔
        nodeAt (patchTree user) path = some node ∨ nodeAt (patchTree controller) path = some node) ∧
    mergeOverlayPatches user (some visited) = outcome (mergeFilesInPlace user visited) ∧
    (∀ path leaf, nodeAt (patchTree user) path = some (.leaf leaf) →
      nodeAt (patchTree (mergeFilesInPlace user visited).1) path = some (.leaf leaf)) := by
  obtain ⟨goes, union⟩ := mergeFiles_merges visited user distinct
  refine ⟨?_, ?_, mergeFiles_eq_outcome visited user, fun path leaf found => ?_⟩
  · rw [mergeOverlayPatches, goes, meets_some]
    simp only [same _]
  · intro files merged path node
    have nodes := union files merged path node
    simpa [same path] using nodes
  · exact mergeFilesInPlace_keeps visited user path _ found

/-! A user's key beside an engine's in one table, with the engine's files in either order. -/

def userPatch : PatchFiles :=
  [("app.toml", [("api", .obj [("swagger", .bool true)])])]

def enginePatch : PatchFiles :=
  [("app.toml", [("api", .obj [("enable", .bool false)])]), ("config.toml", [("evm-only", .bool true)])]

def enginePatchVisited : PatchFiles :=
  [("config.toml", [("evm-only", .bool true)]), ("app.toml", [("api", .obj [("enable", .bool false)])])]

theorem enginePatchVisited_same : SameMaps (patchTree enginePatchVisited) (patchTree enginePatch) := by
  intro path
  cases path with
  | nil => rfl
  | cons file path =>
    simp only [patchTree, enginePatchVisited, enginePatch, Assoc.mapValues, List.map_cons, List.map_nil,
      nodeAt_obj_cons, Assoc.get_cons, Assoc.get_nil]
    by_cases config : file = "config.toml"
    · subst config
      rfl
    · rw [if_neg config, if_neg config]

theorem enginePatch_merged :
    ∃ files, mergeOverlayPatches userPatch (some enginePatchVisited) = .ok files ∧
      nodeAt (patchTree files) ["app.toml", "api", "swagger"] = some (.leaf (.bool true)) ∧
      nodeAt (patchTree files) ["app.toml", "api", "enable"] = some (.leaf (.bool false)) := by
  obtain ⟨-, nodes, -⟩ := mergeOverlayPatches_conflict_free_union userPatch enginePatch
    enginePatchVisited ⟨by decide, ⟨rfl, trivial, trivial⟩, rfl,
      ⟨rfl, ⟨rfl, trivial, trivial⟩, trivial⟩, trivial⟩
    enginePatchVisited_same
  refine ⟨_, rfl, (nodes _ rfl _ _).mpr (.inl ?_), (nodes _ rfl _ _).mpr (.inr ?_)⟩
  · decide +kernel
  · decide +kernel

end SeiController
