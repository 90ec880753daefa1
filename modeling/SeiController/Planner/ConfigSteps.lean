import Mathlib.Logic.Function.Basic
import SeiController.Lib.Decimal
import SeiController.Lib.MergePatch
import SeiController.Planner.PlanTypes

/-!
# What a plan does to the configuration files

The tasks of a plan that write `config.toml` or `app.toml`, read off the plan in order, and
their effect on the files.  Resolving an intent is `sei-config`'s work: `SeiConfig` names
what is taken from it.
-/

set_option autoImplicit false

namespace SeiController

/-! ## The files -/

/-- The files under `config/`; one that is missing reads as an empty table. -/
abbrev ConfigDir := String → Json

/-- `mergeAndWrite` for one file of a patch. -/
def patchFile (dir : ConfigDir) (entry : String × Table) : ConfigDir :=
  Function.update dir entry.1 (Json.merge (dir entry.1) (.obj entry.2))

def patchFiles (files : PatchFiles) (dir : ConfigDir) : ConfigDir :=
  files.foldl patchFile dir

def filesTouch (files : PatchFiles) (file : String) (path : List String) : Bool :=
  files.any fun entry => entry.1 == file && (Json.obj entry.2).touches path

theorem patchFiles_untouched {files : PatchFiles} {file : String} {path : List String}
    (apart : filesTouch files file path = false) (dir : ConfigDir) :
    (patchFiles files dir file).valueAt path = (dir file).valueAt path := by
  unfold patchFiles
  induction files generalizing dir with
  | nil => rfl
  | cons entry rest ih =>
    simp only [filesTouch, List.any_cons, Bool.or_eq_false_iff] at apart
    rw [List.foldl_cons, ih apart.2]
    unfold patchFile
    by_cases here : file = entry.1
    · have below : (Json.obj entry.2).touches path = false := by simpa [here] using apart.1
      rw [here, Function.update_self]
      exact Json.valueAt_merge_of_untouched _ below
    · rw [Function.update_of_ne here]

theorem patchFiles_alike (files : PatchFiles) {file : String} {path : List String}
    {dir dir' : ConfigDir} (alike : Json.Alike path (dir file) (dir' file)) :
    Json.Alike path (patchFiles files dir file) (patchFiles files dir' file) := by
  unfold patchFiles
  induction files generalizing dir dir' with
  | nil => exact alike
  | cons entry rest ih =>
    refine ih ?_
    unfold patchFile
    by_cases here : file = entry.1
    · subst here
      rw [Function.update_self, Function.update_self]
      exact alike.merge _
    · rw [Function.update_of_ne here, Function.update_of_ne here]
      exact alike

theorem patchFiles_touched {files : PatchFiles} {file : String} {path : List String}
    (touched : filesTouch files file path = true) {dir dir' : ConfigDir}
    (leaf : (dir file).LeafAt path) (leaf' : (dir' file).LeafAt path) :
    Json.Alike path (patchFiles files dir file) (patchFiles files dir' file) := by
  induction files generalizing dir dir' with
  | nil => cases touched
  | cons entry rest ih =>
    rw [filesTouch, List.any_cons, Bool.or_eq_true, Bool.and_eq_true, beq_iff_eq] at touched
    rw [patchFiles, List.foldl_cons, patchFiles, List.foldl_cons]
    by_cases head : entry.1 = file ∧ (Json.obj entry.2).touches path = true
    · refine patchFiles_alike rest ?_
      obtain ⟨rfl, reached⟩ := head
      rw [patchFile, patchFile, Function.update_self, Function.update_self]
      exact Json.merge_touched _ leaf leaf' reached
    · have kept (dir : ConfigDir) (leaf : (dir file).LeafAt path) :
          (patchFile dir entry file).LeafAt path := by
        have apart : filesTouch [entry] file path = false := by simpa [filesTouch] using head
        unfold Json.LeafAt
        exact (patchFiles_untouched apart dir).symm ▸ leaf
      exact ih (touched.resolve_left head) (kept dir leaf) (kept dir' leaf')

def patchedValue (files : PatchFiles) (place : String × List String) : Option Json :=
  (Assoc.get place.1 files).bind fun table => (Json.obj table).valueAt place.2

/-- A place that the patch of a file touches at one of its values, if at all, holds that
value. -/
theorem valueAt_patchFile {name file : String} {table : Table} {path : List String} {old : Json}
    {dir : ConfigDir} (sorted : (Json.obj table).Sorted)
    (ends : filesTouch [(name, table)] file path = true →
      ∃ leaf, (Json.obj table).valueAt path = some leaf ∧ leaf.fields? = none ∧ leaf ≠ .null)
    (there : (dir file).valueAt path = some old) (oldLeaf : old.fields? = none) :
    (patchFiles [(name, table)] dir file).valueAt path =
        some ((patchedValue [(name, table)] (file, path)).getD old) ∧
      ((patchedValue [(name, table)] (file, path)).getD old).fields? = none := by
  unfold patchedValue
  rw [Assoc.get_cons]
  cases touched : filesTouch [(name, table)] file path with
  | true =>
    obtain ⟨leaf, found, single, present⟩ := ends touched
    obtain rfl : name = file := by simp [filesTouch] at touched; exact touched.1
    rw [if_pos rfl, Option.bind_some, found, patchFiles, List.foldl_cons, List.foldl_nil, patchFile,
      Function.update_self]
    exact ⟨Json.valueAt_merge_of_leaf single present path _ _ sorted found, single⟩
  | false =>
    rw [patchFiles_untouched touched, there]
    by_cases here : file = name
    · have apart : (Json.obj table).touches path = false := by
        simpa [filesTouch, here] using touched
      rw [if_pos here, Option.bind_some, Json.valueAt_of_untouched _ _ apart]
      exact ⟨rfl, oldLeaf⟩
    · rw [if_neg here]
      exact ⟨rfl, oldLeaf⟩

/-! ## State sync -/

/-- What `configure-state-sync` finds out: a trust point, and the witnesses that answer. -/
structure TrustPoint where
  trustHeight : Int
  trustHash : String
  rpcServers : String

def stateSyncTable (point : TrustPoint) : TaskParams → Table
  | .configureStateSync useLocalSnapshot _ trustPeriod backfillBlocks =>
    let ss : Table := [("enable", .bool true), ("rpc-servers", .str point.rpcServers),
      ("trust-hash", .str point.trustHash), ("trust-height", .num (.ofInt point.trustHeight)),
      ("use-local-snapshot", .bool useLocalSnapshot)]
    let ss := if trustPeriod ≠ "" then Assoc.set "trust-period" (.str trustPeriod) ss else ss
    if backfillBlocks > 0 then Assoc.set "backfill-blocks" (.num (.ofInt backfillBlocks)) ss else ss
  | _ => []

def writeStateSyncToConfig (point : TrustPoint) (params : TaskParams) : PatchFiles :=
  [("config.toml", [("statesync", .obj (stateSyncTable point params))])]

/-- A table without tables and without deletions. -/
structure Settings (table : Table) : Prop where
  sorted : (Json.obj table).Sorted
  leaf : ∀ {name value}, Assoc.get name table = some value → value.fields? = none ∧ value ≠ .null

theorem Settings.set {table : Table} (settings : Settings table) (wanted : Prop)
    [Decidable wanted] (key : String) {value : Json} (sorted : value.Sorted)
    (leaf : value.fields? = none ∧ value ≠ .null) :
    Settings (if wanted then Assoc.set key value table else table) := by
  split
  · refine ⟨⟨settings.sorted.1.set key value, settings.sorted.2.set key sorted⟩, fun found => ?_⟩
    rw [Assoc.get_set] at found
    split at found
    · cases found
      exact leaf
    · exact settings.leaf found
  · exact settings

theorem stateSyncTable_settings (point : TrustPoint) (params : TaskParams) :
    Settings (stateSyncTable point params) := by
  unfold stateSyncTable
  split
  next useLocalSnapshot _ trustPeriod backfillBlocks =>
    have base : Settings [("enable", .bool true), ("rpc-servers", .str point.rpcServers),
        ("trust-hash", .str point.trustHash), ("trust-height", .num (.ofInt point.trustHeight)),
        ("use-local-snapshot", .bool useLocalSnapshot)] := by
      refine ⟨⟨?_, by simp [Json.SortedFields, Json.Sorted]⟩, fun found => ?_⟩
      · show List.Pairwise (· < ·)
          ["enable", "rpc-servers", "trust-hash", "trust-height", "use-local-snapshot"]
        decide +kernel
      · have member := Assoc.mem_of_get found
        simp only [List.mem_cons, List.not_mem_nil, or_false, Prod.mk.injEq] at member
        rcases member with ⟨-, rfl⟩ | ⟨-, rfl⟩ | ⟨-, rfl⟩ | ⟨-, rfl⟩ | ⟨-, rfl⟩ <;>
          simp [Json.fields?]
    refine Settings.set (Settings.set base _ _ ?_ ?_) _ _ ?_ ?_ <;>
      simp [Json.Sorted, Json.fields?]
  · exact ⟨⟨Assoc.sorted_nil, trivial⟩,
      fun found => absurd (Assoc.mem_of_get found) List.not_mem_nil⟩

/-! ## The steps of a plan -/

inductive ConfigStep
  | apply (intent : ConfigIntent)
  | patch (files : PatchFiles)
  | stateSync (params : TaskParams)

def configStep (taskType : TaskType) (params : TaskParams) : Option ConfigStep :=
  match taskType, params with
  | .configApply, .configApply intent => some (.apply intent)
  | .configPatch, .configPatch files => some (.patch files)
  | .configureStateSync, params => some (.stateSync params)
  | _, _ => none

def configSteps (tasks : List PlannedTask) : List ConfigStep :=
  tasks.filterMap fun task => configStep task.type task.params

/-- What a task writes, with the overlay in front of it if it is a validation. -/
def overlaidStep (overlay : List ConfigStep) (taskType : TaskType) (params : TaskParams) :
    List ConfigStep :=
  (if taskType = .configValidate then overlay else []) ++ (configStep taskType params).toList

def overlaidSteps (overlay : List ConfigStep) (tasks : List PlannedTask) : List ConfigStep :=
  tasks.flatMap fun task => overlaidStep overlay task.type task.params

theorem overlaidSteps_assembleSteps (overlay : List ConfigStep) (planID : String)
    (steps : List PlanStep) :
    overlaidSteps overlay (assembleSteps planID steps).tasks =
      steps.flatMap fun step => overlaidStep overlay step.taskType step.params := by
  unfold overlaidSteps assembleSteps buildTasks
  rw [List.mapIdx_eq_zipIdx_map, List.flatMap_map]
  calc steps.zipIdx.flatMap _
      = (steps.zipIdx.map Prod.fst).flatMap fun step =>
          overlaidStep overlay step.taskType step.params := by
        rw [List.flatMap_map]
        rfl
    _ = _ := by rw [List.zipIdx_map_fst]

theorem configSteps_append (front back : List PlannedTask) :
    configSteps (front ++ back) = configSteps front ++ configSteps back :=
  List.filterMap_append

theorem configSteps_spliceOverlay (planID : String) (patch : PatchFiles)
    (tasks done : List PlannedTask) :
    configSteps (spliceOverlay planID patch done tasks) =
      configSteps done ++ overlaidSteps [.patch patch] tasks := by
  unfold overlaidSteps
  induction tasks generalizing done with
  | nil => rw [spliceOverlay, List.flatMap_nil, List.append_nil]
  | cons task rest ih =>
    rw [spliceOverlay, ih, List.flatMap_cons, configSteps_append, ← List.append_assoc]
    congr 1
    by_cases validation : task.type = .configValidate
    · rw [if_pos validation, configSteps_append, overlaidStep, if_pos validation, List.append_assoc]
      rfl
    · rw [if_neg validation, overlaidStep, if_neg validation]
      rfl

/-- The overlay a plan of the node carries; it depends on the spec only. -/
def overlaySteps (node : SeiNode) : List ConfigStep :=
  if node.spec.configValues.isEmpty && (consensusOverlay node).isNone then []
  else
    match configValuesOverlay node.spec.configValues with
    | .error _ => []
    | .ok user =>
      match mergeOverlayPatches user (consensusOverlay node) with
      | .error _ => []
      | .ok patch => [.patch patch]

variable {node : SeiNode}

theorem consensusOverlay_congr {other : SeiNode} (spec : other.spec = node.spec) :
    consensusOverlay other = consensusOverlay node := by
  unfold consensusOverlay
  rw [spec]

theorem overlaySteps_congr {other : SeiNode} (spec : other.spec = node.spec) :
    overlaySteps other = overlaySteps node := by
  unfold overlaySteps
  rw [consensusOverlay_congr spec, spec]

/-- The operator's overlay decides what the place holds. -/
def overlayTouches (node : SeiNode) (place : String × List String) : Bool :=
  (overlaySteps node).any fun
    | .patch files => filesTouch files place.1 place.2
    | _ => false

theorem overlaidSteps_nil (tasks : List PlannedTask) :
    overlaidSteps [] tasks = configSteps tasks := by
  unfold overlaidSteps
  induction tasks with
  | nil => rfl
  | cons task rest ih =>
    have step : overlaidStep [] task.type task.params =
        (configStep task.type task.params).toList := by
      unfold overlaidStep
      split <;> rfl
    rw [List.flatMap_cons, ih, step]
    unfold configSteps
    rw [List.filterMap_cons]
    cases configStep task.type task.params <;> rfl

theorem configSteps_withConfigValues {platform : Platform} {plan result : TaskPlan}
    (overlaid : withConfigValues platform plan node = .ok result) :
    configSteps result.tasks = overlaidSteps (overlaySteps node) plan.tasks := by
  unfold withConfigValues at overlaid
  unfold overlaySteps
  cases hashed : configValuesHash platform node.spec.configValues with
  | error err => rw [hashed] at overlaid; cases overlaid
  | ok hash =>
    rw [hashed] at overlaid
    simp only [bind, Except.bind] at overlaid
    split at overlaid
    next plain =>
      cases overlaid
      rw [if_pos plain, overlaidSteps_nil]
    next spliced =>
      rw [if_neg spliced]
      cases user : configValuesOverlay node.spec.configValues with
      | error err => rw [user] at overlaid; cases overlaid
      | ok files =>
        rw [user] at overlaid
        simp only at overlaid ⊢
        cases merged : mergeOverlayPatches files (consensusOverlay node) with
        | error err => rw [merged] at overlaid; cases overlaid
        | ok patch =>
          rw [merged] at overlaid
          simp only at overlaid
          split at overlaid
          · cases overlaid
          · cases overlaid
            rw [configSteps_spliceOverlay]
            rfl

/-! ## The steps of the two kinds of plan -/

/-- The task types that write no configuration and mark no place for the overlay. -/
def writesNoConfig (taskType : TaskType) : Prop :=
  taskType ∉ [.configApply, .configPatch, .configureStateSync, .configValidate]

instance (taskType : TaskType) : Decidable (writesNoConfig taskType) :=
  inferInstanceAs (Decidable (taskType ∉ _))

theorem overlaidStep_silent {overlay : List ConfigStep} {taskType : TaskType} {params : TaskParams}
    (silent : writesNoConfig taskType) : overlaidStep overlay taskType params = [] := by
  simp only [writesNoConfig, List.mem_cons, List.not_mem_nil, or_false, not_or] at silent
  obtain ⟨notApply, notPatch, notSync, notValidate⟩ := silent
  unfold overlaidStep
  rw [if_neg notValidate, List.nil_append]
  unfold configStep
  split
  · exact absurd rfl notApply
  · exact absurd rfl notPatch
  · exact absurd rfl notSync
  · rfl

theorem flatMap_silent {overlay : List ConfigStep} {params : TaskType → TaskParams}
    {prog : List TaskType} (silent : ∀ taskType ∈ prog, writesNoConfig taskType) :
    (prog.flatMap fun taskType => overlaidStep overlay taskType (params taskType)) = [] := by
  rw [List.flatMap_eq_nil_iff]
  exact fun taskType member => overlaidStep_silent (silent taskType member)

theorem validations_silent (node : SeiNode) :
    ∀ taskType ∈ validations node, writesNoConfig taskType := by
  intro taskType member writes
  have listed := mem_validations member
  simp only [List.mem_cons, List.not_mem_nil, or_false] at listed writes
  rcases listed with rfl | rfl | rfl <;> simp at writes

/-- The state-sync step of a startup plan, which a snapshot source brings. -/
def stateSyncSteps? (node : SeiNode) (snap : Option SnapshotSource) : List ConfigStep :=
  if needsStateSyncWitnesses snap then [.stateSync (configureStateSyncTask node)] else []

theorem buildSidecarProgression_eq (snap : Option SnapshotSource) :
    buildSidecarProgression snap = .ok
      ((if hasS3Snapshot snap then [.snapshotRestore] else [])
        ++ [.configureGenesis, .configApply]
        ++ (if needsStateSyncWitnesses snap then [.configureStateSync] else [])
        ++ [.configValidate, .markReady]) := by
  unfold buildSidecarProgression bootstrapMode
  generalize needsStateSyncWitnesses snap = witnesses
  cases hasS3Snapshot snap with
  | true => cases witnesses <;> rfl
  | false => cases hasStateSync snap <;> cases witnesses <;> rfl

theorem configSteps_sidecar {snap : Option SnapshotSource} {intent : ConfigIntent}
    {prog : List TaskType} (overlay : List ConfigStep)
    (progression : buildSidecarProgression snap = .ok prog) :
    (prog.flatMap fun taskType =>
        overlaidStep overlay taskType (paramsForTaskType node taskType snap (some intent))) =
      .apply intent :: stateSyncSteps? node snap ++ overlay := by
  rw [buildSidecarProgression_eq] at progression
  cases progression
  unfold stateSyncSteps?
  cases hasS3Snapshot snap with
  | true => cases needsStateSyncWitnesses snap <;> simp [overlaidStep, configStep, paramsForTaskType]
  | false => cases needsStateSyncWitnesses snap <;> simp [overlaidStep, configStep, paramsForTaskType]

theorem configSteps_buildBasePlan {platform : Platform} {planID : String}
    {snap : Option SnapshotSource} {intent : ConfigIntent} {plan : TaskPlan}
    (unmounted : node.mountsNodeConfig = false)
    (built : buildBasePlan platform planID node snap intent = .ok plan) :
    configSteps plan.tasks = .apply intent :: stateSyncSteps? node snap ++ overlaySteps node := by
  unfold buildBasePlan at built
  cases progression : buildSidecarProgression snap with
  | error err => rw [progression] at built; cases built
  | ok prog =>
    rw [progression] at built
    have overlaid := configSteps_withConfigValues built
    rw [overlaid]
    unfold startupPlan withoutManagedConfigTasks
    rw [unmounted, if_neg Bool.false_ne_true]
    dsimp only
    rw [overlaidSteps_assembleSteps, List.flatMap_map]
    simp only [List.flatMap_append]
    rw [configSteps_sidecar (overlaySteps node) progression,
      flatMap_silent (validations_silent node)]
    rfl

theorem insertBefore_split {pre post : List TaskType} {target taskType : TaskType}
    (fresh : taskType ∉ pre ++ target :: post) (first : target ∉ pre) :
    insertBefore (pre ++ target :: post) target taskType =
      .ok (pre ++ taskType :: target :: post) := by
  unfold insertBefore
  rw [if_neg fresh, if_pos (List.mem_append_right _ List.mem_cons_self)]
  have before : ∀ other ∈ pre, (decide (other ≠ target)) = true := fun other member =>
    decide_eq_true fun same => first (same ▸ member)
  rw [List.takeWhile_append_of_pos before, List.dropWhile_append_of_pos before,
    List.takeWhile_cons_of_neg (by simp), List.dropWhile_cons_of_neg (by simp), List.append_nil]

theorem configSteps_updatePlan {platform : Platform} {planID : String} {pre post : List TaskType}
    {patch : PatchFiles} {plan : TaskPlan} (regenerates : regeneratesBase platform node = true)
    (silentPre : ∀ taskType ∈ pre, writesNoConfig taskType)
    (silentPost : ∀ taskType ∈ post, writesNoConfig taskType)
    (built : updatePlan platform planID node (pre ++ .configPatch :: .configValidate :: post)
      patch = .ok plan) :
    configSteps plan.tasks =
      .apply (runningConfigIntent platform node) :: .patch patch :: overlaySteps node := by
  have inserted : insertBefore (pre ++ .configPatch :: .configValidate :: post) .configPatch
      .configApply = .ok (pre ++ .configApply :: .configPatch :: .configValidate :: post) := by
    refine insertBefore_split ?_ ?_
    · simp only [List.mem_append, List.mem_cons, not_or]
      exact ⟨fun member => silentPre _ member (by decide), by decide, by decide,
        fun member => silentPost _ member (by decide)⟩
    · exact fun member => silentPre _ member (by decide)
  unfold updatePlan at built
  rw [if_pos regenerates, inserted] at built
  have overlaid := configSteps_withConfigValues built
  rw [overlaid, overlaidSteps_assembleSteps, List.flatMap_map, List.flatMap_append,
    flatMap_silent silentPre, List.nil_append]
  simp only [List.flatMap_cons]
  rw [flatMap_silent silentPost]
  simp [overlaidStep, configStep, paramsForUpdateTask]

end SeiController
