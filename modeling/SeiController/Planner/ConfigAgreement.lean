import SeiController.Planner.ConfigSteps

/-!
# Startup and Running configurations

A node's startup plan and a Running plan that regenerates the base both apply the mode's
intent and end with the operator's overlay.  In between, the startup plan of a node with a
snapshot source configures state sync, and the Running plan stamps the controller's p2p keys.
-/

set_option autoImplicit false

namespace SeiController

def keyP2PPersistentPeers : String := "network.p2p.persistent_peers"

/-- `sei-config` as the plans use it: where each key is kept, and what `config-apply` writes. -/
structure SeiConfig (platform : Platform) where
  location : String → String × List String
  /-- The typed value an override's text stands for. -/
  render : String → String → Json
  apply : ConfigIntent → ConfigDir → ConfigDir
  writes : ∀ intent dir key value, Assoc.get key intent.overrides = some value →
    (apply intent dir (location key).1).valueAt (location key).2 = some (render key value)
  leaf : ∀ key text, (render key text).fields? = none
  peersLocation : location keyP2PPersistentPeers = ("config.toml", ["p2p", "persistent-peers"])
  peersText : ∀ text, render keyP2PPersistentPeers text = .str text
  externalLocation :
    location platform.keyP2PExternalAddress = ("config.toml", ["p2p", "external-address"])
  externalText : ∀ text, render platform.keyP2PExternalAddress text = .str text
  /-- Every other key is kept apart from the two. -/
  apart : ∀ key, key ≠ keyP2PPersistentPeers → key ≠ platform.keyP2PExternalAddress →
    ∀ address peers, filesTouch
      [("config.toml", [("p2p", .obj [("external-address", address), ("persistent-peers", peers)])])]
      (location key).1 (location key).2 = false
  /-- A key of the table is one of its entries. -/
  stateSync : ∀ key table, filesTouch [("config.toml", [("statesync", .obj table)])]
    (location key).1 (location key).2 = true →
      ∃ name, location key = ("config.toml", ["statesync", name])

variable {node : SeiNode}

section

variable {platform : Platform}

/-- `point` is missing if the marker says that state sync is configured. -/
def runStep (sei : SeiConfig platform) (point : Option TrustPoint) (dir : ConfigDir) :
    ConfigStep → ConfigDir
  | .apply intent => sei.apply intent dir
  | .patch files => patchFiles files dir
  | .stateSync params => patchFiles (point.elim [] (writeStateSyncToConfig · params)) dir

def finalValue (sei : SeiConfig platform) (point : Option TrustPoint) (dir : ConfigDir)
    (tasks : List PlannedTask) (key : String) : Option Json :=
  ((configSteps tasks).foldl (runStep sei point) dir (sei.location key).1).valueAt
    (sei.location key).2

/-! ## Intents and plans by mode -/

namespace ModePlanner

def modeOverrides (platform : Platform) : ModePlanner → List (String × String)
  | full spec => spec.controllerOverrides platform
  | archive spec => spec.controllerOverrides platform
  | replayer _ => replayerControllerOverrides
  | validator _ => []
  | seed _ => []

def configMode : ModePlanner → ConfigMode
  | full _ => .full
  | archive _ => .archive
  | replayer _ => .full
  | validator _ => .validator
  | seed _ => .seed

def snapshot : ModePlanner → Option SnapshotSource
  | full spec => spec.snapshot
  | archive _ => none
  | replayer spec => some spec.snapshot
  | validator spec => spec.snapshot
  | seed _ => none

def intent (platform : Platform) (node : SeiNode) (mode : ModePlanner) : ConfigIntent :=
  intentFor platform node mode.configMode (mode.modeOverrides platform)

end ModePlanner

/-- As the API admits a spec: one mode sub-spec. -/
def SeiNodeSpec.oneMode (spec : SeiNodeSpec) : Prop :=
  [spec.fullNode.isSome, spec.archive.isSome, spec.replayer.isSome, spec.validator.isSome,
    spec.seed.isSome].count true = 1

instance (spec : SeiNodeSpec) : Decidable spec.oneMode :=
  inferInstanceAs (Decidable (_ = 1))

theorem runningConfigIntent_eq {mode : ModePlanner} (admitted : node.spec.oneMode)
    (planner : plannerForMode node = .ok mode) :
    runningConfigIntent platform node = mode.intent platform node := by
  unfold SeiNodeSpec.oneMode at admitted
  unfold plannerForMode at planner
  unfold runningConfigIntent
  generalize node.spec.fullNode = full, node.spec.archive = archive,
    node.spec.replayer = replayer, node.spec.validator = validator, node.spec.seed = seed
    at admitted planner ⊢
  split at planner
  · cases planner; rfl
  · cases planner; rfl
  · -- a replayer is no validator and no seed
    cases planner
    cases validator with
    | some _ => cases seed <;> simp at admitted
    | none =>
      cases seed with
      | some _ => simp at admitted
      | none => rfl
  · cases planner; rfl
  · cases planner; rfl
  · cases planner

theorem intentFor_congr {later : SeiNode} (spec : later.spec = node.spec)
    (peers : later.status.resolvedPeers = node.status.resolvedPeers) :
    intentFor platform later = intentFor platform node := by
  funext mode overrides
  unfold intentFor commonOverrides
  rw [spec, peers]

theorem runningConfigIntent_congr {later : SeiNode} (spec : later.spec = node.spec)
    (peers : later.status.resolvedPeers = node.status.resolvedPeers) :
    runningConfigIntent platform later = runningConfigIntent platform node := by
  unfold runningConfigIntent
  rw [intentFor_congr spec peers, spec]

theorem p2pConfigPatch_congr {later : SeiNode} (spec : later.spec = node.spec)
    (peers : later.status.resolvedPeers = node.status.resolvedPeers) :
    p2pConfigPatch later = p2pConfigPatch node := by
  unfold p2pConfigPatch
  rw [spec, peers]

theorem configSteps_buildInitPlan {planID : String} {mode : ModePlanner} {plan : TaskPlan}
    (planner : plannerForMode node = .ok mode) (unmounted : node.mountsNodeConfig = false)
    (noCeremony : node.spec.validator.bind ValidatorSpec.genesisCeremony = none)
    (built : mode.buildInitPlan platform planID node = .ok plan) :
    configSteps plan.tasks =
      .apply (mode.intent platform node) :: stateSyncSteps? node mode.snapshot
        ++ overlaySteps node := by
  cases mode with
  | full spec => exact configSteps_buildBasePlan unmounted built
  | archive spec => exact configSteps_buildBasePlan unmounted built
  | replayer spec => exact configSteps_buildBasePlan unmounted built
  | seed spec => exact configSteps_buildBasePlan unmounted built
  | validator spec =>
    have isMode : node.spec.validator = some spec := by
      unfold plannerForMode at planner
      split at planner
      case h_4 found => cases planner; exact found
      all_goals cases planner
    rw [isMode, Option.bind_some] at noCeremony
    simp only [ModePlanner.buildInitPlan, noCeremony, Option.isSome_none, Bool.false_eq_true,
      if_false] at built
    exact configSteps_buildBasePlan unmounted built

theorem gates_silent (node : SeiNode) (mode : ModePlanner) :
    ∀ taskType ∈ mode.gates node, writesNoConfig taskType := by
  cases mode with
  | validator spec => exact validations_silent node
  | seed spec =>
    intro taskType member
    rw [ModePlanner.gates] at member
    split at member
    · rw [List.mem_singleton.mp member]
      decide
    · cases member
  | full spec => exact fun _ member => absurd member List.not_mem_nil
  | archive spec => exact fun _ member => absurd member List.not_mem_nil
  | replayer spec => exact fun _ member => absurd member List.not_mem_nil

theorem regenerates_of_configApply {planID : String} {prog : List TaskType} {patch : PatchFiles}
    {plan : TaskPlan} (absent : .configApply ∉ prog)
    (built : updatePlan platform planID node prog patch = .ok plan)
    (applies : plan.hasTask .configApply = true) : regeneratesBase platform node = true := by
  by_contra keeps
  unfold updatePlan at built
  rw [if_neg keeps] at built
  have overlaid := withConfigValues_overlaid built
  rcases overlaid.types ((plan.hasTask_iff .configApply).mp applies) with spliced | member
  · cases spliced
  · rw [types_assembleSteps, List.map_map] at member
    exact absent (by simpa using member)

theorem configSteps_assembleUpdatePlan {planID : String} {after : SeiNode} (pre : List TaskType)
    {post : List TaskType} {reason : NodeUpdateReason} {message : String} {plan : TaskPlan}
    (silentPre : ∀ taskType ∈ pre, writesNoConfig taskType)
    (silentPost : ∀ taskType ∈ post, writesNoConfig taskType)
    (built : assembleUpdatePlan platform planID (pre ++ .configPatch :: .configValidate :: post)
      reason message node = (after, .ok (some plan)))
    (applies : plan.hasTask .configApply = true) :
    configSteps plan.tasks =
      .apply (runningConfigIntent platform node) :: .patch (p2pConfigPatch node)
        :: overlaySteps node := by
  unfold assembleUpdatePlan at built
  split at built
  · cases built
  next plan' updated =>
    cases built
    refine configSteps_updatePlan (regenerates_of_configApply ?_ updated applies) silentPre
      silentPost updated
    simp only [List.mem_append, List.mem_cons, not_or]
    exact ⟨fun member => silentPre _ member (by decide), by decide, by decide,
      fun member => silentPost _ member (by decide)⟩

theorem configSteps_buildRunningUpdate {planID : String} {after : SeiNode} {gates : List TaskType}
    {plan : TaskPlan} (silent : ∀ taskType ∈ gates, writesNoConfig taskType)
    (built : buildRunningUpdate platform planID gates node = (after, .ok (some plan)))
    (applies : plan.hasTask .configApply = true) :
    configSteps plan.tasks =
      .apply (runningConfigIntent platform node) :: .patch (p2pConfigPatch node)
        :: overlaySteps node := by
  unfold buildRunningUpdate at built
  split at built
  · have split : gates ++ [TaskType.applyStatefulSet, .applyService, .configPatch, .configValidate,
        .replacePod, .observeImage, .markReady] =
        (gates ++ [.applyStatefulSet, .applyService])
          ++ .configPatch :: .configValidate :: [.replacePod, .observeImage, .markReady] := by
      rw [List.append_assoc]
      rfl
    rw [split] at built
    refine configSteps_assembleUpdatePlan (gates ++ _) ?_ ?_ built applies
    · intro taskType member
      rcases List.mem_append.mp member with gate | apply
      · exact silent taskType gate
      · rcases List.mem_pair.mp apply with rfl | rfl <;> decide
    · intro taskType member
      simp only [List.mem_cons, List.not_mem_nil, or_false] at member
      rcases member with rfl | rfl | rfl <;> decide
  split at built
  · refine configSteps_assembleUpdatePlan [] (fun _ member => absurd member List.not_mem_nil) ?_
      built applies
    intro taskType member
    rcases List.mem_pair.mp member with rfl | rfl <;> decide
  split at built
  · cases built
    cases applies
  · cases built

/-! ## The two runs -/

section

variable {sei : SeiConfig platform} {key : String} {point : Option TrustPoint}

theorem foldl_overlaySteps_iff (node : SeiNode) (point' : Option TrustPoint) {dir dir' : ConfigDir}
    {left right : Json} (leaf : left.fields? = none) (leaf' : right.fields? = none)
    (here : (dir (sei.location key).1).valueAt (sei.location key).2 = some left)
    (there : (dir' (sei.location key).1).valueAt (sei.location key).2 = some right) :
    ((overlaySteps node).foldl (runStep sei point) dir (sei.location key).1).valueAt
        (sei.location key).2 =
      ((overlaySteps node).foldl (runStep sei point') dir' (sei.location key).1).valueAt
        (sei.location key).2 ↔
      overlayTouches node (sei.location key) = true ∨ left = right := by
  have steps : overlaySteps node = [] ∨ ∃ files, overlaySteps node = [.patch files] := by
    unfold overlaySteps
    split
    · exact .inl rfl
    split
    · exact .inl rfl
    split
    · exact .inl rfl
    · exact .inr ⟨_, rfl⟩
  unfold overlayTouches
  rcases steps with none | ⟨files, one⟩
  · rw [none, List.foldl_nil, List.foldl_nil, here, there]
    simp
  rw [one, List.foldl_cons, List.foldl_nil, List.foldl_cons, List.foldl_nil, runStep, runStep]
  cases touched : filesTouch files (sei.location key).1 (sei.location key).2 with
  | true =>
    simp only [List.any_cons, touched, Bool.true_or, true_or, iff_true]
    exact (patchFiles_touched touched ⟨left, here, leaf⟩ ⟨right, there, leaf'⟩).valueAt
  | false =>
    rw [patchFiles_untouched touched, patchFiles_untouched touched, here, there]
    simp [touched]

def stateSyncFiles (node : SeiNode) (snap : Option SnapshotSource) (point : Option TrustPoint) :
    PatchFiles :=
  if snap.isSome then point.elim [] (writeStateSyncToConfig · (configureStateSyncTask node)) else []

theorem foldl_stateSyncSteps? (node : SeiNode) (snap : Option SnapshotSource) (dir : ConfigDir) :
    (stateSyncSteps? node snap).foldl (runStep sei point) dir =
      patchFiles (stateSyncFiles node snap point) dir := by
  unfold stateSyncSteps? stateSyncFiles needsStateSyncWitnesses
  cases snap <;> rfl

theorem valueAt_stateSyncFiles (node : SeiNode) (snap : Option SnapshotSource)
    (point : Option TrustPoint) {dir : ConfigDir} {old : Json}
    (there : (dir (sei.location key).1).valueAt (sei.location key).2 = some old)
    (leaf : old.fields? = none) :
    (patchFiles (stateSyncFiles node snap point) dir (sei.location key).1).valueAt
        (sei.location key).2 =
        some ((patchedValue (stateSyncFiles node snap point) (sei.location key)).getD old) ∧
      ((patchedValue (stateSyncFiles node snap point) (sei.location key)).getD old).fields? =
        none := by
  unfold stateSyncFiles
  cases snap with
  | none => exact ⟨there, leaf⟩
  | some source =>
    cases point with
    | none => exact ⟨there, leaf⟩
    | some point =>
      have settings := stateSyncTable_settings point (configureStateSyncTask node)
      refine valueAt_patchFile ⟨List.pairwise_singleton .., settings.sorted, trivial⟩
        (fun touched => ?_) there leaf
      obtain ⟨name, place⟩ := sei.stateSync key _ touched
      rw [place] at touched ⊢
      have entry : Json.fieldsTouch (stateSyncTable point (configureStateSyncTask node)) name [] =
          true := by
        simpa [filesTouch, Json.touches, Json.fieldsTouch] using touched
      obtain ⟨written, found, -⟩ := Json.get_of_fieldsTouch _ settings.sorted.1 entry
      refine ⟨written, ?_, settings.leaf found⟩
      change (Assoc.get name _).bind _ = _
      rw [found]
      rfl

theorem valueAt_p2pConfigPatch (node : SeiNode) {dir : ConfigDir} {old : Json}
    (there : (dir (sei.location key).1).valueAt (sei.location key).2 = some old)
    (leaf : old.fields? = none) :
    (patchFiles (p2pConfigPatch node) dir (sei.location key).1).valueAt (sei.location key).2 =
        some ((patchedValue (p2pConfigPatch node) (sei.location key)).getD old) ∧
      ((patchedValue (p2pConfigPatch node) (sei.location key)).getD old).fields? = none := by
  refine valueAt_patchFile ⟨List.pairwise_singleton .., ⟨?_, trivial, trivial, trivial⟩, trivial⟩
    (fun touched => ?_) there leaf
  · show List.Pairwise (· < ·) ["external-address", "persistent-peers"]
    decide +kernel
  by_cases peers : key = keyP2PPersistentPeers
  · rw [peers, sei.peersLocation]
    exact ⟨.str _, rfl, rfl, nofun⟩
  by_cases external : key = platform.keyP2PExternalAddress
  · rw [external, sei.externalLocation]
    exact ⟨.str _, rfl, rfl, nofun⟩
  · exact absurd touched (by rw [sei.apart key peers external]; exact Bool.false_ne_true)

/-- Nothing written to `[statesync]` is at a p2p key. -/
theorem patchedValue_stateSync_p2p (node : SeiNode) (snap : Option SnapshotSource)
    (entry : String) :
    patchedValue (stateSyncFiles node snap point) ("config.toml", ["p2p", entry]) = none := by
  unfold stateSyncFiles
  cases snap with
  | none => rfl
  | some source => cases point <;> rfl

/-- The two patches agree on a key exactly if each keeps the value the intent gives it. -/
theorem patched_alike_iff (node : SeiNode) (snap : Option SnapshotSource) (value : String) :
    (patchedValue (stateSyncFiles node snap point) (sei.location key)).getD (sei.render key value) =
        (patchedValue (p2pConfigPatch node) (sei.location key)).getD (sei.render key value) ↔
      (key = keyP2PPersistentPeers → value = ",".intercalate node.status.resolvedPeers) ∧
        (key = platform.keyP2PExternalAddress → value = node.spec.externalAddress) ∧
        ∀ written, patchedValue (stateSyncFiles node snap point) (sei.location key) =
          some written → written = sei.render key value := by
  have distinct : platform.keyP2PExternalAddress ≠ keyP2PPersistentPeers := by
    intro same
    have places := sei.externalLocation
    rw [same, sei.peersLocation] at places
    revert places
    decide
  by_cases peers : key = keyP2PPersistentPeers
  · rw [peers, sei.peersLocation, patchedValue_stateSync_p2p, sei.peersText]
    change Json.str value = .str _ ↔ _
    simp [distinct.symm]
  by_cases external : key = platform.keyP2PExternalAddress
  · rw [external, sei.externalLocation, patchedValue_stateSync_p2p, sei.externalText]
    change Json.str value = .str _ ↔ _
    simp [distinct]
  have apart : patchedValue (p2pConfigPatch node) (sei.location key) = none := by
    have untouched := sei.apart key peers external (.str node.spec.externalAddress)
      (.str (",".intercalate node.status.resolvedPeers))
    by_cases file : (sei.location key).1 = "config.toml"
    · rw [patchedValue, p2pConfigPatch, Assoc.get_cons, if_pos file, Option.bind_some]
      exact Json.valueAt_of_untouched _ _ (by simpa [filesTouch, file] using untouched)
    · rw [patchedValue, p2pConfigPatch, Assoc.get_cons, if_neg file]
      rfl
  rw [apart]
  cases patchedValue (stateSyncFiles node snap point) (sei.location key) with
  | none => simp [peers, external]
  | some written => simp [peers, external]

end

end

/-- A key that the intent sets ends with the same value after the startup plan and after a
Running plan that regenerates the base exactly if the operator's overlay decides it, or the
p2p patch of the one and the state-sync step of the other keep the intent's value. -/
theorem startup_and_running_config_agree {platform : Platform} (sei : SeiConfig platform)
    {node later : SeiNode} (admitted : node.spec.oneMode)
    (unmounted : node.mountsNodeConfig = false)
    (noCeremony : node.spec.validator.bind ValidatorSpec.genesisCeremony = none)
    (spec : later.spec = node.spec)
    (peers : later.status.resolvedPeers = node.status.resolvedPeers) {mode : ModePlanner}
    (planner : plannerForMode node = .ok mode)
    {planID planID' : String} {after after' : SeiNode} {startup update : TaskPlan}
    (starting : node.status.phase ≠ .running)
    (startupBuilt : buildPlan platform planID mode node = (after, .ok (some startup)))
    (running : later.status.phase = .running)
    (updateBuilt : buildPlan platform planID' mode later = (after', .ok (some update)))
    (regenerates : update.hasTask .configApply = true) {key value : String}
    (set : Assoc.get key (mode.intent platform node).overrides = some value)
    (point point' : Option TrustPoint) (dir dir' : ConfigDir) :
    finalValue sei point dir startup.tasks key = finalValue sei point' dir' update.tasks key ↔
      overlayTouches node (sei.location key) = true ∨
        (key = keyP2PPersistentPeers → value = ",".intercalate node.status.resolvedPeers) ∧
        (key = platform.keyP2PExternalAddress → value = node.spec.externalAddress) ∧
        ∀ written, patchedValue (stateSyncFiles node mode.snapshot point) (sei.location key) =
          some written → written = sei.render key value := by
  have laterUnmounted : later.mountsNodeConfig = false := by
    unfold SeiNode.mountsNodeConfig at unmounted ⊢
    rw [spec]
    exact unmounted
  have init : mode.buildInitPlan platform planID node = .ok startup := by
    rw [buildPlan, unmounted, if_neg Bool.false_ne_true, ModePlanner.buildPlan, if_neg starting]
      at startupBuilt
    cases plan : mode.buildInitPlan platform planID node with
    | error err => rw [plan] at startupBuilt; cases startupBuilt
    | ok built => rw [plan] at startupBuilt; cases startupBuilt; rfl
  rw [buildPlan, laterUnmounted, if_neg Bool.false_ne_true, ModePlanner.buildPlan, if_pos running]
    at updateBuilt
  have steps := configSteps_buildRunningUpdate (gates_silent later mode) updateBuilt regenerates
  rw [runningConfigIntent_congr spec peers, runningConfigIntent_eq admitted planner,
    p2pConfigPatch_congr spec peers, overlaySteps_congr spec] at steps
  unfold finalValue
  rw [steps, configSteps_buildInitPlan planner unmounted noCeremony init, List.foldl_append,
    List.foldl_cons, List.foldl_cons, List.foldl_cons, foldl_stateSyncSteps?]
  obtain ⟨left, leftLeaf⟩ := valueAt_stateSyncFiles node mode.snapshot point
    (sei.writes _ dir key value set) (sei.leaf key value)
  obtain ⟨right, rightLeaf⟩ :=
    valueAt_p2pConfigPatch node (sei.writes _ dir' key value set) (sei.leaf key value)
  exact (foldl_overlaySteps_iff node point' leftLeaf rightLeaf left right).trans
    (or_congr_right (patched_alike_iff node mode.snapshot value))

section Samples

def sampleP2PTable (overrides : List (String × String)) : Table :=
  ((Assoc.get samplePlatform.keyP2PExternalAddress overrides).map fun text =>
      ("external-address", Json.str text)).toList
    ++ ((Assoc.get keyP2PPersistentPeers overrides).map fun text =>
      ("persistent-peers", Json.str text)).toList

theorem get_sampleP2PTable (overrides : List (String × String)) :
    Assoc.get "persistent-peers" (sampleP2PTable overrides) =
        (Assoc.get keyP2PPersistentPeers overrides).map .str ∧
      Assoc.get "external-address" (sampleP2PTable overrides) =
        (Assoc.get samplePlatform.keyP2PExternalAddress overrides).map .str := by
  unfold sampleP2PTable
  cases Assoc.get samplePlatform.keyP2PExternalAddress overrides with
  | none => cases Assoc.get keyP2PPersistentPeers overrides <;> exact ⟨rfl, rfl⟩
  | some text => cases Assoc.get keyP2PPersistentPeers overrides <;> exact ⟨rfl, rfl⟩

/-- A layout that keeps the two p2p keys in `config.toml` and every other key at the top of
`app.toml`. -/
def sampleSeiConfig : SeiConfig samplePlatform where
  location key :=
    if key = keyP2PPersistentPeers then ("config.toml", ["p2p", "persistent-peers"])
    else if key = samplePlatform.keyP2PExternalAddress then
      ("config.toml", ["p2p", "external-address"])
    else ("app.toml", [key])
  render _ text := .str text
  apply intent _ file :=
    if file = "config.toml" then .obj [("p2p", .obj (sampleP2PTable intent.overrides))]
    else .obj (Assoc.mapValues .str intent.overrides)
  writes intent dir key value found := by
    by_cases peers : key = keyP2PPersistentPeers
    · rw [peers] at found ⊢
      change (Assoc.get "persistent-peers" (sampleP2PTable intent.overrides)).bind _ = _
      rw [(get_sampleP2PTable _).1, found]
      rfl
    by_cases external : key = samplePlatform.keyP2PExternalAddress
    · rw [external] at found ⊢
      change (Assoc.get "external-address" (sampleP2PTable intent.overrides)).bind _ = _
      rw [(get_sampleP2PTable _).2, found]
      rfl
    · rw [if_neg peers, if_neg external]
      change (Assoc.get key (Assoc.mapValues Json.str intent.overrides)).bind _ = _
      rw [Assoc.get_mapValues, found]
      rfl
  leaf _ _ := rfl
  peersLocation := rfl
  peersText _ := rfl
  externalLocation := rfl
  externalText _ := rfl
  apart key peers external address peer := by
    have file : (("config.toml" : String) == "app.toml") = false := by decide
    simp only [if_neg peers, if_neg external, filesTouch, List.any_cons, List.any_nil, file,
      Bool.false_and, Bool.or_self]
  stateSync key table touched := by
    exfalso
    split at touched
    · simp [filesTouch, Json.touches, Json.fieldsTouch] at touched
    split at touched
    · simp [filesTouch, Json.touches, Json.fieldsTouch] at touched
    · simp [filesTouch] at touched

def configured (overrides : List (String × String)) : SeiNode :=
  { name := "node"
    spec := { fullNode := some ⟨none, none, none⟩, overrides }
    status := { phase := .pending, resolvedPeers := ["peer@b:26656"] } }

def reconfigured (overrides : List (String × String)) : SeiNode :=
  let node := configured overrides
  { node with status := { node.status with phase := .running, currentConfigValuesHash := "old" } }

def builtPlan (built : Built) : TaskPlan :=
  match built.2 with
  | .ok (some plan) => plan
  | _ => assembleSteps "" []

def sampleStartup (overrides : List (String × String)) : TaskPlan :=
  builtPlan (buildPlan samplePlatform "p" (.full ⟨none, none, none⟩) (configured overrides))

def sampleUpdate (overrides : List (String × String)) : TaskPlan :=
  builtPlan (buildPlan samplePlatform "q" (.full ⟨none, none, none⟩) (reconfigured overrides))

def emptyDir : ConfigDir := fun _ => .obj []

theorem logging_level_agrees :
    finalValue sampleSeiConfig none emptyDir (sampleStartup []).tasks "logging.level" =
      finalValue sampleSeiConfig none emptyDir (sampleUpdate []).tasks "logging.level" := by
  have startup : (buildPlan samplePlatform "p" (.full ⟨none, none, none⟩) (configured [])).2 =
      .ok (some (sampleStartup [])) := by decide +kernel
  have update : (buildPlan samplePlatform "q" (.full ⟨none, none, none⟩) (reconfigured [])).2 =
      .ok (some (sampleUpdate [])) := by decide +kernel
  have admitted : (configured []).spec.oneMode := by decide
  have level : Assoc.get "logging.level"
      (ModePlanner.intent samplePlatform (configured []) (.full ⟨none, none, none⟩)).overrides =
        some "error" := by decide +kernel
  have spec : (reconfigured []).spec = (configured []).spec := rfl
  have built : buildPlan samplePlatform "q" (.full ⟨none, none, none⟩) (reconfigured []) =
      ((buildPlan samplePlatform "q" (.full ⟨none, none, none⟩) (reconfigured [])).1,
        .ok (some (sampleUpdate []))) := Prod.ext rfl update
  exact (startup_and_running_config_agree sampleSeiConfig admitted rfl rfl spec rfl rfl (by decide)
    (Prod.ext rfl startup) rfl built (by decide +kernel) level none none emptyDir emptyDir).mpr
      (.inr ⟨fun same => absurd same (by decide), fun same => absurd same (by decide), nofun⟩)

/-- The user's peers win at startup and are overwritten when the base is regenerated. -/
theorem user_peers_lost_on_regeneration :
    (configured [(keyP2PPersistentPeers, "user@a:26656")]).spec.oneMode ∧
      (buildPlan samplePlatform "p" (.full ⟨none, none, none⟩)
          (configured [(keyP2PPersistentPeers, "user@a:26656")])).2 =
        .ok (some (sampleStartup [(keyP2PPersistentPeers, "user@a:26656")])) ∧
      (buildPlan samplePlatform "q" (.full ⟨none, none, none⟩)
          (reconfigured [(keyP2PPersistentPeers, "user@a:26656")])).2 =
        .ok (some (sampleUpdate [(keyP2PPersistentPeers, "user@a:26656")])) ∧
      (sampleUpdate [(keyP2PPersistentPeers, "user@a:26656")]).hasTask .configApply = true ∧
      finalValue sampleSeiConfig none emptyDir
          (sampleStartup [(keyP2PPersistentPeers, "user@a:26656")]).tasks keyP2PPersistentPeers =
        some (.str "user@a:26656") ∧
      finalValue sampleSeiConfig none emptyDir
          (sampleUpdate [(keyP2PPersistentPeers, "user@a:26656")]).tasks keyP2PPersistentPeers =
        some (.str "peer@b:26656") := by
  refine ⟨by decide, by decide +kernel, by decide +kernel, by decide +kernel, ?_, ?_⟩
  · decide +kernel
  · decide +kernel

end Samples

end SeiController
