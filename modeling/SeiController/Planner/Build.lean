import SeiController.Api.Cluster
import SeiController.Planner.Overlay

/-!
# Assembling plans

The progressions, payloads and retry budgets from which every node plan is made, and
the splice that puts the configuration overlay in front of validation.  A plan's UUID
is drawn by the caller.  The payloads built here always marshal, so assembling fails
only where the source has a check that fails.
-/

set_option autoImplicit false

namespace SeiController

/-! ## Tasks and progressions -/

def genesisConfigureMaxRetries : Nat := 180

def groupAssemblyMaxRetries : Nat := 180

def taskMaxRetries : TaskType → Nat
  | .configureGenesis => genesisConfigureMaxRetries
  | .assembleGenesis => groupAssemblyMaxRetries
  | .replacePod => 3
  | _ => 0

def buildPlannedTask (planID : String) (taskType : TaskType) (planIndex : Nat)
    (params : TaskParams) : PlannedTask where
  type := taskType
  id := deterministicTaskID planID taskType planIndex
  status := .pending
  params := params
  submittedAt := none
  error := ""
  maxRetries := taskMaxRetries taskType
  retryCount := 0

structure PlanStep where
  taskType : TaskType
  params : TaskParams
deriving DecidableEq

def buildTasks (planID : String) (steps : List PlanStep) : List PlannedTask :=
  steps.mapIdx fun index step => buildPlannedTask planID step.taskType index step.params

/-- An Active plan whose failure leaves the node's phase alone. -/
def assembleSteps (planID : String) (steps : List PlanStep) : TaskPlan where
  id := planID
  phase := .active
  tasks := buildTasks planID steps
  targetPhase := .running
  configValuesHash := ""
  failedPhase := .empty
  failedTaskIndex := none
  failedTaskDetail := none

/-- Insert `taskType` immediately before `target`, unless it is already there. -/
def insertBefore (prog : List TaskType) (target taskType : TaskType) :
    Except String (List TaskType) :=
  if taskType ∈ prog then
    .ok prog
  else if target ∈ prog then
    .ok (prog.takeWhile (· ≠ target) ++ taskType :: prog.dropWhile (· ≠ target))
  else
    .error ("insertBefore: target \"" ++ target.wire ++ "\" not found in progression ["
      ++ " ".intercalate (prog.map TaskType.wire) ++ "]")

inductive BootstrapMode
  | snapshot | stateSync | genesis
deriving DecidableEq

def baseProgression : BootstrapMode → List TaskType
  | .snapshot => [.snapshotRestore, .configApply, .configValidate, .markReady]
  | .stateSync => [.configApply, .configValidate, .markReady]
  | .genesis => [.configApply, .configValidate, .markReady]

def hasS3Snapshot (snap : Option SnapshotSource) : Bool :=
  (snap.bind SnapshotSource.s3).isSome

def hasStateSync (snap : Option SnapshotSource) : Bool :=
  (snap.map SnapshotSource.stateSync).getD false

/-- Both ways of bootstrapping from a snapshot go through state sync. -/
def needsStateSyncWitnesses (snap : Option SnapshotSource) : Bool :=
  snap.isSome

def bootstrapMode (snap : Option SnapshotSource) : BootstrapMode :=
  if hasS3Snapshot snap then .snapshot
  else if hasStateSync snap then .stateSync
  else .genesis

def buildSidecarProgression (snap : Option SnapshotSource) : Except String (List TaskType) := do
  let prog ← insertBefore (baseProgression (bootstrapMode snap)) .configApply .configureGenesis
  if needsStateSyncWitnesses snap then
    insertBefore prog .configValidate .configureStateSync
  else
    return prog

/-! ## Payloads -/

def needsValidateSigningKey (node : SeiNode) : Bool :=
  match node.spec.validator with
  | some { signingKey := some { secret := some secretName }, .. } => secretName ≠ ""
  | _ => false

def needsValidateNodeKey (node : SeiNode) : Bool :=
  match node.spec.nodeKeySecret with
  | some secretName => secretName ≠ ""
  | none => false

def needsValidateOperatorKeyring (node : SeiNode) : Bool :=
  match node.spec.validator with
  | some { operatorKeyring := some { secret := some secret }, .. } => secret.secretName ≠ ""
  | _ => false

def defaultOperatorKeyName : String := "node_admin"

def validateSigningKeyParams (node : SeiNode) : TaskParams :=
  match node.spec.validator with
  | some { signingKey := some { secret := some secretName }, .. } =>
    if secretName ≠ "" then .validateKey secretName node.nameSpace else .absent
  | _ => .absent

def validateNodeKeyParams (node : SeiNode) : TaskParams :=
  match node.spec.nodeKeySecret with
  | some secretName => if secretName ≠ "" then .validateKey secretName node.nameSpace else .absent
  | none => .absent

def validateOperatorKeyringParams (node : SeiNode) : TaskParams :=
  match node.spec.validator with
  | some { operatorKeyring := some { secret := some secret }, .. } =>
    if secret.secretName ≠ "" then
      .validateOperatorKeyring secret.secretName
        (if secret.keyName = "" then defaultOperatorKeyName else secret.keyName)
        secret.passphraseSecretName secret.passphraseSecretKey node.nameSpace
    else
      .absent
  | _ => .absent

def servesSeidRPC (node : SeiNode) : Bool :=
  node.spec.seed.isNone && !node.spec.isEvmOnly

def upCheckForNode (node : SeiNode) : UpCheck :=
  if node.spec.isEvmOnly && node.spec.evmHTTPEnabled then .evmRoot
  else if !servesSeidRPC node then .p2p
  else .rpcStatus

def snapshotRestoreTask (snap : Option SnapshotSource) : TaskParams :=
  .snapshotRestore (((snap.bind SnapshotSource.s3).map S3SnapshotSource.targetHeight).getD 0)

/-- The witnesses are the ones the state-sync gate resolved. -/
def configureStateSyncTask (node : SeiNode) : TaskParams :=
  let snap := node.spec.snapshotSource
  .configureStateSync (hasS3Snapshot snap) node.status.resolvedStateSyncers
    ((snap.map SnapshotSource.trustPeriod).getD "") ((snap.map SnapshotSource.backfillBlocks).getD 0)

def genesisCeremonyTaskParams (node : SeiNode) (taskType : TaskType) : TaskParams :=
  match node.spec.validator with
  | some { genesisCeremony := some ceremony, .. } =>
    match taskType with
    | .generateIdentity => .generateIdentity ceremony.chainID node.name
    | .generateGentx =>
      .generateGentx ceremony.chainID ceremony.stakingAmount ceremony.accountBalance
    | .uploadGenesisArtifacts =>
      .uploadGenesisArtifacts node.name node.nameSpace node.spec.isAutobahn
    | .setGenesisPeers => .empty
    | _ => .absent
  | _ => .absent

/-- The one factory of payloads; every plan builder uses it. -/
def paramsForTaskType (node : SeiNode) (taskType : TaskType) (snap : Option SnapshotSource)
    (configIntent : Option ConfigIntent) : TaskParams :=
  match taskType with
  | .ensureDataPVC | .applyStatefulSet | .applyService | .applyRBACProxyConfig | .replacePod
  | .observeImage => .node node.name node.nameSpace
  | .validateSigningKey => validateSigningKeyParams node
  | .validateNodeKey => validateNodeKeyParams node
  | .validateOperatorKeyring => validateOperatorKeyringParams node
  | .snapshotRestore => snapshotRestoreTask snap
  | .configureGenesis => .configureGenesis node.spec.isAutobahn
  | .configApply => .configApply (configIntent.getD ⟨.full, []⟩)
  | .configureStateSync => configureStateSyncTask node
  | .configValidate | .markReady => .empty
  | .restartSeid => .upCheck (upCheckForNode node)
  | .generateIdentity | .generateGentx | .uploadGenesisArtifacts | .setGenesisPeers =>
    genesisCeremonyTaskParams node taskType
  | _ => .absent

/-! ## Configuration intents -/

def mergeOverrides (controllerOverrides userOverrides : List (String × String)) :
    List (String × String) :=
  userOverrides.foldl (fun merged entry => Assoc.set entry.1 entry.2 merged) controllerOverrides

def freezeOverrides (freeze : FreezeSpec) : List (String × String) :=
  [("chain.freeze_height", toString freeze.height)]

def commonOverrides (platform : Platform) (node : SeiNode) : List (String × String) :=
  let out := mergeOverrides []
    [("logging.level", "error"),
      ("network.p2p.persistent_peers", ",".intercalate node.status.resolvedPeers)]
  if node.spec.externalAddress ≠ "" then
    mergeOverrides out [(platform.keyP2PExternalAddress, node.spec.externalAddress)]
  else
    out

def FullNodeSpec.controllerOverrides (platform : Platform) (spec : FullNodeSpec) :
    List (String × String) :=
  match spec.freeze, spec.snapshotGeneration with
  | some freeze, _ => freezeOverrides freeze
  | none, some { tendermint := some tendermint } =>
    platform.snapshotGenerationOverrides tendermint.keepRecent
  | none, _ => []

def ArchiveSpec.controllerOverrides (platform : Platform) (spec : ArchiveSpec) :
    List (String × String) :=
  match spec.freeze, spec.snapshotGeneration with
  | some freeze, _ => freezeOverrides freeze
  | none, some { tendermint := some tendermint } =>
    [(platform.keySnapshotInterval, toString platform.defaultSnapshotInterval),
      (platform.keySnapshotKeepRecent, toString tendermint.keepRecent)]
  | none, _ => []

def replayerControllerOverrides : List (String × String) :=
  [("storage.state_commit.async_commit_buffer", "100"),
    ("storage.state_commit.memiavl.snapshot_keep_recent", "2"),
    ("storage.state_commit.memiavl.snapshot_min_time_interval", "3600")]

def intentFor (platform : Platform) (node : SeiNode) (mode : ConfigMode)
    (overrides : List (String × String)) : ConfigIntent where
  mode := mode
  overrides :=
    mergeOverrides (mergeOverrides (commonOverrides platform node) overrides) node.spec.overrides

def runningConfigIntent (platform : Platform) (node : SeiNode) : ConfigIntent :=
  match node.spec.fullNode, node.spec.archive with
  | some full, _ => intentFor platform node .full (full.controllerOverrides platform)
  | none, some archive => intentFor platform node .archive (archive.controllerOverrides platform)
  | none, none =>
    if node.spec.validator.isSome then intentFor platform node .validator []
    else if node.spec.seed.isSome then intentFor platform node .seed []
    else if node.spec.replayer.isSome then
      intentFor platform node .full replayerControllerOverrides
    else intentFor platform node .full []

/-! ## The overlay splice -/

def autobahnConfigPath : String := "/home/nonroot/.sei/config/autobahn.json"

/-- The keys the consensus and execution engines need, in the shape of a patch. -/
def consensusOverlay (node : SeiNode) : Option PatchFiles :=
  if !node.spec.isAutobahn then
    none
  else if !node.spec.isEvmOnly then
    some
      [("app.toml", [("evm", .obj [("ws_enabled", .bool true)])]),
        ("config.toml", [("autobahn-config-file", .str autobahnConfigPath)])]
  else
    some
      [("app.toml",
          [("api", .obj [("enable", .bool false)]),
            ("evm", .obj [("http_enabled", .bool node.spec.evmHTTPEnabled), ("ws_enabled", .bool true)]),
            ("grpc", .obj [("enable", .bool false)]),
            ("grpc-web", .obj [("enable", .bool false)])]),
        ("config.toml",
          [("autobahn-config-file", .str autobahnConfigPath),
            ("evm-only", .bool true),
            ("rpc", .obj [("laddr", .str "")])])]

def ownedKey (file path : String) : String :=
  "configValues " ++ file ++ ":" ++ path
    ++ ": this key is set by spec.consensus or spec.executionEngine and cannot be overridden"

mutual

/-- A user entry on a controller-owned leaf is an error, not an override. -/
def mergeTables (file pre : String) (dst : Table) : Table → Except String Table
  | [] => .ok dst
  | (key, value) :: rest =>
    match mergeKey file pre dst key value with
    | .error err => .error err
    | .ok dst => mergeTables file pre dst rest

def mergeKey (file pre : String) (dst : Table) (key : String) : Json → Except String Table
  | .obj incoming =>
    match Assoc.get key dst with
    | some (.obj current) =>
      match mergeTables file (pre ++ key ++ ".") current incoming with
      | .error err => .error err
      | .ok merged => .ok (Assoc.set key (.obj merged) dst)
    | some _ => .error (ownedKey file (pre ++ key))
    | none => .ok (Assoc.set key (.obj incoming) dst)
  | value =>
    match Assoc.get key dst with
    | some _ => .error (ownedKey file (pre ++ key))
    | none => .ok (Assoc.set key value dst)

end

def mergeFiles (user : PatchFiles) : PatchFiles → Except String PatchFiles
  | [] => .ok user
  | (file, table) :: rest =>
    match mergeTables file "" ((Assoc.get file user).getD []) table with
    | .error err => .error err
    | .ok merged => mergeFiles (Assoc.set file merged user) rest

def mergeOverlayPatches (user : PatchFiles) : Option PatchFiles → Except String PatchFiles
  | none => .ok user
  | some controller => mergeFiles user controller

/-- Put the overlay before each validation and number the tasks anew. -/
def spliceOverlay (planID : String) (patch : PatchFiles) (done : List PlannedTask) :
    List PlannedTask → List PlannedTask
  | [] => done
  | planned :: rest =>
    let done :=
      if planned.type = .configValidate then
        done ++ [buildPlannedTask planID .configPatch done.length (.configPatch patch)]
      else
        done
    spliceOverlay planID patch
      (done ++ [{ planned with id := deterministicTaskID planID planned.type done.length }]) rest

/-- Capture the desired configuration in the plan and overlay it before validation. -/
def withConfigValues (platform : Platform) (plan : TaskPlan) (node : SeiNode) :
    Except String TaskPlan := do
  let hash ← configValuesHash platform node.spec.configValues
  let plan := { plan with configValuesHash := hash }
  let engine := consensusOverlay node
  if node.spec.configValues.isEmpty && engine.isNone then
    return plan
  let user ← configValuesOverlay node.spec.configValues
  let patch ← mergeOverlayPatches user engine
  let tasks := spliceOverlay plan.id patch [] plan.tasks
  if tasks.length = plan.tasks.length then
    throw "configValues: cannot splice overlay: plan has no config-validate task"
  return { plan with tasks }

/-! ## Startup plans -/

/-- The sidecar tasks that write config.toml or app.toml. -/
def mountedConfigWriters : List TaskType :=
  [.configApply, .configPatch, .configureStateSync, .setGenesisPeers, .generateIdentity]

/-- A node that mounts its configuration runs no task that writes or judges it. -/
def withoutManagedConfigTasks (node : SeiNode) (prog : List TaskType) : List TaskType :=
  if node.mountsNodeConfig then
    prog.filter fun taskType => taskType ≠ .configValidate && taskType ∉ mountedConfigWriters
  else
    prog

/-- The key checks that lead a plan, each only when the node declares the Secret. -/
def validations (node : SeiNode) : List TaskType :=
  (if needsValidateSigningKey node then [.validateSigningKey] else [])
    ++ (if needsValidateNodeKey node then [.validateNodeKey] else [])
    ++ (if needsValidateOperatorKeyring node then [.validateOperatorKeyring] else [])

def startupPlan (planID : String) (node : SeiNode) (snap : Option SnapshotSource)
    (intent : ConfigIntent) (prog : List TaskType) : TaskPlan :=
  { assembleSteps planID (prog.map fun taskType =>
      ⟨taskType, paramsForTaskType node taskType snap (some intent)⟩) with
    failedPhase := .failed }

def buildBasePlan (platform : Platform) (planID : String) (node : SeiNode)
    (snap : Option SnapshotSource) (intent : ConfigIntent) : Except String TaskPlan := do
  let sidecarProg ← buildSidecarProgression snap
  let prog := [.ensureDataPVC] ++ validations node
    ++ [.applyRBACProxyConfig, .applyStatefulSet, .applyService]
    ++ withoutManagedConfigTasks node sidecarProg
  withConfigValues platform (startupPlan planID node snap intent prog) node

def buildGenesisPlan (platform : Platform) (planID : String) (node : SeiNode) :
    Except String TaskPlan :=
  let prog : List TaskType :=
    [.ensureDataPVC, .applyRBACProxyConfig, .applyStatefulSet, .applyService, .generateIdentity,
      .generateGentx, .uploadGenesisArtifacts, .configureGenesis, .configApply, .setGenesisPeers,
      .configValidate, .markReady]
  withConfigValues platform
    (startupPlan planID node none (intentFor platform node .validator []) prog) node

end SeiController
