import SeiController.Planner.Build

/-!
# Plans for a Running node

Drift, the update plans that answer it, and the planner of each mode.  A builder
returns the node with the conditions it set beside the plan, because a condition set
before an error is kept.
-/

set_option autoImplicit false

namespace SeiController

/-! ## Drift -/

def imageDrifted (node : SeiNode) : Bool :=
  node.spec.image ≠ node.status.currentImage

/-- A hashing error counts as drift: assembling the plan then reports it. -/
def configValuesDrifted (platform : Platform) (node : SeiNode) : Bool :=
  if node.status.currentConfigValuesHash = "" then false
  else
    match configValuesHash platform node.spec.configValues with
    | .error _ => true
    | .ok hash => hash ≠ node.status.currentConfigValuesHash

def sidecarImageDrifted (platform : Platform) (node : SeiNode) : Bool :=
  if node.status.currentSidecarImage = "" then false
  else effectiveSidecarImage platform node ≠ node.status.currentSidecarImage

def nodeIsolationDrifted (node : SeiNode) : Bool :=
  if node.status.currentNodeIsolation = .unset then false
  else node.effectiveNodeIsolation ≠ node.status.currentNodeIsolation

def nodePoolDrifted (node : SeiNode) : Bool :=
  if node.status.currentImage = "" then false
  else node.requestedNodePool ≠ node.status.currentNodePool

def podTemplateDrifted (platform : Platform) (node : SeiNode) : Bool :=
  imageDrifted node || sidecarImageDrifted platform node || nodeIsolationDrifted node
    || nodePoolDrifted node

def podTemplateDriftMessage (platform : Platform) (node : SeiNode) : String :=
  let seid := imageDrifted node
  let sidecar := sidecarImageDrifted platform node
  let placed := nodeIsolationDrifted node || nodePoolDrifted node
  let parts :=
    (if seid then
      ["seid spec=" ++ node.spec.image ++ " current=" ++ node.status.currentImage] else [])
    ++ (if sidecar then
      ["sidecar spec=" ++ effectiveSidecarImage platform node ++ " current="
        ++ node.status.currentSidecarImage] else [])
    ++ (if nodeIsolationDrifted node then
      ["nodeIsolation spec=" ++ node.effectiveNodeIsolation.text ++ " current="
        ++ node.status.currentNodeIsolation.text] else [])
    ++ (if nodePoolDrifted node then
      ["nodePool spec=\"" ++ node.requestedNodePool ++ "\" current=\""
        ++ node.status.currentNodePool ++ "\""] else [])
  let detail := "; ".intercalate parts
  let placement :=
    if nodeIsolationDrifted node && nodePoolDrifted node then "node isolation and node pool"
    else if nodePoolDrifted node then "node pool"
    else "node isolation"
  if placed && !seid && !sidecar then placement ++ " drift detected: " ++ detail
  else if placed then "image and " ++ placement ++ " drift detected: " ++ detail
  else if sidecar && !seid then "sidecar image drift detected: " ++ detail
  else "image drift detected: " ++ detail

def setNodeUpdateCondition (status : ConditionStatus) (reason : NodeUpdateReason) (message : String)
    (node : SeiNode) : SeiNode :=
  { node with status := { node.status with nodeUpdateInProgress := some ⟨status, reason, message⟩ } }

def sidecarNeedsReapproval (node : SeiNode) : Bool :=
  match node.status.sidecarReady with
  | some { status := .conditionFalse, reason := .notReady, .. } => true
  | _ => false

/-! ## Update plans -/

/-- The node after building, and the plan: none when nothing is to be done. -/
abbrev Built := SeiNode × Except String (Option TaskPlan)

def p2pConfigPatch (node : SeiNode) : PatchFiles :=
  [("config.toml",
    [("p2p", .obj
      [("external-address", .str node.spec.externalAddress),
        ("persistent-peers", .str (",".intercalate node.status.resolvedPeers))])])]

def paramsForUpdateTask (platform : Platform) (node : SeiNode) (taskType : TaskType)
    (patch : PatchFiles) : TaskParams :=
  match taskType with
  | .configApply => .configApply (runningConfigIntent platform node)
  | .configPatch => .configPatch patch
  | taskType => paramsForTaskType node taskType none none

/-- Whether an update also regenerates the base: at the first observation of the
configuration and on every change to it. -/
def regeneratesBase (platform : Platform) (node : SeiNode) : Bool :=
  node.status.currentConfigValuesHash = "" || configValuesDrifted platform node

def updatePlan (platform : Platform) (planID : String) (node : SeiNode) (prog : List TaskType)
    (patch : PatchFiles) : Except String TaskPlan := do
  let prog ←
    if regeneratesBase platform node then insertBefore prog .configPatch .configApply else .ok prog
  withConfigValues platform
    (assembleSteps planID (prog.map fun taskType =>
      ⟨taskType, paramsForUpdateTask platform node taskType patch⟩)) node

/-- Compose a progression into a plan; an error is recorded on the condition, success
on it too, with the caller's reason. -/
def assembleUpdatePlan (platform : Platform) (planID : String) (prog : List TaskType)
    (reason : NodeUpdateReason) (message : String) (node : SeiNode) : Built :=
  match updatePlan platform planID node prog (p2pConfigPatch node) with
  | .error err => (setNodeUpdateCondition .conditionFalse .updatePlanBuildFailed err node, .error err)
  | .ok plan => (setNodeUpdateCondition .conditionTrue reason message node, .ok (some plan))

def buildConfigUpdatePlan (platform : Platform) (planID : String) (node : SeiNode) : Built :=
  assembleUpdatePlan platform planID [.configPatch, .configValidate, .markReady, .restartSeid]
    .configUpdateStarted "configValues drift detected: regenerating configuration and restarting seid"
    node

def buildMarkReadyPlan (planID : String) (node : SeiNode) : TaskPlan :=
  assembleSteps planID [⟨.markReady, paramsForTaskType node .markReady none none⟩]

/-- The Running arm every mode shares; `gates` are the mode's key checks. -/
def buildRunningUpdate (platform : Platform) (planID : String) (gates : List TaskType)
    (node : SeiNode) : Built :=
  if podTemplateDrifted platform node then
    assembleUpdatePlan platform planID
      (gates ++ [.applyStatefulSet, .applyService, .configPatch, .configValidate, .replacePod,
        .observeImage, .markReady])
      .updateStarted (podTemplateDriftMessage platform node) node
  else if configValuesDrifted platform node then
    buildConfigUpdatePlan platform planID node
  else if sidecarNeedsReapproval node then
    (node, .ok (some (buildMarkReadyPlan planID node)))
  else
    (node, .ok none)

/-! ## Modes -/

inductive ModePlanner
  | full (spec : FullNodeSpec)
  | archive (spec : ArchiveSpec)
  | replayer (spec : ReplayerSpec)
  | validator (spec : ValidatorSpec)
  | seed (spec : SeedSpec)

def plannerForMode (node : SeiNode) : Except String ModePlanner :=
  match node.spec.fullNode, node.spec.archive, node.spec.replayer, node.spec.validator,
    node.spec.seed with
  | some full, _, _, _, _ => .ok (.full full)
  | none, some archive, _, _, _ => .ok (.archive archive)
  | none, none, some replayer, _, _ => .ok (.replayer replayer)
  | none, none, none, some validator, _ => .ok (.validator validator)
  | none, none, none, none, some seed => .ok (.seed seed)
  | none, none, none, none, none =>
    .error ("no mode sub-spec set on SeiNode " ++ node.nameSpace ++ "/" ++ node.name)

def validateSnapshotGeneration : Option SnapshotGenerationConfig → Except String Unit
  | none => .ok ()
  | some { tendermint := none } =>
    .error ("snapshotGeneration is set but has no sub-struct (e.g., tendermint); "
      ++ "omit it to disable snapshot generation")
  | some { tendermint := some tendermint } =>
    if tendermint.publish && decide (tendermint.keepRecent < 2) then
      .error ("snapshotGeneration.tendermint.keepRecent must be >= 2 when publish is set "
        ++ "(upload algorithm requires the second-to-latest snapshot)")
    else
      .ok ()

def withLabel (label : String) : Except String Unit → Except String Unit
  | .error err => .error (label ++ ": " ++ err)
  | .ok () => .ok ()

def SecretKeySource.secretName (source : SecretKeySource) : String :=
  source.secret.getD ""

def validateOperatorKeyringDistinctness (spec : ValidatorSpec) : Except String Unit :=
  match spec.operatorKeyring.bind OperatorKeyringSource.secret with
  | none => .ok ()
  | some keyring => do
      let pass := keyring.passphraseSecretName
      if keyring.secretName ≠ "" ∧ keyring.secretName = pass then
        throw ("validator: operatorKeyring data Secret \"" ++ keyring.secretName
          ++ "\" must differ from its passphrase Secret")
      distinctFrom "signingKey" ((spec.signingKey.map SecretKeySource.secretName).getD "")
        keyring.secretName pass
      distinctFrom "nodeKey" ((spec.nodeKey.map SecretKeySource.secretName).getD "")
        keyring.secretName pass
where
  distinctFrom (field secretName keyring pass : String) : Except String Unit :=
    if secretName = "" then
      .ok ()
    else if keyring = secretName then
      .error ("validator: operatorKeyring Secret \"" ++ keyring ++ "\" must differ from " ++ field
        ++ " Secret")
    else if pass ≠ "" ∧ pass = secretName then
      .error ("validator: operatorKeyring passphrase Secret \"" ++ pass ++ "\" must differ from "
        ++ field ++ " Secret")
    else
      .ok ()

def ValidatorSpec.validate (spec : ValidatorSpec) : Except String Unit := do
  match spec.signingKey, spec.nodeKey with
  | some signingKey, nodeKey =>
    if spec.genesisCeremony.isSome then
      throw "validator: signingKey is mutually exclusive with genesisCeremony"
    if signingKey.secretName = "" then
      throw "validator: signingKey.secret.secretName is required"
    match nodeKey with
    | none => throw "validator: nodeKey is required when signingKey is set"
    | some nodeKey =>
      if nodeKey.secretName = "" then
        throw "validator: nodeKey.secret.secretName is required"
      if nodeKey.secretName = signingKey.secretName then
        throw "validator: signingKey and nodeKey must reference distinct Secrets"
  | none, some _ => throw "validator: nodeKey requires signingKey to be set"
  | none, none => pure ()
  validateOperatorKeyringDistinctness spec
  match spec.genesisCeremony with
  | some ceremony =>
    if ceremony.chainID = "" then
      throw "validator: genesisCeremony.chainId is required"
    if ceremony.stakingAmount = "" then
      throw "validator: genesisCeremony.stakingAmount is required"
  | none => pure ()

namespace ModePlanner

def validate (node : SeiNode) : ModePlanner → Except String Unit
  | full spec => withLabel "fullNode" (validateSnapshotGeneration spec.snapshotGeneration)
  | archive spec => withLabel "archive" (validateSnapshotGeneration spec.snapshotGeneration)
  | replayer spec =>
    match spec.snapshot.s3 with
    | none => .error "replayer requires an S3 snapshot source"
    | some s3 =>
      if s3.targetHeight ≤ 0 then .error "replayer: s3.targetHeight must be > 0"
      else if node.spec.peers.isEmpty then
        .error "replayer requires at least one peer source for block sync"
      else .ok ()
  | validator spec => spec.validate
  | seed _ =>
    if node.spec.nodeKeySecret.getD "" = "" then
      .error ("seed: nodeKey.secret.secretName is required — a seed's NodeID is published "
        ++ "and must not be regenerated")
    else
      .ok ()

def buildInitPlan (platform : Platform) (planID : String) (node : SeiNode) :
    ModePlanner → Except String TaskPlan
  | full spec =>
    buildBasePlan platform planID node spec.snapshot
      (intentFor platform node .full (spec.controllerOverrides platform))
  | archive spec =>
    buildBasePlan platform planID node none
      (intentFor platform node .archive (spec.controllerOverrides platform))
  | replayer spec =>
    buildBasePlan platform planID node (some spec.snapshot)
      (intentFor platform node .full replayerControllerOverrides)
  | validator spec =>
    if spec.genesisCeremony.isSome then buildGenesisPlan platform planID node
    else
      buildBasePlan platform planID node spec.snapshot (intentFor platform node .validator [])
  | seed _ => buildBasePlan platform planID node none (intentFor platform node .seed [])

def gates (node : SeiNode) : ModePlanner → List TaskType
  | validator _ => validations node
  | seed _ => if needsValidateNodeKey node then [.validateNodeKey] else []
  | _ => []

def buildPlan (platform : Platform) (planID : String) (mode : ModePlanner) (node : SeiNode) : Built :=
  if node.status.phase = .running then
    buildRunningUpdate platform planID (mode.gates node) node
  else
    (node, (mode.buildInitPlan platform planID node).map some)

end ModePlanner

end SeiController
