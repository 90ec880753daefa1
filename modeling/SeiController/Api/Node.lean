import SeiController.Api.Plan
import SeiController.Lib.Toml

/-!
# The SeiNode object

Spec and status as far as the planners, the executor and the node controller read
or write them.  A condition the controller keeps is one optional field of the
status, so `meta.FindStatusCondition` is a projection and
`meta.SetStatusCondition` an update; transition times are left out.  The default of
a field is Go's zero value.
-/

set_option autoImplicit false

namespace SeiController

/-- An entry as the API admits it: the key's pattern matches no empty string.  A
decoded object has each key once; its fields are kept in key order. -/
structure ConfigValue where
  fileName : String
  key : String
  /-- The outcome of decoding `Value.Raw` with `UseNumber`. -/
  value : Except String Json
  keyNonempty : key ≠ ""
  valueSorted : ∀ decoded, value = .ok decoded → decoded.Sorted

structure S3SnapshotSource where
  targetHeight : Int
deriving DecidableEq

structure SnapshotSource where
  s3 : Option S3SnapshotSource
  stateSync : Bool
  trustPeriod : String
  rpcServers : List String
  backfillBlocks : Int
deriving DecidableEq

structure TendermintSnapshotGenerationConfig where
  keepRecent : Int
  publish : Bool
deriving DecidableEq

structure SnapshotGenerationConfig where
  tendermint : Option TendermintSnapshotGenerationConfig
deriving DecidableEq

structure FreezeSpec where
  height : Int
deriving DecidableEq

structure FullNodeSpec where
  snapshot : Option SnapshotSource
  snapshotGeneration : Option SnapshotGenerationConfig
  freeze : Option FreezeSpec
deriving DecidableEq

structure ArchiveSpec where
  snapshotGeneration : Option SnapshotGenerationConfig
  freeze : Option FreezeSpec
deriving DecidableEq

structure ReplayerSpec where
  snapshot : SnapshotSource
deriving DecidableEq

/-- A key source whose only variant is a Secret reference. -/
structure SecretKeySource where
  secret : Option String
deriving DecidableEq

structure SecretOperatorKeyringSource where
  secretName : String
  keyName : String
  passphraseSecretName : String
  passphraseSecretKey : String
  seidMount : Bool := false
deriving DecidableEq

structure OperatorKeyringSource where
  secret : Option SecretOperatorKeyringSource
deriving DecidableEq

structure GenesisCeremonyNodeConfig where
  chainID : String
  stakingAmount : String
  accountBalance : String
deriving DecidableEq

structure ValidatorSpec where
  snapshot : Option SnapshotSource
  genesisCeremony : Option GenesisCeremonyNodeConfig
  signingKey : Option SecretKeySource
  nodeKey : Option SecretKeySource
  operatorKeyring : Option OperatorKeyringSource
deriving DecidableEq

structure SeedSpec where
  nodeKey : SecretKeySource
deriving DecidableEq

inductive NodeIsolation
  | unset | shared | dedicated
deriving DecidableEq

def NodeIsolation.text : NodeIsolation → String
  | unset => ""
  | shared => "Shared"
  | dedicated => "Dedicated"

structure SchedulingConfig where
  nodeIsolation : NodeIsolation
  nodePool : String
deriving DecidableEq

/-- A resource quantity, by the text it is written as. -/
structure Quantity where
  text : String
deriving DecidableEq

structure ResourceRequirements where
  requests : List (String × Quantity) := []
  limits : List (String × Quantity) := []
deriving DecidableEq

structure SidecarConfig where
  image : String := ""
  port : Int := 0
  resources : Option ResourceRequirements := none
deriving DecidableEq

inductive ConsensusEngine
  | unset | tendermint | autobahn
deriving DecidableEq

structure ConsensusSpec where
  engine : ConsensusEngine
  evmOnly : Bool
deriving DecidableEq

inductive ExecutionEngineMode
  | unset | default | evmOnly
deriving DecidableEq

structure ExecutionEngineSpec where
  mode : ExecutionEngineMode
  httpEnabled : Option Bool
deriving DecidableEq

structure NodeConfig where
  configRef : String
  appRef : String
deriving DecidableEq

structure DataVolumeSpec where
  /-- `Import.PVCName`, when `Import` is set. -/
  importPVCName : Option String
  /-- The storage request in bytes, when `Storage.Resources` carries one. -/
  storageRequest : Option Nat
deriving DecidableEq

inductive PeerSource
  | ec2Tags (region : String) (tags : List (String × String))
  | static (addresses : List String)
  | label (selector : List (String × String)) (nameSpace : String)
deriving DecidableEq

structure SeiNodeSpec where
  chainID : String := ""
  image : String := ""
  peers : List PeerSource := []
  overrides : List (String × String) := []
  consensus : Option ConsensusSpec := none
  executionEngine : Option ExecutionEngineSpec := none
  configValues : List ConfigValue := []
  nodeConfig : Option NodeConfig := none
  scheduling : Option SchedulingConfig := none
  sidecar : Option SidecarConfig := none
  podLabels : List (String × String) := []
  dataVolume : Option DataVolumeSpec := none
  /-- `Resources.Requests`, when `Resources` is set. -/
  resources : Option (List (String × Quantity)) := none
  fullNode : Option FullNodeSpec := none
  archive : Option ArchiveSpec := none
  replayer : Option ReplayerSpec := none
  validator : Option ValidatorSpec := none
  seed : Option SeedSpec := none
  externalAddress : String := ""
  paused : Bool := false
  dataResetGeneration : Int := 0
  maintenance : Option MaintenanceHold := none

namespace SeiNodeSpec

def holdRequested (spec : SeiNodeSpec) : MaintenanceHold :=
  spec.maintenance.getD .none

def snapshotSource (spec : SeiNodeSpec) : Option SnapshotSource :=
  match spec.fullNode, spec.validator, spec.replayer with
  | some full, _, _ => full.snapshot
  | none, some validator, _ => validator.snapshot
  | none, none, some replayer => some replayer.snapshot
  | none, none, none => none

/-- The Secret that holds the node key, whichever mode declares it. -/
def nodeKeySecret (spec : SeiNodeSpec) : Option String :=
  match spec.validator, spec.seed with
  | some { nodeKey := some key, .. }, _ => key.secret
  | _, some seed => seed.nodeKey.secret
  | _, none => none

def isAutobahn (spec : SeiNodeSpec) : Bool :=
  match spec.consensus with
  | some consensus => consensus.engine == .autobahn
  | none => false

/-- `ResolveExecutionEngine`: the effective mode is EvmOnly. -/
def isEvmOnly (spec : SeiNodeSpec) : Bool :=
  match spec.executionEngine with
  | some engine => engine.mode == .evmOnly
  | none => (spec.consensus.map ConsensusSpec.evmOnly).getD false

def evmHTTPEnabled (spec : SeiNodeSpec) : Bool :=
  (spec.executionEngine.bind ExecutionEngineSpec.httpEnabled).getD true

end SeiNodeSpec

inductive ConditionStatus
  | conditionTrue | conditionFalse | conditionUnknown
deriving DecidableEq

structure Condition (reason : Type) where
  status : ConditionStatus
  reason : reason
  message : String
deriving DecidableEq

inductive MaintenanceReason
  | notApplicable | notHeld | holdPending | held | armed
deriving DecidableEq

inductive DataResetReason
  | notApplicable | noResetRequested | resetPending | resetRunning | resetComplete | resetFailed
deriving DecidableEq

inductive NodeUpdateReason
  | updateStarted | configUpdateStarted | updateComplete | updateFailed
  | updatePlanBuildFailed | updateDeferred | configBaselineUnobserved
deriving DecidableEq

inductive SidecarReason
  | unreachable | ready | notReady
deriving DecidableEq

inductive StateSyncReason
  | ready | noSyncersConfigured | notApplicable | syncerSourceError
deriving DecidableEq

inductive WorkflowReason
  | noWorkflow | workflowRunning | workflowFailedHeld
deriving DecidableEq

structure AdoptedWorkflowRef where
  name : String
  uid : String
deriving DecidableEq

structure SeiNodeStatus where
  phase : SeiNodePhase := .empty
  currentImage : String := ""
  currentConfigValuesHash : String := ""
  currentSidecarImage : String := ""
  currentNodeIsolation : NodeIsolation := .unset
  currentNodePool : String := ""
  plan : Option TaskPlan := none
  adoptedWorkflow : Option AdoptedWorkflowRef := none
  resolvedPeers : List String := []
  resolvedStateSyncers : List String := []
  statefulSet : Option String := none
  dataResetGeneration : Int := 0
  maintenanceHold : MaintenanceHold := .none
  committedHeight : Option Int := none
  /-- In nanoseconds. -/
  committedHeightTime : Option Int := none
  nodeUpdateInProgress : Option (Condition NodeUpdateReason) := none
  sidecarReady : Option (Condition SidecarReason) := none
  stateSyncReady : Option (Condition StateSyncReason) := none
  workflowInProgress : Option (Condition WorkflowReason) := none
  dataResetInProgress : Option (Condition DataResetReason) := none
  maintenanceInProgress : Option (Condition MaintenanceReason) := none
deriving DecidableEq

structure SeiNode where
  name : String := ""
  nameSpace : String := ""
  uid : String := ""
  creationTimestamp : Nat := 0
  deletionTimestamp : Option Nat := none
  /-- Whether the object carries the controller's finalizer. -/
  finalizer : Bool := false
  /-- The legacy dedicated-node annotation. -/
  dedicatedAnnotation : Bool := false
  spec : SeiNodeSpec := {}
  status : SeiNodeStatus := {}

namespace SeiNode

def planActive (node : SeiNode) : Bool :=
  match node.status.plan with
  | some plan => plan.phase == .active
  | none => false

def effectiveNodeIsolation (node : SeiNode) : NodeIsolation :=
  match node.spec.scheduling with
  | some { nodeIsolation := .shared, .. } => .shared
  | some { nodeIsolation := .dedicated, .. } => .dedicated
  | _ => if node.dedicatedAnnotation then .dedicated else .shared

def requestedNodePool (node : SeiNode) : String :=
  (node.spec.scheduling.map SchedulingConfig.nodePool).getD ""

/-- `spec.nodeConfig` is fixed at creation, so the spec alone answers it. -/
def mountsNodeConfig (node : SeiNode) : Bool :=
  node.spec.nodeConfig.isSome

end SeiNode

/-- The app-config's override of one role's footprint; an empty field overrides nothing. -/
structure ResourceOverride where
  cpuRequest : String := ""
  memory : String := ""
deriving DecidableEq

/-- The ports `sei-config` names, and the list of all of seid's. -/
structure SeidPorts where
  rpc : Int := 0
  grpc : Int := 0
  p2p : Int := 0
  evmHTTP : Int := 0
  sidecar : Int := 0
  nodePorts : List (String × Int) := []
deriving DecidableEq

/-- Controller-wide configuration, with the third-party constants and functions
the planners and the renderer call: the SHA-256 hex digest, the keys and ports of
`sei-config`, and the value of a quantity. -/
structure Platform where
  nodepoolName : String := ""
  nodepoolArchive : String := ""
  nodepoolValidator : String := ""
  nodepoolSeed : String := ""
  dedicatedNodepoolName : String := ""
  dedicatedNodepoolArchive : String := ""
  dedicatedNodepoolValidator : String := ""
  dedicatedNodepoolSeed : String := ""
  selectableNodepools : List String := []
  tolerationKey : String := ""
  serviceAccount : String := ""
  nodeResourcesValidator : ResourceOverride := {}
  nodeResourcesNode : ResourceOverride := {}
  nodeResourcesReplayer : ResourceOverride := {}
  nodeResourcesArchive : ResourceOverride := {}
  nodeResourcesSeed : ResourceOverride := {}
  snapshotBucket : String := ""
  snapshotRegion : String := ""
  genesisBucket : String := ""
  genesisRegion : String := ""
  kubeRBACProxyImage : String := ""
  cosmosExporterImage : String := ""
  cosmosExporterExcludedChains : List String := []
  ports : SeidPorts := {}
  quantityValue : Quantity → Int := fun _ => 0
  sidecarImage : String
  driftUpdateBudgetPercent : Int
  sha256 : String → String
  keyP2PExternalAddress : String
  keySnapshotInterval : String
  keySnapshotKeepRecent : String
  defaultSnapshotInterval : Int
  snapshotGenerationOverrides : Int → List (String × String)

/-- A platform for evaluating the model: the digest is the text itself. -/
def samplePlatform : Platform where
  sidecarImage := "sidecar:1"
  driftUpdateBudgetPercent := 0
  sha256 text := text
  keyP2PExternalAddress := "network.p2p.external_address"
  keySnapshotInterval := "storage.snapshot_interval"
  keySnapshotKeepRecent := "storage.snapshot_keep_recent"
  defaultSnapshotInterval := 2000
  snapshotGenerationOverrides _ := []

def effectiveSidecarImage (platform : Platform) (node : SeiNode) : String :=
  match node.spec.sidecar with
  | some sidecar => if sidecar.image ≠ "" then sidecar.image else platform.sidecarImage
  | none => platform.sidecarImage

end SeiController
