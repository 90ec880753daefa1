import SeiController.Lib.Json

/-!
# Task plans as the SeiNode status carries them

The enumerations and records of `api/v1alpha1` that the planner writes and the
executor advances.  A `PlannedTask` keeps its whole payload, so a stored plan can
be driven without the planner that built it.
-/

set_option autoImplicit false

namespace SeiController

/-- The task types of the registry, controller-side and sidecar-backed alike.
`unknown` is any other string a stored plan may carry. -/
inductive TaskType
  | snapshotRestore | configureStateSync | awaitCondition | configApply | configPatch
  | configValidate | configureGenesis | restartSeid | markReady | markNotReady | stopSeid
  | resetData | awaitSeidStart | resetDataKeepSignState | generateIdentity | generateGentx
  | uploadGenesisArtifacts | assembleGenesis | setGenesisPeers | govVote | unjail
  | govSoftwareUpgrade | govParamChange | govUpdateInstantiateConfig
  | awaitNodesRunning | collectAndSetPeers
  | ensureDataPVC | applyStatefulSet | applyService | applyRBACProxyConfig | replacePod
  | observeImage | recordDataReset | recordMaintenanceHold | startSeidOnce | updateNodeImage
  | validateSigningKey | validateNodeKey | validateOperatorKeyring
  | unknown (name : String)
deriving DecidableEq

/-- The string a task type has on the wire and in `PlannedTask.Type`. -/
def TaskType.wire : TaskType → String
  | snapshotRestore => "snapshot-restore"
  | configureStateSync => "configure-state-sync"
  | awaitCondition => "await-condition"
  | configApply => "config-apply"
  | configPatch => "config-patch"
  | configValidate => "config-validate"
  | configureGenesis => "configure-genesis"
  | restartSeid => "restart-seid"
  | markReady => "mark-ready"
  | markNotReady => "mark-not-ready"
  | stopSeid => "stop-seid"
  | resetData => "reset-data"
  | awaitSeidStart => "await-seid-start"
  | resetDataKeepSignState => "reset-data-keep-sign-state"
  | generateIdentity => "generate-identity"
  | generateGentx => "generate-gentx"
  | uploadGenesisArtifacts => "upload-genesis-artifacts"
  | assembleGenesis => "assemble-and-upload-genesis"
  | setGenesisPeers => "set-genesis-peers"
  | govVote => "gov-vote"
  | unjail => "unjail"
  | govSoftwareUpgrade => "gov-software-upgrade"
  | govParamChange => "gov-param-change"
  | govUpdateInstantiateConfig => "gov-update-instantiate-config"
  | awaitNodesRunning => "await-nodes-running"
  | collectAndSetPeers => "collect-and-set-peers"
  | ensureDataPVC => "ensure-data-pvc"
  | applyStatefulSet => "apply-statefulset"
  | applyService => "apply-service"
  | applyRBACProxyConfig => "apply-rbac-proxy-config"
  | replacePod => "replace-pod"
  | observeImage => "observe-image"
  | recordDataReset => "record-data-reset"
  | recordMaintenanceHold => "record-maintenance-hold"
  | startSeidOnce => "start-seid-once"
  | updateNodeImage => "update-node-image"
  | validateSigningKey => "validate-signing-key"
  | validateNodeKey => "validate-node-key"
  | validateOperatorKeyring => "validate-operator-keyring"
  | unknown name => name

inductive SeiNodePhase
  | empty | pending | initializing | running | failed | terminating
deriving DecidableEq

def SeiNodePhase.text : SeiNodePhase → String
  | empty => ""
  | pending => "Pending"
  | initializing => "Initializing"
  | running => "Running"
  | failed => "Failed"
  | terminating => "Terminating"

inductive TaskPlanPhase
  | active | complete | failed
deriving DecidableEq

inductive TaskStatus
  | pending | running | complete | failed
deriving DecidableEq

/-- `none` is the empty string: no hold. -/
inductive MaintenanceHold
  | none | immediate | afterExit
deriving DecidableEq

def MaintenanceHold.text : MaintenanceHold → String
  | none => ""
  | immediate => "Immediate"
  | afterExit => "AfterExit"

/-- A task's identifier is the UUID v5 of a seed; here it is what the seed is made of.  That
the UUIDs of two seeds differ is a matter of the hash. -/
structure TaskID where
  owner : String
  taskType : TaskType
  planIndex : Nat
deriving DecidableEq

def deterministicTaskID (planID : String) (taskType : TaskType) (planIndex : Nat) : TaskID :=
  ⟨planID, taskType, planIndex⟩

/-- The text `DeterministicTaskID` hashes; error texts name a task by it. -/
def TaskID.seed (id : TaskID) : String :=
  id.owner ++ "/" ++ id.taskType.wire ++ "/" ++ toString id.planIndex

/-- The keys of one TOML file and their values, as a patch carries them. -/
abbrev Table := List (String × Json)

/-- `ConfigPatchTask.Files`: file name to patch. -/
abbrev PatchFiles := List (String × Table)

inductive ConfigMode
  | full | archive | validator | seed
deriving DecidableEq

/-- The part of `seiconfig.ConfigIntent` the controller fills. -/
structure ConfigIntent where
  mode : ConfigMode
  overrides : List (String × String)
deriving DecidableEq

/-- The signal that proves seid answers: GET / on the EVM listener, TCP on the P2P
port, or GET /status on the RPC port.  `custom` is any other a stored payload may carry. -/
inductive UpCheck
  | evmRoot | p2p | rpcStatus
  | custom (scheme : String) (port : Int) (path : String)
deriving DecidableEq

/-! ## The payloads of the sidecar tasks

A field that a payload leaves out has Go's zero value. -/

structure AwaitConditionTask where
  condition : String := ""
  targetHeight : Int := 0
  action : String := ""
deriving DecidableEq

structure GovVoteTask where
  chainID : String := ""
  keyName : String := ""
  proposalID : Nat := 0
  option : String := ""
  memo : String := ""
  fees : String := ""
  gas : Nat := 0
deriving DecidableEq

structure UnjailTask where
  chainID : String := ""
  keyName : String := ""
  memo : String := ""
  fees : String := ""
  gas : Nat := 0
deriving DecidableEq

structure ProposalParams where
  chainID : String := ""
  keyName : String := ""
  title : String := ""
  description : String := ""
  initialDeposit : String := ""
  memo : String := ""
  fees : String := ""
  gas : Nat := 0
deriving DecidableEq

structure GovSoftwareUpgradeTask extends ProposalParams where
  upgradeName : String := ""
  upgradeHeight : Int := 0
  upgradeInfo : String := ""
deriving DecidableEq

/-- The value is raw JSON. -/
structure ParamChangeInput where
  subspace : String
  key : String
  value : String
deriving DecidableEq

structure GovParamChangeTask extends ProposalParams where
  changes : List ParamChangeInput := []
deriving DecidableEq

structure InstantiateConfigUpdateInput where
  codeID : Nat
  permission : String
deriving DecidableEq

structure GovUpdateInstantiateConfigTask extends ProposalParams where
  updates : List InstantiateConfigUpdateInput := []
deriving DecidableEq

structure GenesisAccountVesting where
  amount : String
  endTime : Int
deriving DecidableEq

structure GenesisAccountEntry where
  address : String
  balance : String
  vesting : Option GenesisAccountVesting
deriving DecidableEq

structure AutobahnConfigParams where
  blockInterval : String
  maxTxsPerBlock : Option Int
deriving DecidableEq

/-- The fields `Validate` reads; the consensus parameters are raw JSON. -/
structure AssembleAndUploadGenesisTask where
  accountBalance : String := ""
  nameSpace : String := ""
  nodes : List String := []
  accounts : List GenesisAccountEntry := []
  consensusParams : String := ""
  autobahn : Bool := false
  autobahnConfig : Option AutobahnConfigParams := none
deriving DecidableEq

structure UpdateNodeImageParams where
  nodeName : String := ""
  nameSpace : String := ""
  image : String := ""
deriving DecidableEq

/-- A task's payload.  `absent` is a nil payload, `empty` an object without fields,
`other` a payload of another component, `malformed` bytes the deserializer rejects. -/
inductive TaskParams
  | absent
  | empty
  | other
  | malformed (err : String)
  | node (nodeName nameSpace : String)
  | validateKey (secretName nameSpace : String)
  | validateOperatorKeyring
      (secretName keyName passphraseSecretName passphraseSecretKey nameSpace : String)
  | snapshotRestore (targetHeight : Int)
  | configureGenesis (autobahn : Bool)
  | configureStateSync
      (useLocalSnapshot : Bool) (rpcServers : List String) (trustPeriod : String)
      (backfillBlocks : Int)
  | upCheck (check : UpCheck)
  | generateIdentity (chainID moniker : String)
  | generateGentx (chainID stakingAmount accountBalance : String)
  | uploadGenesisArtifacts (nodeName nameSpace : String) (autobahn : Bool)
  | assembleGenesis (task : AssembleAndUploadGenesisTask)
  | awaitCondition (task : AwaitConditionTask)
  | govVote (task : GovVoteTask)
  | unjail (task : UnjailTask)
  | govSoftwareUpgrade (task : GovSoftwareUpgradeTask)
  | govParamChange (task : GovParamChangeTask)
  | govUpdateInstantiateConfig (task : GovUpdateInstantiateConfigTask)
  | updateNodeImage (params : UpdateNodeImageParams)
  | recordDataReset (generation : Int)
  | recordMaintenanceHold (hold : MaintenanceHold)
  | configPatch (files : PatchFiles)
  | configApply (intent : ConfigIntent)
deriving DecidableEq

structure PlannedTask where
  type : TaskType
  id : TaskID
  status : TaskStatus
  params : TaskParams
  submittedAt : Option Nat
  error : String
  maxRetries : Nat
  retryCount : Nat
deriving DecidableEq

structure FailedTaskInfo where
  type : TaskType
  id : TaskID
  error : String
  retryCount : Nat
  maxRetries : Nat
deriving DecidableEq

structure TaskPlan where
  id : String
  phase : TaskPlanPhase
  tasks : List PlannedTask
  targetPhase : SeiNodePhase
  configValuesHash : String
  failedPhase : SeiNodePhase
  failedTaskIndex : Option Nat
  failedTaskDetail : Option FailedTaskInfo
deriving DecidableEq

namespace TaskPlan

def types (plan : TaskPlan) : List TaskType :=
  plan.tasks.map PlannedTask.type

/-- `slices.ContainsFunc(plan.Tasks, t.Type == taskType)`. -/
def hasTask (plan : TaskPlan) (taskType : TaskType) : Bool :=
  plan.tasks.any fun task => task.type == taskType

theorem hasTask_iff (plan : TaskPlan) (taskType : TaskType) :
    plan.hasTask taskType = true ↔ taskType ∈ plan.types := by
  simp only [hasTask, types, List.any_eq_true, List.mem_map, beq_iff_eq]

end TaskPlan

end SeiController
