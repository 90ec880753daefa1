import SeiController.Task.Env
import SeiController.Task.StartGuard

/-!
# Task executions

How one planned task is run: sidecar tasks are submitted and polled, guarded starts
ask the start guard first, controller-side tasks act on the in-memory node or the
cluster.  An execution is rebuilt from the plan on every reconcile, so its fields
live only between one `Execute` and the `Status` after it.
-/

set_option autoImplicit false

namespace SeiController

inductive ExecutionStatus
  | running | complete | failed
deriving DecidableEq

/-- A transient error is retried, a terminal one fails the plan. -/
inductive ExecuteError
  | transient (message : String)
  | terminal (message : String)
deriving DecidableEq

structure SidecarExecution where
  id : TaskID
  requestType : TaskType
  params : TaskParams
  fireAndForget : Bool
  /-- A sidecar client has been built. -/
  client : Bool
  status : ExecutionStatus
  err : Option String

inductive StartGuard
  | startBlocked | startOnceBlocked
deriving DecidableEq

def StartGuard.blocked : StartGuard → SeiNode → Option String
  | .startBlocked => SeiController.startBlocked
  | .startOnceBlocked => SeiController.startOnceBlocked

structure ControllerExecution where
  type : TaskType
  params : TaskParams
  status : ExecutionStatus
  err : Option String

inductive TaskExecution
  | sidecar (exec : SidecarExecution)
  | startGuarded (exec : SidecarExecution) (guard : StartGuard) (err : Option String)
  | controller (exec : ControllerExecution)

inductive Backend
  | sidecar (fireAndForget : Bool)
  | startGuarded (guard : StartGuard)
  | controller
deriving DecidableEq

def registry : TaskType → Option Backend
  | .snapshotRestore | .configureStateSync | .awaitCondition | .configApply | .configPatch =>
    some (.sidecar false)
  | .configValidate => some (.sidecar true)
  | .configureGenesis | .restartSeid => some (.sidecar false)
  | .markReady => some (.startGuarded .startBlocked)
  | .markNotReady | .stopSeid | .resetData | .awaitSeidStart | .resetDataKeepSignState =>
    some (.sidecar false)
  | .generateIdentity | .generateGentx | .uploadGenesisArtifacts | .assembleGenesis
  | .setGenesisPeers => some (.sidecar false)
  | .govVote | .unjail | .govSoftwareUpgrade | .govParamChange | .govUpdateInstantiateConfig =>
    some (.sidecar false)
  | .awaitNodesRunning | .collectAndSetPeers => some .controller
  | .ensureDataPVC | .applyStatefulSet | .applyService | .applyRBACProxyConfig | .replacePod
  | .observeImage | .recordDataReset | .recordMaintenanceHold => some .controller
  | .startSeidOnce => some (.startGuarded .startOnceBlocked)
  | .updateNodeImage | .validateSigningKey | .validateNodeKey | .validateOperatorKeyring =>
    some .controller
  | .unknown _ => none

def deserializeSidecar (task : PlannedTask) (requestType : TaskType) (fireAndForget : Bool) :
    SidecarExecution :=
  { id := task.id, requestType, params := task.params, fireAndForget
    client := false, status := .running, err := none }

/-- The fields update-node-image unmarshals. -/
def TaskParams.imageParams : TaskParams → UpdateNodeImageParams
  | .updateNodeImage params => params
  | _ => {}

/-- The check `deserializeUpdateNodeImage` makes of its parameters. -/
def lacksImageParams (task : PlannedTask) : Bool :=
  let params := task.params.imageParams
  task.type == .updateNodeImage &&
    (params.nodeName == "" || params.nameSpace == "" || params.image == "")

/-- `task.Deserialize`: an unknown type or a payload that does not unmarshal is an
error, and the executor fails the plan on it. -/
def deserialize (task : PlannedTask) : Except String TaskExecution :=
  match registry task.type, task.params with
  | none, _ => .error ("unknown task type \"" ++ task.type.wire ++ "\"")
  | some .controller, .malformed err =>
    .error ("deserializing " ++ task.type.wire ++ " params: " ++ err)
  | some _, .malformed err => .error ("deserializing params for task " ++ task.id.seed ++ ": " ++ err)
  | some (.sidecar fireAndForget), _ =>
    .ok (.sidecar (deserializeSidecar task task.type fireAndForget))
  | some (.startGuarded guard), _ =>
    .ok (.startGuarded (deserializeSidecar task .markReady true) guard none)
  | some .controller, _ =>
    if lacksImageParams task then
      .error "update-node-image: nodeName, namespace, and image are required"
    else
      .ok (.controller ⟨task.type, task.params, .running, none⟩)

section

variable {ε : Type} (env : Env ε)

namespace SidecarExecution

def ensureClient (exec : SidecarExecution) (ctx : Ctx ε) :
    SidecarExecution × Ctx ε × Option String :=
  if exec.client then (exec, ctx, none) else
  match env.buildSidecarClient ctx.env ctx.node with
  | (state, some err) => (exec, { ctx with env := state }, some err)
  | (state, none) => ({ exec with client := true }, { ctx with env := state }, none)

/-- `Execute`: build the client, validate, submit.  No error here is terminal. -/
def execute (origin : Origin) (task : PlannedTask) (exec : SidecarExecution) (ctx : Ctx ε) :
    SidecarExecution × Ctx ε × Option ExecuteError :=
  match exec.ensureClient env ctx with
  | (exec, ctx, some err) => (exec, ctx, some (.transient ("building sidecar client: " ++ err)))
  | (exec, ctx, none) =>
    match exec.params.validate env.checks exec.requestType with
    | some err =>
      let message := "validating " ++ exec.requestType.wire ++ ": " ++ err
      ({ exec with status := .failed, err := some message }, ctx, some (.transient message))
    | none =>
      match env.submitTask ctx.env ⟨exec.id, exec.requestType, exec.params⟩ with
      | (state, some err) =>
        let message := "submitting " ++ exec.requestType.wire ++ ": " ++ err
        ({ exec with status := .failed, err := some message },
          { ctx with env := state, log := .submitted origin task ctx.node false :: ctx.log },
          some (.transient message))
      | (state, none) =>
        ({ exec with status := if exec.fireAndForget then .complete else .running },
          { ctx with env := state, log := .submitted origin task ctx.node true :: ctx.log },
          none)

/-- What the sidecar's answer makes of the execution.  Every way of not learning
the outcome leaves it running. -/
def answered (exec : SidecarExecution) :
    Except GetTaskError TaskResult → SidecarExecution × ExecutionStatus
  | .error _ => (exec, .running)
  | .ok ⟨.running, _⟩ => (exec, .running)
  | .ok ⟨.completed, _⟩ => ({ exec with status := .complete }, .complete)
  | .ok ⟨.failed, err⟩ =>
    let message :=
      match err with
      | some text =>
        if text ≠ "" then text else "task " ++ exec.id.seed ++ " failed with unknown error"
      | none => "task " ++ exec.id.seed ++ " failed with unknown error"
    ({ exec with status := .failed, err := some message }, .failed)

/-- `Status`: poll the sidecar unless the outcome is already known. -/
def pollStatus (origin : Origin) (task : PlannedTask) (exec : SidecarExecution) (ctx : Ctx ε) :
    SidecarExecution × Ctx ε × ExecutionStatus :=
  match exec.status with
  | .complete => (exec, ctx, .complete)
  | .failed => (exec, ctx, .failed)
  | .running =>
    match exec.ensureClient env ctx with
    | (exec, ctx, some _) => (exec, ctx, .running)
    | (exec, ctx, none) =>
      match env.getTask ctx.env exec.id with
      | (state, answer) =>
        match exec.answered answer with
        | (exec, status) =>
          (exec, { ctx with env := state, log := .observed origin task answer :: ctx.log },
            status)

end SidecarExecution

/-! ## Controller-side tasks -/

/-- The fields the two recording tasks unmarshal; a payload without one leaves Go's
zero value. -/
def TaskParams.generation : TaskParams → Int
  | .recordDataReset generation => generation
  | _ => 0

def TaskParams.hold : TaskParams → MaintenanceHold
  | .recordMaintenanceHold hold => hold
  | _ => .none

/-- Never lowers the handled counter. -/
def recordDataReset (generation : Int) (node : SeiNode) : SeiNode :=
  if node.status.dataResetGeneration < generation then
    { node with status := { node.status with dataResetGeneration := generation } }
  else
    node

def recordMaintenanceHold (hold : MaintenanceHold) (node : SeiNode) : SeiNode :=
  { node with status := { node.status with maintenanceHold := hold } }

/-- What `observe-image` stamps once the rollout is complete. -/
def stampRollout (platform : Platform) (node : SeiNode) : SeiNode :=
  { node with
    status :=
      { node.status with
        currentImage := node.spec.image
        currentSidecarImage := effectiveSidecarImage platform node
        currentNodeIsolation := node.effectiveNodeIsolation
        currentNodePool := node.requestedNodePool } }

def rolloutComplete (sts : StatefulSet) : Bool :=
  !decide (sts.observedGeneration < sts.generation) &&
    match sts.replicas with
    | none => false
    | some replicas => !decide (sts.updatedReplicas < replicas)

def observeImage (platform : Platform) (ctx : Ctx ε) : Ctx ε × ControllerOutcome :=
  match env.getStatefulSet ctx.env ctx.node with
  | (state, .error .notFound) => ({ ctx with env := state }, .waiting)
  | (state, .error (.other err)) =>
    ({ ctx with env := state }, .transient ("getting statefulset: " ++ err))
  | (state, .ok sts) =>
    if rolloutComplete sts then
      ({ ctx with env := state, node := stampRollout platform ctx.node }, .complete)
    else
      ({ ctx with env := state }, .waiting)

/-- Get-then-Create of the default-named claim.  A claim the node does not control
is refused for good; one that appears between the two calls is retried. -/
def createDataPVC (ctx : Ctx ε) : Ctx ε × ControllerOutcome :=
  match env.claimCall ctx.env ctx.claims with
  | (state, claims, some err) =>
    ({ ctx with env := state, claims }, .transient ("checking for existing data PVC: " ++ err))
  | (state, claims, none) =>
    match claims.find? fun claim => claim.name == dataPVCName ctx.node with
    | some existing =>
      if existing.controlledBy ctx.node then
        ({ ctx with env := state, claims }, .complete)
      else
        ({ ctx with env := state, claims },
          .terminal ("data PVC \"" ++ existing.name ++ "\" already exists and is not owned by SeiNode \""
            ++ ctx.node.name ++ "\"; set spec.dataVolume.import.pvcName to adopt, or delete the PVC"))
    | none =>
      match env.volumeAttributesClassHold state ctx.node with
      | some err => ({ ctx with env := state, claims }, .transient err)
      | none =>
        match env.claimCall state claims with
        | (state, claims, some err) =>
          ({ ctx with env := state, claims }, .transient ("creating data PVC: " ++ err))
        | (state, claims, none) =>
          if claims.any fun claim => claim.name == dataPVCName ctx.node then
            ({ ctx with env := state, claims }, .transient "data PVC created concurrently")
          else
            let (state, uid) := env.newUUID state
            let claim : PersistentVolumeClaim :=
              { name := dataPVCName ctx.node, uid, controllerUID := some ctx.node.uid
                request := env.storageRequest state ctx.node, bound := false
                resourceVersion := 0 }
            ({ ctx with
                env := state
                claims := claim :: claims
                log := .claimCreated ctx.node claim :: ctx.log }, .complete)

/-- An imported claim is only validated; every defect that can heal waits. -/
def ensureDataPVC (ctx : Ctx ε) : Ctx ε × ControllerOutcome :=
  match ctx.node.importedPVCName with
  | none => createDataPVC env ctx
  | some name =>
    match env.validateImport ctx.env ctx.node name with
    | (state, .complete) => ({ ctx with env := state }, .complete)
    | (state, .terminal err) => ({ ctx with env := state }, .terminal err)
    | (state, _) => ({ ctx with env := state }, .waiting)

/-- `Execute` of update-node-image: only a target that is not there is an error for good. -/
def updateNodeImage (params : UpdateNodeImageParams) (ctx : Ctx ε) : Ctx ε × ControllerOutcome :=
  match env.getSeiNode ctx.env params.nodeName params.nameSpace with
  | (state, .error .notFound) =>
    ({ ctx with env := state }, .terminal ("target SeiNode \"" ++ params.nodeName ++ "\" not found"))
  | (state, .error (.other err)) =>
    ({ ctx with env := state }, .transient ("getting target SeiNode: " ++ err))
  | (state, .ok target) =>
    if target.spec.image = params.image then ({ ctx with env := state }, .waiting)
    else
      match env.patchImage state target params.image with
      | (state, some err) =>
        ({ ctx with env := state }, .transient ("patching target spec.image: " ++ err))
      | (state, none) => ({ ctx with env := state }, .waiting)

def runController (platform : Platform) (exec : ControllerExecution) (ctx : Ctx ε) :
    Ctx ε × ControllerOutcome :=
  match exec.type with
  | .recordDataReset =>
    ({ ctx with node := recordDataReset exec.params.generation ctx.node }, .complete)
  | .recordMaintenanceHold =>
    ({ ctx with node := recordMaintenanceHold exec.params.hold ctx.node }, .complete)
  | .observeImage => observeImage env platform ctx
  | .ensureDataPVC => ensureDataPVC env ctx
  | .updateNodeImage => updateNodeImage env exec.params.imageParams ctx
  | type =>
    match env.runControllerTask ctx.env type ctx.node with
    | (state, outcome) => ({ ctx with env := state }, outcome)

def ControllerExecution.execute (platform : Platform) (origin : Origin) (task : PlannedTask)
    (exec : ControllerExecution) (ctx : Ctx ε) :
    ControllerExecution × Ctx ε × Option ExecuteError :=
  match runController env platform exec ctx with
  | (after, outcome) =>
    let after := { after with log := .executed origin task ctx.node after.node :: after.log }
    match outcome with
    | .complete => ({ exec with status := .complete }, after, none)
    | .waiting => (exec, after, none)
    | .failed err => ({ exec with status := .failed, err := some err }, after, none)
    | .transient err => (exec, after, some (.transient err))
    | .terminal err => (exec, after, some (.terminal err))

/-- `Status`: update-node-image reads its target again, the other tasks know their outcome
from `Execute`. -/
def ControllerExecution.pollStatus (exec : ControllerExecution) (ctx : Ctx ε) :
    ControllerExecution × Ctx ε × ExecutionStatus :=
  if exec.type = .updateNodeImage ∧ exec.status = .running then
    match env.getSeiNode ctx.env exec.params.imageParams.nodeName exec.params.imageParams.nameSpace
    with
    | (state, .error _) => (exec, { ctx with env := state }, .running)
    | (state, .ok target) =>
      if target.status.currentImage = exec.params.imageParams.image then
        ({ exec with status := .complete }, { ctx with env := state }, .complete)
      else
        (exec, { ctx with env := state }, .running)
  else
    (exec, ctx, exec.status)

/-! ## The executions together -/

namespace TaskExecution

def execute (platform : Platform) (origin : Origin) (task : PlannedTask) (ctx : Ctx ε) :
    TaskExecution → TaskExecution × Ctx ε × Option ExecuteError
  | .sidecar exec =>
    match exec.execute env origin task ctx with
    | (exec, ctx, err) => (.sidecar exec, ctx, err)
  | .startGuarded exec guard err =>
    match guard.blocked ctx.node with
    | some reason =>
      let message := startGuardRefusal ++ ": " ++ reason
      (.startGuarded exec guard (some message), ctx, some (.terminal message))
    | none =>
      match exec.execute env origin task ctx with
      | (exec, ctx, failure) => (.startGuarded exec guard err, ctx, failure)
  | .controller exec =>
    match exec.execute env platform origin task ctx with
    | (exec, ctx, err) => (.controller exec, ctx, err)

def pollStatus (origin : Origin) (task : PlannedTask) (ctx : Ctx ε) :
    TaskExecution → TaskExecution × Ctx ε × ExecutionStatus
  | .sidecar exec =>
    match exec.pollStatus env origin task ctx with
    | (exec, ctx, status) => (.sidecar exec, ctx, status)
  | .startGuarded exec guard (some err) => (.startGuarded exec guard (some err), ctx, .failed)
  | .startGuarded exec guard none =>
    match exec.pollStatus env origin task ctx with
    | (exec, ctx, status) => (.startGuarded exec guard none, ctx, status)
  | .controller exec =>
    match exec.pollStatus env ctx with
    | (exec, ctx, status) => (.controller exec, ctx, status)

def err : TaskExecution → Option String
  | .sidecar exec => exec.err
  | .startGuarded _ _ (some err) => some err
  | .startGuarded exec _ none => exec.err
  | .controller exec => exec.err

end TaskExecution

end

end SeiController
