import SeiController.Planner.Update
import SeiController.Task.StartGuard

/-!
# Nodes that mount their configuration

The data reset, the maintenance hold and the planner that puts them before every other
plan of a Running node.
-/

set_option autoImplicit false

namespace SeiController

/-! ## Data reset -/

def dataResetMaxRetries : Nat := 5

/-- The wipe gets a retry budget of its own; every other task keeps its type's. -/
def withResetBudget (task : PlannedTask) : PlannedTask :=
  if task.type = .resetDataKeepSignState then { task with maxRetries := dataResetMaxRetries }
  else task

def dataResetSteps (node : SeiNode) : List PlanStep :=
  [⟨.observeImage, .node node.name node.nameSpace⟩,
    ⟨.markNotReady, .empty⟩,
    ⟨.stopSeid, .upCheck (upCheckForNode node)⟩,
    ⟨.resetDataKeepSignState, .empty⟩,
    ⟨.recordDataReset, .recordDataReset node.spec.dataResetGeneration⟩,
    ⟨.markReady, .empty⟩]

def buildDataResetPlan (planID : String) (node : SeiNode) : TaskPlan :=
  let plan := assembleSteps planID (dataResetSteps node)
  { plan with tasks := plan.tasks.map withResetBudget }

def isDataResetPlan (plan : TaskPlan) : Bool :=
  plan.hasTask .recordDataReset

def setDataResetCondition (status : ConditionStatus) (reason : DataResetReason) (message : String)
    (node : SeiNode) : SeiNode :=
  { node with status := { node.status with dataResetInProgress := some ⟨status, reason, message⟩ } }

def dataResetReason (node : SeiNode) : Option DataResetReason :=
  node.status.dataResetInProgress.map Condition.reason

/-- While the node is not Running the handled counter follows the spec, so that no
plan ever resets a node that is still initializing. -/
def catchUpDataReset (node : SeiNode) : SeiNode :=
  if node.status.phase ≠ .running ∧ node.status.dataResetGeneration < node.spec.dataResetGeneration then
    { node with status := { node.status with dataResetGeneration := node.spec.dataResetGeneration } }
  else
    node

def resolveDataReset (node : SeiNode) : SeiNode :=
  if node.spec.nodeConfig.isNone then
    setDataResetCondition .conditionFalse .notApplicable
      ("spec.nodeConfig is not set; the declarative data reset applies only to "
        ++ "ConfigMap-configured nodes") node
  else
    let node := catchUpDataReset node
    if (node.status.plan.map isDataResetPlan).getD false then
      node
    else if !dataResetPending node then
      if dataResetReason node ≠ some .resetComplete then
        setDataResetCondition .conditionFalse .noResetRequested
          ("no data reset requested (dataResetGeneration="
            ++ toString node.status.dataResetGeneration ++ ")") node
      else
        node
    else if dataResetReason node = some .resetFailed then
      node
    else
      setDataResetCondition .conditionTrue .resetPending
        ("data reset pending for dataResetGeneration=" ++ toString node.spec.dataResetGeneration
          ++ " (handled " ++ toString node.status.dataResetGeneration ++ ")") node

def markDataResetStarted (node : SeiNode) : SeiNode :=
  if dataResetReason node = some .resetFailed then node
  else
    setDataResetCondition .conditionTrue .resetRunning
      ("resetting data for dataResetGeneration=" ++ toString node.spec.dataResetGeneration) node

def planFailureMessage (plan : TaskPlan) : String :=
  match plan.failedTaskDetail with
  | some detail => "task " ++ detail.type.wire ++ ": " ++ detail.error
  | none => "unknown"

/-- The tasks before the first mark-ready are Complete, and there is one. -/
def completeBeforeMarkReady : List PlannedTask → Bool
  | [] => false
  | task :: rest =>
    if task.type = .markReady then true
    else if task.status ≠ .complete then false
    else completeBeforeMarkReady rest

/-- `strings.Contains`. -/
def textContains (text part : String) : Bool :=
  text.toList.tails.any fun tail => part.toList.isPrefixOf tail

/-- The plan failed only because the start guard refused its mark-ready. -/
def startDeferred (plan : TaskPlan) : Bool :=
  match plan.failedTaskDetail with
  | some detail =>
    detail.type == .markReady && textContains detail.error startGuardRefusal
      && completeBeforeMarkReady plan.tasks
  | none => false

def failureText (plan : TaskPlan) : String :=
  (plan.failedTaskDetail.map FailedTaskInfo.error).getD ""

def observeTerminalDataResetPlan (plan : TaskPlan) (node : SeiNode) : SeiNode :=
  if !isDataResetPlan plan then node
  else
    match plan.phase with
    | .active => node
    | .complete =>
      setDataResetCondition .conditionFalse .resetComplete
        ("data reset complete for dataResetGeneration="
          ++ toString node.status.dataResetGeneration) node
    | .failed =>
      if startDeferred plan then
        if dataResetPending node then
          setDataResetCondition .conditionTrue .resetPending
            ("data reset recorded for dataResetGeneration="
              ++ toString node.status.dataResetGeneration ++ "; reset for "
              ++ toString node.spec.dataResetGeneration ++ " pending") node
        else
          setDataResetCondition .conditionFalse .resetComplete
            ("data reset complete for dataResetGeneration="
              ++ toString node.status.dataResetGeneration ++ "; start deferred: "
              ++ failureText plan) node
      else
        setDataResetCondition .conditionTrue .resetFailed
          ("data reset for dataResetGeneration=" ++ toString node.spec.dataResetGeneration
            ++ " failed, seid stays held and the controller retries: "
            ++ planFailureMessage plan) node

/-! ## Maintenance hold -/

def sidecarGateOpen (node : SeiNode) : Bool :=
  match node.status.sidecarReady with
  | some condition => condition.status == .conditionTrue
  | none => false

def recordHoldStep (hold : MaintenanceHold) : PlanStep :=
  ⟨.recordMaintenanceHold, .recordMaintenanceHold hold⟩

/-- The steps that move the hold in effect from `inEffect` to `want`. -/
def holdSteps (node : SeiNode) (want inEffect : MaintenanceHold) : List PlanStep :=
  let observe : PlanStep := ⟨.observeImage, .node node.name node.nameSpace⟩
  let steps : List PlanStep :=
    match want, inEffect with
    | .immediate, _ => [⟨.markNotReady, .empty⟩, ⟨.stopSeid, .upCheck (upCheckForNode node)⟩]
    | .afterExit, .immediate =>
      [observe, ⟨.startSeidOnce, .empty⟩, ⟨.awaitSeidStart, .empty⟩, ⟨.markNotReady, .empty⟩]
    | .afterExit, _ => [⟨.markNotReady, .empty⟩]
    | .none, _ => [observe, ⟨.markReady, .empty⟩]
  steps ++ [recordHoldStep want]

/-- A hold whose gate is observed open is applied again first, as if from none. -/
def buildHoldPlan (planID : String) (node : SeiNode) (want inEffect : MaintenanceHold) :
    Option TaskPlan :=
  if want ≠ .none ∧ inEffect ≠ .none ∧ sidecarGateOpen node then
    some (assembleSteps planID (holdSteps node inEffect .none))
  else if want = inEffect then
    none
  else
    some (assembleSteps planID (holdSteps node want inEffect))

/-- The trailing mark-ready becomes a record of the Immediate hold. -/
def parkInsteadOfRelease (plan : TaskPlan) : Except String TaskPlan :=
  match plan.tasks.getLast? with
  | some { type := .markReady, .. } =>
    let step := recordHoldStep .immediate
    .ok { plan with
      tasks := plan.tasks.dropLast
        ++ [buildPlannedTask plan.id step.taskType (plan.tasks.length - 1) step.params] }
  | _ => .error ("plan " ++ plan.id ++ " does not end in mark-ready; cannot park it")

def clearHoldAfterRelease (plan : TaskPlan) : Except String TaskPlan :=
  match plan.tasks.getLast? with
  | some { type := .markReady, .. } =>
    let step := recordHoldStep .none
    .ok { plan with
      tasks := plan.tasks ++ [buildPlannedTask plan.id step.taskType plan.tasks.length step.params] }
  | _ => .error ("plan " ++ plan.id ++ " does not end in mark-ready; cannot release from it")

def withoutMarkReady (plan : TaskPlan) : TaskPlan :=
  { plan with tasks := plan.tasks.filter fun task => task.type ≠ .markReady }

def isMaintenancePlan (plan : TaskPlan) : Bool :=
  plan.hasTask .recordMaintenanceHold

def setMaintenanceCondition (status : ConditionStatus) (reason : MaintenanceReason)
    (message : String) (node : SeiNode) : SeiNode :=
  { node with status := { node.status with maintenanceInProgress := some ⟨status, reason, message⟩ } }

def holdOrNone (hold : MaintenanceHold) : String :=
  if hold = .none then "none" else hold.text

def resolveMaintenance (node : SeiNode) : SeiNode :=
  let want := node.spec.holdRequested
  let inEffect := node.status.maintenanceHold
  if node.spec.nodeConfig.isNone then
    setMaintenanceCondition .conditionFalse .notApplicable
      ("spec.nodeConfig is not set; the maintenance hold applies only to "
        ++ "ConfigMap-configured nodes") node
  else if (node.status.plan.map fun plan =>
      isMaintenancePlan plan && plan.phase == .active).getD false then
    setMaintenanceCondition .conditionTrue .holdPending
      ("hold plan running; requested: " ++ holdOrNone want ++ ", in effect: " ++ holdOrNone inEffect) node
  else if want = .none ∧ inEffect = .none then
    setMaintenanceCondition .conditionFalse .notHeld "no maintenance hold" node
  else if want ≠ inEffect then
    setMaintenanceCondition .conditionTrue .holdPending
      (if want = .none then "hold " ++ inEffect.text ++ " in effect; release pending"
        else "hold " ++ holdOrNone want ++ " requested; in effect: " ++ holdOrNone inEffect) node
  else if sidecarGateOpen node then
    setMaintenanceCondition .conditionTrue .holdPending
      ("hold " ++ want.text ++ " in effect but the start gate is open; closing it") node
  else
    setMaintenanceCondition .conditionTrue (if inEffect = .afterExit then .armed else .held)
      ("hold " ++ inEffect.text ++ " in effect") node

/-! ## The planner -/

def mountedConfigWriterInPlan (node : SeiNode) (plan : TaskPlan) : Option TaskType :=
  if node.mountsNodeConfig then
    (plan.tasks.find? fun task => task.type ∈ mountedConfigWriters).map PlannedTask.type
  else
    none

/-- No replace-pod: the StatefulSet rolls the pod by itself. -/
def buildStaticUpdatePlan (platform : Platform) (planID : String) (node : SeiNode) : TaskPlan :=
  let prog := validations node ++ [.applyStatefulSet, .applyService, .observeImage, .markReady]
  assembleSteps planID
    (prog.map fun taskType => ⟨taskType, paramsForUpdateTask platform node taskType []⟩)

/-- How a reset plan ends under the hold requested and the hold in effect. -/
def finishDataReset (node : SeiNode) (plan : TaskPlan) : Except String TaskPlan :=
  if node.spec.holdRequested ≠ .none then parkInsteadOfRelease plan
  else if node.status.maintenanceHold ≠ .none then clearHoldAfterRelease plan
  else .ok plan

def buildStaticRunningPlan (platform : Platform) (planID : String) (node : SeiNode) : Built :=
  if dataResetPending node then
    match finishDataReset node (buildDataResetPlan planID node) with
    | .error err => (node, .error err)
    | .ok plan => (markDataResetStarted node, .ok (some plan))
  else
    match buildHoldPlan planID node node.spec.holdRequested node.status.maintenanceHold with
    | some plan => (node, .ok (some plan))
    | none =>
      if podTemplateDrifted platform node then
        let plan := buildStaticUpdatePlan platform planID node
        (setNodeUpdateCondition .conditionTrue .updateStarted
            (podTemplateDriftMessage platform node) node,
          .ok (some (if node.spec.holdRequested ≠ .none then withoutMarkReady plan else plan)))
      else if sidecarNeedsReapproval node ∧ node.spec.holdRequested = .none then
        (node, .ok (some (buildMarkReadyPlan planID node)))
      else
        (node, .ok none)

/-- Every arm but Running is the mode's; a node created under a hold parks at the end
of its startup plan. -/
def buildStaticPlan (platform : Platform) (planID : String) (mode : ModePlanner) (node : SeiNode) :
    Built :=
  if node.status.phase = .running then
    buildStaticRunningPlan platform planID node
  else
    match mode.buildPlan platform planID node with
    | (node, .ok (some plan)) =>
      if node.spec.holdRequested = .none then (node, .ok (some plan))
      else (node, (parkInsteadOfRelease plan).map some)
    | built => built

/-- `plannerFor` picks the planner by whether the node mounts its configuration. -/
def buildPlan (platform : Platform) (planID : String) (mode : ModePlanner) (node : SeiNode) : Built :=
  if node.mountsNodeConfig then buildStaticPlan platform planID mode node
  else mode.buildPlan platform planID node

end SeiController
