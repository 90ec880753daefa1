import SeiController.Planner.StaticConfig
import SeiController.Task.Env

/-!
# Resolving the plan of a node

`resolvePlan` probes the sidecar, clears a plan that ended and builds the next one.
It changes the in-memory node only; the plan it stores is executed by a later
reconcile.
-/

set_option autoImplicit false

namespace SeiController

/-! ## Gates -/

/-- A snapshot node waits for its state-sync witnesses before its startup plan. -/
def stateSyncBlocksPlan (node : SeiNode) : Bool :=
  if node.status.phase = .running then false
  else if !needsStateSyncWitnesses node.spec.snapshotSource then false
  else
    match node.status.stateSyncReady with
    | some condition => condition.status ≠ .conditionTrue
    | none => false

/-- In seconds. -/
def peerResolutionWait : Nat := 600

/-- A young node with a label peer source waits for a peer to resolve. -/
def peersBlockPlan (node : SeiNode) (now : Nat) : Bool :=
  if node.status.phase = .running ∨ node.status.resolvedPeers ≠ [] then false
  else if !(node.spec.peers.any fun peer => match peer with | .label _ _ => true | _ => false) then false
  else now < node.creationTimestamp + peerResolutionWait

def isUpdateFailureReason : NodeUpdateReason → Bool
  | .updateFailed | .updatePlanBuildFailed => true
  | _ => false

def shouldExplainUnobservedConfig (node : SeiNode) : Bool :=
  let failureReason :=
    (node.status.nodeUpdateInProgress.map fun condition =>
      isUpdateFailureReason condition.reason).getD false
  node.status.phase == .running && node.status.currentConfigValuesHash == ""
    && !node.spec.configValues.isEmpty && !failureReason

/-! ## Terminal plans -/

def hasNodeUpdateCondition (node : SeiNode) : Bool :=
  match node.status.nodeUpdateInProgress with
  | some condition => condition.status == .conditionTrue
  | none => false

def clearPlan (node : SeiNode) : SeiNode :=
  { node with status := { node.status with plan := none } }

def observeTerminalUpdate (plan : TaskPlan) (node : SeiNode) : SeiNode :=
  if !hasNodeUpdateCondition node then node
  else
    match plan.phase with
    | .active => node
    | .complete =>
      setNodeUpdateCondition .conditionFalse .updateComplete
        ("plan " ++ plan.id ++ " completed") node
    | .failed =>
      if startDeferred plan then
        setNodeUpdateCondition .conditionFalse .updateComplete
          ("plan " ++ plan.id ++ " completed; start deferred: " ++ failureText plan) node
      else
        setNodeUpdateCondition .conditionFalse .updateFailed
          ("plan " ++ plan.id ++ " failed: " ++ planFailureMessage plan) node

def handleTerminalPlan (node : SeiNode) : SeiNode :=
  match node.status.plan with
  | none => node
  | some plan =>
    let observed := observeTerminalUpdate plan (observeTerminalDataResetPlan plan node)
    if plan.phase = .active then observed else clearPlan observed

inductive PlanClass
  | dataReset | maintenanceHold | nodeUpdate | startup | configUpdate | markReadyReapply | unknown
deriving DecidableEq

def classifyTasks : List PlannedTask → Option PlanClass
  | [] => none
  | task :: rest =>
    match task.type with
    | .observeImage => some .nodeUpdate
    | .ensureDataPVC => some .startup
    | .restartSeid => some .configUpdate
    | _ => classifyTasks rest

def classifyPlan (plan : TaskPlan) : PlanClass :=
  if isDataResetPlan plan then .dataReset
  else if isMaintenancePlan plan && !plan.hasTask .ensureDataPVC then .maintenanceHold
  else
    match classifyTasks plan.tasks with
    | some planClass => planClass
    | none => if plan.types = [.markReady] then .markReadyReapply else .unknown

/-! ## The drift-roll budget -/

section

variable {ε : Type} (env : Env ε) (platform : Platform)

def setSidecarReady (status : ConditionStatus) (reason : SidecarReason) (message : String)
    (node : SeiNode) : SeiNode :=
  { node with status := { node.status with sidecarReady := some ⟨status, reason, message⟩ } }

def sidecarHealth (node : SeiNode) : Except String Bool → SeiNode
  | .error err => setSidecarReady .conditionUnknown .unreachable ("sidecar Healthz error: " ++ err) node
  | .ok true => setSidecarReady .conditionTrue .ready "sidecar returned 200" node
  | .ok false =>
    setSidecarReady .conditionFalse .notReady "sidecar returned 503, re-issuing mark-ready" node

/-- Probe the gate of a Running node; an unbuildable client leaves the condition. -/
def probeSidecar (ctx : Ctx ε) : Ctx ε :=
  if ctx.node.status.phase ≠ .running then ctx
  else
    match env.buildSidecarClient ctx.env ctx.node with
    | (state, some _) => { ctx with env := state }
    | (state, none) =>
      match env.healthz state with
      | (state, answer) => { ctx with env := state, node := sidecarHealth ctx.node answer }

/-- The names that come first in line for a roll slot. -/
def slotOrder (nodes : List SeiNode) : List String :=
  let active := nodes.filter fun node => node.status.phase == .running && !node.spec.paused
  let updating := active.filter hasNodeUpdateCondition
  let waiting := active.filter fun node =>
    !hasNodeUpdateCondition node && podTemplateDrifted platform node
  let sorted (nodes : List SeiNode) := (nodes.map SeiNode.name).mergeSort fun left right => left ≤ right
  sorted updating ++ sorted waiting

def slotCount (nodes : List SeiNode) : Nat :=
  let running := (nodes.filter fun node => node.status.phase == .running && !node.spec.paused).length
  max 1 (running * platform.driftUpdateBudgetPercent.toNat / 100)

/-- `none` when the node may roll now, otherwise why it waits. -/
def slotRefusal (node : SeiNode) (nodes : List SeiNode) : Option String :=
  let order := slotOrder platform nodes
  let slots := slotCount platform nodes
  let free :=
    match order.idxOf? node.name with
    | some index => decide (index < slots)
    | none => decide (order.length < slots)
  if free then none
  else
    some ("drift update waits for a roll slot in namespace " ++ node.nameSpace ++ ": "
      ++ toString slots ++ " slot(s), held by " ++ ", ".intercalate (order.take slots))

def driftSlot (ctx : Ctx ε) : Ctx ε × Except String (Option String) :=
  if platform.driftUpdateBudgetPercent ≤ 0 then (ctx, .ok none)
  else
    match env.listSeiNodes ctx.env with
    | (state, .error err) =>
      ({ ctx with env := state }, .error ("listing SeiNodes for the drift-roll budget: " ++ err))
    | (state, .ok nodes) => ({ ctx with env := state }, .ok (slotRefusal platform ctx.node nodes))

def isDriftUpdatePlan (node : SeiNode) (plan : TaskPlan) : Bool :=
  podTemplateDrifted platform node && classifyPlan plan == .nodeUpdate

def pinTo (node : SeiNode) (seidImage sidecarImage : String) : SeiNode :=
  let sidecar :=
    if sidecarImage ≠ "" then some { node.spec.sidecar.getD {} with image := sidecarImage }
    else node.spec.sidecar
  let scheduling := node.spec.scheduling
  let scheduling :=
    if node.status.currentNodeIsolation ≠ .unset then
      some { scheduling.getD ⟨.unset, ""⟩ with nodeIsolation := node.status.currentNodeIsolation }
    else
      scheduling
  let scheduling :=
    if node.status.currentImage ≠ "" ∧ node.requestedNodePool ≠ node.status.currentNodePool then
      some { scheduling.getD ⟨.unset, ""⟩ with nodePool := node.status.currentNodePool }
    else
      scheduling
  { node with spec := { node.spec with image := seidImage, sidecar, scheduling } }

/-- The node pinned to what its pod runs now: from the status, or from the live
StatefulSet for an image the status has not observed. -/
def pinnedToRunning (ctx : Ctx ε) : Ctx ε × Except String (Option SeiNode) :=
  let seidImage := ctx.node.status.currentImage
  let sidecarImage := ctx.node.status.currentSidecarImage
  if seidImage ≠ "" ∧ sidecarImage ≠ "" then
    (ctx, .ok (some (pinTo ctx.node seidImage sidecarImage)))
  else
    let pinned (seidImage sidecarImage : String) : Option SeiNode :=
      if seidImage = "" then none else some (pinTo ctx.node seidImage sidecarImage)
    match env.getStatefulSet ctx.env ctx.node with
    | (state, .error .notFound) => ({ ctx with env := state }, .ok (pinned seidImage sidecarImage))
    | (state, .error (.other err)) =>
      ({ ctx with env := state },
        .error ("reading the live StatefulSet to pin a waiting drift: " ++ err))
    | (state, .ok sts) =>
      ({ ctx with env := state },
        .ok (pinned (if seidImage = "" then sts.seidImage else seidImage)
          (if sidecarImage = "" then sts.sidecarImage else sidecarImage)))

/-- A drifted node without a roll slot renders from its running template, unless a
plan could read the template this reconcile. -/
def waitsForSlot (node : SeiNode) : Bool :=
  node.spec.nodeConfig.isSome && !node.spec.paused && node.status.phase == .running
    && !node.planActive && !hasNodeUpdateCondition node && podTemplateDrifted platform node
    && !dataResetPending node && node.spec.holdRequested == node.status.maintenanceHold

def driftRenderNode (ctx : Ctx ε) : Ctx ε × Except String SeiNode :=
  if !waitsForSlot platform ctx.node then (ctx, .ok ctx.node)
  else
    match driftSlot env platform ctx with
    | (ctx, .error err) => (ctx, .error err)
    | (ctx, .ok none) => (ctx, .ok ctx.node)
    | (ctx, .ok (some refusal)) =>
      let ctx := { ctx with
        node := setNodeUpdateCondition .conditionFalse .updateDeferred refusal ctx.node }
      match pinnedToRunning env ctx with
      | (ctx, .error err) => (ctx, .error err)
      | (ctx, .ok pinned) => (ctx, .ok (pinned.getD ctx.node))

/-! ## Resolving -/

/-- The plan becomes the node's, and a node without a phase starts initializing. -/
def storePlan (plan : TaskPlan) (ctx : Ctx ε) : Ctx ε :=
  let phase :=
    if ctx.node.status.phase = .empty ∨ ctx.node.status.phase = .pending then .initializing
    else ctx.node.status.phase
  { ctx with
    node := { ctx.node with status := { ctx.node.status with plan := some plan, phase } }
    log := .stored ctx.node plan :: ctx.log }

def mountedWriterRefusal (writer : TaskType) : String :=
  "plan carries " ++ writer.wire ++ " on a node that mounts config.toml and app.toml from ConfigMaps: "
    ++ "the task renames over the mount, which detaches it and leaves seid reading the task's file"

def admitPlan (plan : TaskPlan) (ctx : Ctx ε) : Ctx ε × Option String :=
  match mountedConfigWriterInPlan ctx.node plan with
  | some writer =>
    -- the plan is refused, so the condition must not claim an update
    let err := mountedWriterRefusal writer
    ({ ctx with node := setNodeUpdateCondition .conditionFalse .updatePlanBuildFailed err ctx.node },
      some err)
  | none =>
    if isDriftUpdatePlan platform ctx.node plan then
      match driftSlot env platform ctx with
      | (ctx, .error err) =>
        ({ ctx with node := setNodeUpdateCondition .conditionFalse .updateDeferred err ctx.node },
          some err)
      | (ctx, .ok (some refusal)) =>
        ({ ctx with node := setNodeUpdateCondition .conditionFalse .updateDeferred refusal ctx.node },
          none)
      | (ctx, .ok none) => (storePlan plan ctx, none)
    else
      (storePlan plan ctx, none)

def explainUnobservedConfig (node : SeiNode) : SeiNode :=
  if shouldExplainUnobservedConfig node then
    setNodeUpdateCondition .conditionFalse .configBaselineUnobserved
      ("configValues changes are deferred until an image update regenerates configuration and "
        ++ "establishes an observed baseline") node
  else
    node

def planNext (ctx : Ctx ε) : Ctx ε × Option String :=
  match plannerForMode ctx.node with
  | .error err => (ctx, some err)
  | .ok mode =>
    match mode.validate ctx.node with
    | .error err => (ctx, some err)
    | .ok () =>
      match env.newUUID ctx.env with
      | (state, planID) =>
        match buildPlan platform planID mode ctx.node with
        | (node, .error err) => ({ ctx with env := state, node }, some err)
        | (node, .ok none) =>
          ({ ctx with env := state, node := explainUnobservedConfig node }, none)
        | (node, .ok (some plan)) => admitPlan env platform plan { ctx with env := state, node }

def resolvePlan (ctx : Ctx ε) : Ctx ε × Option String :=
  let ctx := probeSidecar env ctx
  if ctx.node.planActive then (ctx, none)
  else
    let ctx := { ctx with node := handleTerminalPlan ctx.node }
    if stateSyncBlocksPlan ctx.node then (ctx, none)
    else if peersBlockPlan ctx.node (env.now ctx.env) then (ctx, none)
    else planNext env platform ctx

end

end SeiController
