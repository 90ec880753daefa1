import SeiController.Controller.Workflow
import SeiController.Planner.Resolve

/-!
# One reconcile of a SeiNode

`reconcile` follows `SeiNodeReconciler.Reconcile` call by call.  Conditions that no
modelled function reads (Paused, PeersReady, DataVolumeResizeInProgress,
VolumeAttributesClassReady, EvmServing), the endpoint, the committed height, events,
metrics and requeue delays are left out.
-/

set_option autoImplicit false

namespace SeiController

/-! ## The state-sync gate -/

def minCanonicalSyncers : Nat := 2

def setStateSyncReady (status : ConditionStatus) (reason : StateSyncReason) (message : String)
    (node : SeiNode) : SeiNode :=
  { node with status := { node.status with stateSyncReady := some ⟨status, reason, message⟩ } }

def setResolvedStateSyncers (syncers : List String) (node : SeiNode) : SeiNode :=
  { node with status := { node.status with resolvedStateSyncers := syncers } }

/-- `slices.Compact(slices.Sorted(…))`. -/
def sortedUnique (texts : List String) : List String :=
  (texts.mergeSort fun left right => left ≤ right).eraseReps

def syncersFromRegistry (node : SeiNode) : Except String (List String) → SeiNode
  | .error err =>
    setStateSyncReady .conditionUnknown .syncerSourceError
      ("reading canonical-syncer source for chain \"" ++ node.spec.chainID ++ "\": " ++ err)
      (setResolvedStateSyncers [] node)
  | .ok syncers =>
    if syncers.length < minCanonicalSyncers then
      setStateSyncReady .conditionFalse .noSyncersConfigured
        ("state sync requires >=" ++ toString minCanonicalSyncers
          ++ " canonical syncers configured for chain \"" ++ node.spec.chainID ++ "\"; found "
          ++ toString syncers.length
          ++ " — register syncers for the chain in the controller config, or declare >="
          ++ toString minCanonicalSyncers ++ " spec.fullNode.snapshot.rpcServers on the SeiNode")
        (setResolvedStateSyncers [] node)
    else
      setStateSyncReady .conditionTrue .ready
        (toString syncers.length ++ " canonical syncers configured for chain \""
          ++ node.spec.chainID ++ "\"")
        (setResolvedStateSyncers syncers node)

/-! ## The data volume -/

/-- The size the owned claim must reach; none when the node cannot grow it. -/
def growableSize (node : SeiNode) : Option Nat :=
  if node.importedPVCName.isSome then none
  else if node.spec.nodeConfig.isNone then none
  else node.spec.dataVolume.bind DataVolumeSpec.storageRequest

def PersistentVolumeClaim.grown (claim : PersistentVolumeClaim) (want : Nat) :
    PersistentVolumeClaim :=
  { claim with request := want, resourceVersion := claim.resourceVersion + 1 }

section

variable {ε : Type} (env : Env ε) (platform : Platform)

namespace Flow

def withClaims (flow : Flow ε) (state : ε) (claims : List PersistentVolumeClaim) : Flow ε :=
  flow.withCtx { flow.ctx with env := state, claims }

/-- Never lowers a request, and only touches a bound claim the node controls.  The
patch carries the version that was read, so it is lost when the claim has changed. -/
def growDataPVC (flow : Flow ε) : Flow ε :=
  match growableSize flow.ctx.node with
  | none => flow
  | some want =>
    match env.claimCall flow.ctx.env flow.ctx.claims with
    | (state, claims, some _) => flow.withClaims state claims
    | (state, claims, none) =>
      match claims.find? fun claim => claim.name == dataPVCName flow.ctx.node with
      | none => flow.withClaims state claims
      | some read =>
        if !read.controlledBy flow.ctx.node || !read.bound || decide (want ≤ read.request) then
          flow.withClaims state claims
        else
          match env.claimCall state claims with
          | (state, claims, some _) => flow.withClaims state claims
          | (state, claims, none) =>
            if read ∈ claims then
              let grown := read.grown want
              flow.withCtx { flow.ctx with
                env := state
                claims := claims.map fun claim => if claim = read then grown else claim
                log := .claimPatched flow.ctx.node read grown :: flow.ctx.log }
            else
              flow.withClaims state claims

/-- `Get`, then `Delete` by name: whatever claim is stored under the name by then. -/
def deleteNodeDataPVC (flow : Flow ε) : Flow ε × Option String :=
  if flow.ctx.node.importedPVCName.isSome then (flow, none)
  else
    match env.claimCall flow.ctx.env flow.ctx.claims with
    | (state, claims, some err) => (flow.withClaims state claims, some err)
    | (state, claims, none) =>
      if !claims.any fun claim => claim.name == dataPVCName flow.ctx.node then
        (flow.withClaims state claims, none)
      else
        match env.claimCall state claims with
        | (state, claims, some err) => (flow.withClaims state claims, some err)
        | (state, claims, none) =>
          match claims.find? fun claim => claim.name == dataPVCName flow.ctx.node with
          | none => (flow.withClaims state claims, some "not found")
          | some claim =>
            (flow.withCtx { flow.ctx with
              env := state
              claims := claims.filter fun other => other ≠ claim
              log := .claimDeleted flow.ctx.node claim :: flow.ctx.log }, none)

/-! ## Deletion -/

def setPhase (phase : SeiNodePhase) (node : SeiNode) : SeiNode :=
  { node with status := { node.status with phase } }

def setFinalizer (finalizer : Bool) (node : SeiNode) : SeiNode :=
  { node with finalizer }

def handleNodeDeletion (flow : Flow ε) : Flow ε × Option String :=
  if !flow.ctx.node.finalizer then (flow, none)
  else
    match (flow.mapNode (setPhase .terminating)).store env with
    | (flow, some err) => (flow, some ("setting terminating status: " ++ err))
    | (flow, none) =>
      match flow.deleteNodeDataPVC env with
      | (flow, some err) => (flow, some ("deleting data PVC: " ++ err))
      | (flow, none) =>
        match flow.releaseWorkflowFinalizersForNode env with
        | (flow, some err) => (flow, some ("releasing workflow finalizers: " ++ err))
        | (flow, none) => (flow.mapNode (setFinalizer false)).store env

def ensureNodeFinalizer (flow : Flow ε) : Flow ε × Option String :=
  if flow.ctx.node.finalizer then (flow, none)
  else (flow.mapNode (setFinalizer true)).store env

/-! ## The stages of a reconcile -/

/-- Witnesses declared on the spec replace the registry. -/
def reconcileStateSyncGate (flow : Flow ε) : Flow ε :=
  match flow.ctx.node.spec.snapshotSource with
  | none =>
    flow.mapNode fun node =>
      setStateSyncReady .conditionFalse .notApplicable "node does not bootstrap from a snapshot"
        (setResolvedStateSyncers [] node)
  | some snap =>
    let specSyncers := sortedUnique snap.rpcServers
    if minCanonicalSyncers ≤ specSyncers.length then
      flow.mapNode fun node =>
        setStateSyncReady .conditionTrue .ready
          (toString specSyncers.length ++ " rpc-servers declared on spec for chain \""
            ++ node.spec.chainID ++ "\"")
          (setResolvedStateSyncers specSyncers node)
    else
      match env.canonicalSyncers flow.ctx.env with
      | (state, answer) =>
        (flow.withCtx { flow.ctx with env := state }).mapNode fun node =>
          syncersFromRegistry node answer

def resolveConditions (flow : Flow ε) : Flow ε :=
  (flow.reconcileStateSyncGate env).mapNode fun node => resolveMaintenance (resolveDataReset node)

/-- The first StatefulSet waits for the gates of the startup plan. -/
def holdInitialSTS (node : SeiNode) (now : Nat) : Bool :=
  (stateSyncBlocksPlan node || peersBlockPlan node now) && node.status.statefulSet.isNone

def holdForWorkflow (node : SeiNode) : Bool :=
  node.status.adoptedWorkflow.isSome && !adoptedWorkflowParkedFailed node

def setStatefulSet (name : Option String) (node : SeiNode) : SeiNode :=
  { node with status := { node.status with statefulSet := name } }

def applyStatefulSet (flow : Flow ε) : Flow ε × Option String :=
  let hold := holdInitialSTS flow.ctx.node (env.now flow.ctx.env) || holdForWorkflow flow.ctx.node
  match driftRenderNode env platform flow.ctx with
  | (ctx, .error err) => (flow.withCtx ctx, some ("checking the drift-roll budget: " ++ err))
  | (ctx, .ok renderNode) =>
    let flow := flow.withCtx ctx
    if hold then (flow, none)
    else
      match env.reconcileStatefulSet flow.ctx.env renderNode with
      | (state, .error err) =>
        (flow.withCtx { flow.ctx with env := state }, some ("reconciling statefulset: " ++ err))
      | (state, .ok name) =>
        ((flow.withCtx { flow.ctx with env := state }).mapNode (setStatefulSet name), none)

def setResolvedPeers (peers : List String) (node : SeiNode) : SeiNode :=
  { node with status := { node.status with resolvedPeers := peers } }

def reconcilePeers (flow : Flow ε) : Flow ε × Option String :=
  match env.resolvePeers flow.ctx.env flow.ctx.node with
  | (state, .error err) =>
    (flow.withCtx { flow.ctx with env := state }, some ("resolving peers: " ++ err))
  | (state, .ok peers) =>
    ((flow.withCtx { flow.ctx with env := state }).mapNode (setResolvedPeers peers), none)

def setCurrentNodeIsolation (isolation : NodeIsolation) (node : SeiNode) : SeiNode :=
  { node with status := { node.status with currentNodeIsolation := isolation } }

def backfillNodeIsolation (flow : Flow ε) : Flow ε × Option String :=
  let node := flow.ctx.node
  if node.status.phase ≠ .running ∨ node.status.currentNodeIsolation ≠ .unset
      ∨ node.status.statefulSet.isNone ∨ node.planActive then
    (flow, none)
  else
    match env.podNodeIsolation flow.ctx.env flow.ctx.node with
    | (state, .error err) => (flow.withCtx { flow.ctx with env := state }, some err)
    | (state, .ok isolation) =>
      ((flow.withCtx { flow.ctx with env := state }).mapNode (setCurrentNodeIsolation isolation),
        none)

def setPlan (plan : TaskPlan) (node : SeiNode) : SeiNode :=
  { node with status := { node.status with plan := some plan } }

def executeNodePlan (plan : TaskPlan) (flow : Flow ε) : Flow ε :=
  match executePlan env platform .seiNode .nodePlan plan flow.ctx with
  | (plan, ctx) => (flow.withCtx ctx).mapNode (setPlan plan)

/-- Resolve the plan, then drive it, unless it was only stored by this reconcile. -/
def resolveDriftPlan (flow : Flow ε) : Flow ε × Option String :=
  let planAlreadyActive := flow.ctx.node.planActive
  match resolvePlan env platform flow.ctx with
  | (ctx, some err) => (flow.withCtx ctx, some ("resolving plan: " ++ err))
  | (ctx, none) =>
    let flow := flow.withCtx ctx
    match ctx.node.status.plan with
    | none => (flow, none)
    | some plan =>
      if planAlreadyActive ∧ plan.phase = .active then
        (flow.executeNodePlan env platform plan, none)
      else
        (flow, none)

def flushAs (context : String) (flow : Flow ε) : Flow ε × Option String :=
  match flow.flushStatus env with
  | (flow, some err) => (flow, some (context ++ err))
  | (flow, none) => (flow, none)

def reconcileDrift (flow : Flow ε) : Flow ε × Option String :=
  match flow.backfillNodeIsolation env with
  | (flow, some err) => (flow, some ("backfilling node isolation: " ++ err))
  | (flow, none) =>
    match flow.resolveDriftPlan env platform with
    | (flow, some err) => (flow, some err)
    | (flow, none) => flow.flushAs env "flushing status: "

def reconcileActive (flow : Flow ε) : Flow ε × Option String :=
  match (flow.growDataPVC env).reconcilePeers env with
  | (flow, some err) => (flow, some ("reconciling peers: " ++ err))
  | (flow, none) =>
    match flow.reconcileWorkflow env platform with
    | (flow, ⟨_, _, some err⟩) => (flow, some ("reconciling workflow: " ++ err))
    | (flow, ⟨_, true, none⟩) => (flow, none)
    | (flow, ⟨true, false, none⟩) => flow.flushAs env "flushing status: "
    | (flow, ⟨false, false, none⟩) => flow.reconcileDrift env platform

def reconcileBody (flow : Flow ε) : Flow ε × Option String :=
  let flow := flow.resolveConditions env
  if flow.ctx.node.status.phase = .failed then flow.flushAs env "flushing status on Failed: "
  else
    match flow.applyStatefulSet env platform with
    | (flow, some err) => (flow, some err)
    | (flow, none) =>
      if flow.ctx.node.spec.paused then flow.flushAs env "flushing paused status: "
      else flow.reconcileActive env platform

def reconcile (flow : Flow ε) : Flow ε × Option String :=
  if flow.ctx.node.deletionTimestamp.isSome then flow.handleNodeDeletion env
  else
    match flow.ensureNodeFinalizer env with
    | (flow, some err) => (flow, some err)
    | (flow, none) => flushOnExit env (flow.reconcileBody env platform)

end Flow

end

end SeiController
