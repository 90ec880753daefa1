import Mathlib.Logic.Relation
import SeiController.Controller.Node

/-!
# What a reconcile is made of

A reconcile is a sequence of moves, then at most one planning step, then a flush.  A
move says what it may change and under which condition; everything a move does not name
stays.  `core` is the part of a node that carries a protocol between reconciles or decides
what a plan carries; the rest are observations that any call may refresh.
-/

set_option autoImplicit false

namespace SeiController

/-! ## The core of a node -/

/-- The node without its observations. -/
def SeiNode.core (node : SeiNode) : SeiNode :=
  { node with
    status :=
      { node.status with
        currentImage := ""
        currentSidecarImage := ""
        currentNodeIsolation := .unset
        currentNodePool := ""
        resolvedPeers := []
        statefulSet := none
        nodeUpdateInProgress := none
        sidecarReady := none
        workflowInProgress := none
        dataResetInProgress := none } }

def SameCore (left right : SeiNode) : Prop :=
  left.core = right.core

namespace SameCore

variable {left right third : SeiNode}

theorem refl (node : SeiNode) : SameCore node node := rfl

theorem symm (same : SameCore left right) : SameCore right left := Eq.symm same

theorem trans (first : SameCore left right) (second : SameCore right third) :
    SameCore left third :=
  Eq.trans first second

theorem congr {α : Type} (same : SameCore left right) (read : SeiNode → α)
    (coreOnly : ∀ node : SeiNode, read node.core = read node) : read left = read right := by
  rw [← coreOnly left, ← coreOnly right, same]

theorem spec (same : SameCore left right) : left.spec = right.spec :=
  same.congr SeiNode.spec fun _ => rfl

theorem phase (same : SameCore left right) : left.status.phase = right.status.phase :=
  same.congr (fun node => node.status.phase) fun _ => rfl

theorem plan (same : SameCore left right) : left.status.plan = right.status.plan :=
  same.congr (fun node => node.status.plan) fun _ => rfl

theorem planActive (same : SameCore left right) : left.planActive = right.planActive :=
  same.congr SeiNode.planActive fun _ => rfl

theorem pointer (same : SameCore left right) :
    left.status.adoptedWorkflow = right.status.adoptedWorkflow :=
  same.congr (fun node => node.status.adoptedWorkflow) fun _ => rfl

theorem generation (same : SameCore left right) :
    left.status.dataResetGeneration = right.status.dataResetGeneration :=
  same.congr (fun node => node.status.dataResetGeneration) fun _ => rfl

theorem hold (same : SameCore left right) :
    left.status.maintenanceHold = right.status.maintenanceHold :=
  same.congr (fun node => node.status.maintenanceHold) fun _ => rfl

theorem maintenance (same : SameCore left right) :
    left.status.maintenanceInProgress = right.status.maintenanceInProgress :=
  same.congr (fun node => node.status.maintenanceInProgress) fun _ => rfl

theorem deletion (same : SameCore left right) :
    left.deletionTimestamp = right.deletionTimestamp :=
  same.congr SeiNode.deletionTimestamp fun _ => rfl

end SameCore

/-- The object as its owner wrote it. -/
def SeiNode.object (node : SeiNode) : SeiNode :=
  { node with finalizer := false, status := {} }

theorem object_congr {left right : SeiNode} {α : Type} (same : left.object = right.object)
    (read : SeiNode → α) (objectOnly : ∀ node : SeiNode, read node.object = read node) :
    read left = read right := by
  rw [← objectOnly left, ← objectOnly right, same]

/-! ## Moves -/

section

variable {ε : Type}

structure Quiet (flow next : Flow ε) : Prop where
  log : next.ctx.log = flow.ctx.log
  claims : next.ctx.claims = flow.ctx.claims
  node : SameCore flow.ctx.node next.ctx.node
  base : next.base = flow.base
  written : next.written = flow.written
  fresh : next.fresh = flow.fresh
  workflows : next.workflows = flow.workflows

theorem Quiet.refl (flow : Flow ε) : Quiet flow flow := ⟨rfl, rfl, rfl, rfl, rfl, rfl, rfl⟩

def Workflow.planPhase (workflow : Workflow) : Option TaskPlanPhase :=
  workflow.status.plan.map TaskPlan.phase

/-- Why the deletion gate of a workflow comes off. -/
def Unholds (node : SeiNode) (workflow : Workflow) : Prop :=
  workflow.status.phase = .complete ∨ workflow.planPhase = some .complete ∨
    (workflow.deletionTimestamp.isSome ∧ workflow.forceDelete = true) ∨
    node.deletionTimestamp.isSome

def Releases (workflows : List Workflow) (adopted : AdoptedWorkflowRef) : Prop :=
  (∀ workflow, workflows.find? (fun workflow => workflow.name == adopted.name) = some workflow →
      workflow.uid ≠ adopted.uid) ∨
    ∃ workflow ∈ workflows, workflow.uid = adopted.uid ∧
      (workflow.deletionTimestamp.isSome ∨ workflow.planPhase = some .complete)

/-- What names a workflow; no write changes it. -/
def Workflow.ident (workflow : Workflow) : String × String :=
  (workflow.name, workflow.uid)

def Workflow.withStatus (f : WorkflowStatus → WorkflowStatus) (workflow : Workflow) : Workflow :=
  { workflow with status := f workflow.status }

def Workflow.withFinalizer (finalizer : Bool) (workflow : Workflow) : Workflow :=
  { workflow with finalizer }

def Flow.withWorkflows (flow : Flow ε) (state : ε) (workflows : List Workflow) : Flow ε :=
  { flow with ctx := { flow.ctx with env := state }, workflows }

def Flow.afterStore (flow : Flow ε) (state : ε) : Flow ε :=
  { flow with
    ctx := { flow.ctx with env := state, log := .persisted flow.ctx.node :: flow.ctx.log }
    base := flow.ctx.node
    written := flow.ctx.node :: flow.written }

variable (env : Env ε) (platform : Platform)

inductive Move : Flow ε → Flow ε → Prop
  | quiet {flow next : Flow ε} (same : Quiet flow next) : Move flow next
  | persisted (flow : Flow ε) (state : ε) (fresh : flow.fresh = true) :
      Move flow (flow.afterStore state)
  | finalized (flow : Flow ε) : Move flow (flow.mapNode (Flow.setFinalizer true))
  | terminating (flow : Flow ε) (deleting : flow.ctx.node.deletionTimestamp.isSome) :
      Move flow (flow.mapNode (Flow.setPhase .terminating))
  | unfinalized (flow : Flow ε) (deleting : flow.ctx.node.deletionTimestamp.isSome) :
      Move flow (flow.mapNode (Flow.setFinalizer false))
  | claimed (flow : Flow ε) :
      Move flow (flow.withClaims (env.claimCall flow.ctx.env flow.ctx.claims).1
        (env.claimCall flow.ctx.env flow.ctx.claims).2.1)
  | grew (flow : Flow ε) (read : PersistentVolumeClaim) (want : Nat)
      (size : growableSize flow.ctx.node = some want) (named : read.name = dataPVCName flow.ctx.node)
      (owned : read.controlledBy flow.ctx.node = true) (larger : read.request < want) :
      Move flow (flow.withCtx { flow.ctx with
        claims := flow.ctx.claims.map fun claim => if claim = read then read.grown want else claim
        log := .claimPatched flow.ctx.node read (read.grown want) :: flow.ctx.log })
  | deletedClaim (flow : Flow ε) (claim : PersistentVolumeClaim)
      (deleting : flow.ctx.node.deletionTimestamp.isSome)
      (unimported : flow.ctx.node.importedPVCName = none)
      (found : flow.ctx.claims.find? (fun claim => claim.name == dataPVCName flow.ctx.node) =
        some claim) :
      Move flow (flow.withCtx { flow.ctx with
        claims := flow.ctx.claims.filter fun other => other ≠ claim
        log := .claimDeleted flow.ctx.node claim :: flow.ctx.log })
  | restated (flow : Flow ε) (state : ε) (uid : String) (f : WorkflowStatus → WorkflowStatus)
      (plan : ∀ status, (f status).plan = status.plan)
      (phase : ∀ status, (f status).phase = .complete → status.phase = .complete) :
      Move flow (flow.withWorkflows state (updateWorkflow uid (Workflow.withStatus f) flow.workflows))
  | held (flow : Flow ε) (state : ε) (uid : String) :
      Move flow
        (flow.withWorkflows state (updateWorkflow uid (Workflow.withFinalizer true) flow.workflows))
  | unheld (flow : Flow ε) (state : ε) (workflow : Workflow) (member : workflow ∈ flow.workflows)
      (cause : Unholds flow.ctx.node workflow) :
      Move flow (flow.withWorkflows state
        (updateWorkflow workflow.uid (Workflow.withFinalizer false) flow.workflows))
  | planned (flow : Flow ε) (state : ε) (workflow : Workflow) (plan : TaskPlan)
      (pointer : flow.ctx.node.status.adoptedWorkflow = some ⟨workflow.name, workflow.uid⟩)
      (planID : String) (node : SeiNode) (built : buildWorkflowPlan planID node workflow = .ok plan)
      (syncers : node.status.resolvedStateSyncers = flow.ctx.node.status.resolvedStateSyncers)
      (listed : workflow.spec ∈ flow.workflows.map Workflow.spec) :
      Move flow (flow.withWorkflows state
        (updateWorkflow workflow.uid
          (Workflow.withStatus fun _ =>
            { plan := some plan, phase := .running, targetFirstObservedAt := none })
          flow.workflows))
  | adopted (flow : Flow ε) (message : String) (name uid : String)
      (member : (name, uid) ∈ flow.workflows.map Workflow.ident)
      (running : flow.ctx.node.status.phase = .running)
      (unoccupied : flow.ctx.node.status.adoptedWorkflow = none)
      (idle : flow.ctx.node.status.plan = none)
      (unmounted : flow.ctx.node.mountsNodeConfig = false) :
      Move flow (flow.mapNode fun node =>
        setWorkflowInProgress .conditionTrue .workflowRunning message
          { node with status := { node.status with adoptedWorkflow := some ⟨name, uid⟩ } })
  | released (flow : Flow ε) (message : String) (adopted : AdoptedWorkflowRef)
      (pointer : flow.ctx.node.status.adoptedWorkflow = some adopted)
      (cause : Releases flow.workflows adopted) :
      Move flow (flow.mapNode (releasePointer message))
  | drove (flow : Flow ε) (workflow : Workflow) (member : workflow ∈ flow.workflows)
      (finalizer : workflow.finalizer = true) (alive : workflow.deletionTimestamp = none)
      (name : String)
      (pointer : flow.ctx.node.status.adoptedWorkflow = some ⟨name, workflow.uid⟩)
      (plan : TaskPlan) (carried : workflow.status.plan = some plan) (active : plan.phase = .active)
      (next : TaskPlan) (ctx : Ctx ε)
      (executed : executePlan env platform .workflow (.workflow workflow.uid) plan flow.ctx =
        (next, ctx))
      (state : ε) (workflows : List Workflow)
      (written : workflows = flow.workflows ∨
        workflows = updateWorkflow workflow.uid
          (Workflow.withStatus (Flow.executedStatus next)) flow.workflows) :
      Move flow ((flow.withCtx ctx).withWorkflows state workflows)

/-- The planning step of a reconcile whose node no workflow occupies. -/
inductive Ending : Flow ε → Flow ε → Prop
  | idle (flow : Flow ε) : Ending flow flow
  | cleared (flow next : Flow ε) (unoccupied : flow.ctx.node.status.adoptedWorkflow = none)
      (inactive : flow.ctx.node.planActive = false)
      (same : Quiet (flow.mapNode clearPlan) next) : Ending flow next
  | stored (flow next : Flow ε) (unpaused : flow.ctx.node.spec.paused = false)
      (unfailed : flow.ctx.node.status.phase ≠ .failed)
      (unoccupied : flow.ctx.node.status.adoptedWorkflow = none)
      (inactive : flow.ctx.node.planActive = false)
      (before after : SeiNode) (same : SameCore (clearPlan flow.ctx.node) before)
      (planID : String) (mode : ModePlanner) (plan : TaskPlan)
      (built : buildPlan platform planID mode before = (after, .ok (some plan)))
      (writable : mountedConfigWriterInPlan after plan = none)
      (state : ε)
      (is : next = flow.withCtx (storePlan plan { flow.ctx with env := state, node := after }))
      (chosen : plannerForMode before = .ok mode) (unblocked : stateSyncBlocksPlan before = false) :
      Ending flow next
  | executed (flow next : Flow ε) (probed : Flow ε) (same : Quiet flow probed)
      (unpaused : flow.ctx.node.spec.paused = false)
      (unoccupied : flow.ctx.node.status.adoptedWorkflow = none) (plan : TaskPlan)
      (carried : flow.ctx.node.status.plan = some plan) (active : plan.phase = .active)
      (is : next = probed.executeNodePlan env platform plan) : Ending flow next

abbrev Moves : Flow ε → Flow ε → Prop :=
  Relation.ReflTransGen (Move env platform)

inductive Reconciled (flow next : Flow ε) : Prop
  | outside (moves : Moves env platform flow next)
  | body (alive : flow.ctx.node.deletionTimestamp = none) (ready planned ended : Flow ε)
      (finalizer : Moves env platform flow ready)
      (unchanged : ready.ctx.node.status = flow.ctx.node.status)
      (prelude : Moves env platform (ready.resolveConditions env) planned)
      (ending : Ending env platform planned ended)
      (flush : Moves env platform ended next)

end

end SeiController
