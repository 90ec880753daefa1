import SeiController.Controller.Flow
import SeiController.Planner.Executor
import SeiController.Planner.Workflow

/-!
# The workflow half of a node reconcile

Adopting, driving, finalizing and releasing a workflow aimed at the node.  A workflow's
conditions and the requeue delays are left out: no modelled function reads them.
-/

set_option autoImplicit false

namespace SeiController

/-- In seconds. -/
def defaultWorkflowRequirePhaseTimeout : Nat := 300

structure WorkflowResult where
  /-- A workflow occupies the node: no drift planning. -/
  suppress : Bool
  /-- The reconcile ends here. -/
  handled : Bool
  err : Option String

namespace WorkflowResult

def resume : WorkflowResult := ⟨false, false, none⟩

def occupied : WorkflowResult := ⟨true, false, none⟩

def adopted : WorkflowResult := ⟨true, true, none⟩

end WorkflowResult

def setWorkflowInProgress (status : ConditionStatus) (reason : WorkflowReason) (message : String)
    (node : SeiNode) : SeiNode :=
  { node with status := { node.status with workflowInProgress := some ⟨status, reason, message⟩ } }

def seedWorkflowInProgress (node : SeiNode) : SeiNode :=
  if node.status.workflowInProgress.isNone then
    setWorkflowInProgress .conditionFalse .noWorkflow "no workflow adopted" node
  else
    node

def adoptedWorkflowParkedFailed (node : SeiNode) : Bool :=
  match node.status.workflowInProgress with
  | some { status := .conditionTrue, reason := .workflowFailedHeld, .. } => true
  | _ => false

def releasePointer (message : String) (node : SeiNode) : SeiNode :=
  setWorkflowInProgress .conditionFalse .noWorkflow message
    { node with status := { node.status with adoptedWorkflow := none } }

def ineligibleWorkflowRole (node : SeiNode) : Option String :=
  if node.spec.fullNode.isSome then none
  else if node.spec.validator.isSome then some "validator"
  else if node.spec.archive.isSome then some "archive"
  else if node.spec.replayer.isSome then some "replayer"
  else if node.spec.seed.isSome then some "seed"
  else some "non-full"

def updateWorkflow (uid : String) (f : Workflow → Workflow) (workflows : List Workflow) :
    List Workflow :=
  workflows.map fun workflow => if workflow.uid = uid then f workflow else workflow

/-- Non-terminal workflows that are not being deleted, oldest first. -/
def pendingWorkflows (workflows : List Workflow) : List Workflow :=
  (workflows.filter fun workflow =>
    workflow.deletionTimestamp.isNone && workflow.status.phase ≠ .complete
      && workflow.status.phase ≠ .failed).mergeSort fun left right =>
    if left.creationTimestamp = right.creationTimestamp then left.name ≤ right.name
    else left.creationTimestamp < right.creationTimestamp

/-- The workflow has waited for the node's phase for longer than it may. -/
def requirePhaseExpired (workflow : Workflow) (now : Nat) : Bool :=
  match workflow.status.targetFirstObservedAt with
  | some since =>
    decide (since + workflow.spec.requirePhaseTimeout.getD defaultWorkflowRequirePhaseTimeout < now)
  | none => false

section

variable {ε : Type} (env : Env ε) (platform : Platform)

namespace Flow

/-- Change a workflow's status under its own lock; an unchanged status is not written. -/
def patchWorkflowStatus (workflow : Workflow) (f : WorkflowStatus → WorkflowStatus) (flow : Flow ε) :
    Flow ε × Option String :=
  if f workflow.status = workflow.status then (flow, none)
  else
    match env.write flow.ctx.env with
    | (state, some err) =>
      ({ flow with ctx := { flow.ctx with env := state } }, some ("patching workflow status: " ++ err))
    | (state, none) =>
      ({ flow with
          ctx := { flow.ctx with env := state }
          workflows := updateWorkflow workflow.uid
            (fun stored => { stored with status := f stored.status }) flow.workflows }, none)

def patchWorkflowFinalizer (workflow : Workflow) (add : Bool) (flow : Flow ε) :
    Flow ε × Option String :=
  if workflow.finalizer = add then (flow, none)
  else
    match env.write flow.ctx.env with
    | (state, some err) =>
      ({ flow with ctx := { flow.ctx with env := state } },
        some ("patching workflow finalizer (add=" ++ toString add ++ "): " ++ err))
    | (state, none) =>
      ({ flow with
          ctx := { flow.ctx with env := state }
          workflows := updateWorkflow workflow.uid
            (fun stored => { stored with finalizer := add }) flow.workflows }, none)

/-- Mark a workflow Failed; a failed write is only logged by the source. -/
def failWorkflow (workflow : Workflow) (flow : Flow ε) : Flow ε :=
  if workflow.status.phase = .failed then flow
  else (flow.patchWorkflowStatus env workflow fun status => { status with phase := .failed }).1

def seedWorkflowAdoption (workflow : Workflow) (flow : Flow ε) : Flow ε :=
  (flow.patchWorkflowStatus env workflow fun status =>
    { status with phase := if status.phase = .empty then .pending else status.phase }).1

def persistWorkflowPlan (workflow : Workflow) (plan : TaskPlan) (flow : Flow ε) :
    Flow ε × Option String :=
  flow.patchWorkflowStatus env workflow fun _ =>
    { plan := some plan, phase := .running, targetFirstObservedAt := none }

/-- Strip the finalizer from the given workflows; the first failure ends the pass. -/
def stripFinalizers : List Workflow → Flow ε → Flow ε × Option String
  | [], flow => (flow, none)
  | workflow :: rest, flow =>
    match flow.patchWorkflowFinalizer env workflow false with
    | (flow, some err) => (flow, some err)
    | (flow, none) => stripFinalizers rest flow

def readWorkflows (flow : Flow ε) : Flow ε × Option String :=
  match env.read flow.ctx.env with
  | (state, err) => ({ flow with ctx := { flow.ctx with env := state } }, err)

def reapCompletedWorkflowFinalizers (flow : Flow ε) : Flow ε × Option String :=
  match flow.readWorkflows env with
  | (flow, some err) => (flow, some err)
  | (flow, none) =>
    flow.stripFinalizers env (flow.workflows.filter fun workflow => workflow.status.phase == .complete)

def releaseWorkflowFinalizersForNode (flow : Flow ε) : Flow ε × Option String :=
  match flow.readWorkflows env with
  | (flow, some err) => (flow, some err)
  | (flow, none) => flow.stripFinalizers env flow.workflows

/-- The workflow waits for the node's phase, or has waited too long; `true` when the
node must not adopt it now. -/
def gateOnRequirePhase (workflow : Workflow) (flow : Flow ε) : Flow ε × Bool :=
  let requirePhase := if workflow.spec.requirePhase = .empty then .running else workflow.spec.requirePhase
  if flow.ctx.node.status.phase = requirePhase then
    ((flow.patchWorkflowStatus env workflow fun status =>
      { status with targetFirstObservedAt := none }).1, false)
  else
    let now := env.now flow.ctx.env
    if requirePhaseExpired workflow now then (flow.failWorkflow env workflow, true)
    else
      ((flow.patchWorkflowStatus env workflow fun status =>
        { status with
          targetFirstObservedAt := some (status.targetFirstObservedAt.getD now)
          phase := if status.phase = .empty then .pending else status.phase }).1, true)

/-- Stamp the pointer first, then the deletion gate, then the plan. -/
def commitAdoption (workflow : Workflow) (plan : TaskPlan) (flow : Flow ε) : Flow ε × WorkflowResult :=
  let flow := flow.mapNode fun node =>
    setWorkflowInProgress .conditionTrue .workflowRunning ("adopted workflow " ++ workflow.name)
      { node with status := { node.status with adoptedWorkflow := some ⟨workflow.name, workflow.uid⟩ } }
  match flow.flushStatus env with
  | (flow, some err) => (flow, ⟨false, false, some ("committing adoption pointer: " ++ err)⟩)
  | (flow, none) =>
    match flow.patchWorkflowFinalizer env workflow true with
    | (flow, some err) => (flow, ⟨true, false, some err⟩)
    | (flow, none) =>
      match flow.persistWorkflowPlan env workflow plan with
      | (flow, some err) => (flow, ⟨true, false, some err⟩)
      | (flow, none) => (flow, .adopted)

/-- Adopt the oldest candidate, if the node is idle and the recipe compiles. -/
def adoptWinner (winner : Workflow) (flow : Flow ε) : Flow ε × WorkflowResult :=
  if flow.ctx.node.spec.paused then (flow.seedWorkflowAdoption env winner, .resume)
  else if flow.ctx.node.status.plan.isSome then (flow.seedWorkflowAdoption env winner, .resume)
  else
    match flow.gateOnRequirePhase env winner with
    | (flow, true) => (flow, .resume)
    | (flow, false) =>
      match env.newUUID flow.ctx.env with
      | (state, planID) =>
        let flow := flow.withCtx { flow.ctx with env := state }
        match buildWorkflowPlan planID flow.ctx.node winner with
        | .error _ => (flow.failWorkflow env winner, .resume)
        | .ok plan => flow.commitAdoption env winner plan

def maybeAdoptWorkflow (flow : Flow ε) : Flow ε × WorkflowResult :=
  match flow.reapCompletedWorkflowFinalizers env with
  | (flow, some err) => (flow, ⟨false, false, some err⟩)
  | (flow, none) =>
    match flow.readWorkflows env with
    | (flow, some err) => (flow, ⟨false, false, some err⟩)
    | (flow, none) =>
      match pendingWorkflows flow.workflows with
      | [] => (flow, .resume)
      | winner :: losers =>
        if (ineligibleWorkflowRole flow.ctx.node).isSome || flow.ctx.node.mountsNodeConfig then
          ((winner :: losers).foldl (fun flow workflow => flow.failWorkflow env workflow) flow,
            .resume)
        else
          (losers.foldl (fun flow workflow => flow.seedWorkflowAdoption env workflow) flow).adoptWinner
            env winner

/-! ## Driving -/

/-- Lift the hold of a workflow under deletion: only when forced, because the data
directory cannot be verified. -/
def finalizeWorkflow (workflow : Workflow) (flow : Flow ε) : Flow ε × WorkflowResult :=
  if !workflow.finalizer then
    (flow.mapNode (releasePointer "adopted workflow deleted"), .resume)
  else if !workflow.forceDelete then
    (flow.mapNode (setWorkflowInProgress .conditionTrue .workflowFailedHeld
      "deletion held: data-state verification unavailable"), .occupied)
  else
    match flow.patchWorkflowFinalizer env workflow false with
    | (flow, some err) => (flow, ⟨true, false, some err⟩)
    | (flow, none) => (flow.mapNode (releasePointer "workflow deleted; hold released"), .resume)

def releaseCompletedWorkflow (workflow : Workflow) (flow : Flow ε) : Flow ε × WorkflowResult :=
  match flow.patchWorkflowFinalizer env workflow false with
  | (flow, some err) => (flow, ⟨true, false, some err⟩)
  | (flow, none) => (flow.mapNode (releasePointer "workflow completed"), .resume)

def parkFailed (flow : Flow ε) : Flow ε :=
  flow.mapNode (setWorkflowInProgress .conditionTrue .workflowFailedHeld
    "workflow failed; node held pending re-run or deletion")

def executedStatus (plan : TaskPlan) (status : WorkflowStatus) : WorkflowStatus :=
  { status with
    plan := some plan
    phase :=
      match plan.phase with
      | .complete => .complete
      | .failed => .failed
      | .active => if status.phase = .empty ∨ status.phase = .pending then .running else status.phase }

def executeWorkflow (workflow : Workflow) (plan : TaskPlan) (flow : Flow ε) :
    Flow ε × WorkflowResult :=
  match executePlan env platform .workflow (.workflow workflow.uid) plan flow.ctx with
  | (plan, ctx) =>
    match (flow.withCtx ctx).patchWorkflowStatus env workflow (executedStatus plan) with
    | (flow, some err) => (flow, ⟨true, false, some err⟩)
    | (flow, none) =>
      match plan.phase with
      | .complete => flow.releaseCompletedWorkflow env workflow
      | .failed => (flow.parkFailed, .occupied)
      | .active => (flow, .occupied)

def driveWorkflow (workflow : Workflow) (flow : Flow ε) : Flow ε × WorkflowResult :=
  match workflow.status.plan with
  | some { phase := .complete, .. } => flow.releaseCompletedWorkflow env workflow
  | some { phase := .failed, .. } => (flow.parkFailed, .occupied)
  | plan =>
    let flow := flow.mapNode (setWorkflowInProgress .conditionTrue .workflowRunning
      ("driving workflow " ++ workflow.name))
    match flow.patchWorkflowFinalizer env workflow true with
    | (flow, some err) => (flow, ⟨true, false, some err⟩)
    | (flow, none) =>
      let workflow := { workflow with finalizer := true }
      match plan with
      | some plan => flow.executeWorkflow env platform workflow plan
      | none =>
        -- adoption was interrupted before the plan was stored
        match env.newUUID flow.ctx.env with
        | (state, planID) =>
          let flow := flow.withCtx { flow.ctx with env := state }
          match buildWorkflowPlan planID flow.ctx.node workflow with
          | .error _ => (flow.failWorkflow env workflow, .occupied)
          | .ok plan =>
            match flow.persistWorkflowPlan env workflow plan with
            | (flow, err) => (flow, ⟨true, false, err⟩)

def driveAdoptedWorkflow (adopted : AdoptedWorkflowRef) (flow : Flow ε) : Flow ε × WorkflowResult :=
  match flow.readWorkflows env with
  | (flow, some err) => (flow, ⟨true, false, some err⟩)
  | (flow, none) =>
    match flow.workflows.find? fun workflow => workflow.name == adopted.name with
    | none => (flow.mapNode (releasePointer "adopted workflow no longer present"), .resume)
    | some workflow =>
      if workflow.uid ≠ adopted.uid then
        (flow.mapNode (releasePointer "adopted workflow no longer present"), .resume)
      else if workflow.deletionTimestamp.isSome then flow.finalizeWorkflow env workflow
      else flow.driveWorkflow env platform workflow

def reconcileWorkflow (flow : Flow ε) : Flow ε × WorkflowResult :=
  match flow.ctx.node.status.adoptedWorkflow with
  | some adopted => flow.driveAdoptedWorkflow env platform adopted
  | none =>
    if flow.ctx.node.status.phase ≠ .running then (flow, .resume)
    else (flow.mapNode seedWorkflowInProgress).maybeAdoptWorkflow env

end Flow

end

end SeiController
