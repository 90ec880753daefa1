import SeiController.Task.Execution

/-!
# The plan executor

`executePlan` walks a plan from its first task that is not Complete, submits and
polls, and stops at the first task that does not complete.  A task that is still
running stays Pending in the plan, so each later reconcile submits it again.  All
changes are in memory; the caller persists them.
-/

set_option autoImplicit false

namespace SeiController

/-- The kind of object whose status carries the plan. -/
inductive PlanOwner
  | seiNode | workflow
deriving DecidableEq

def needsSubmission (task : PlannedTask) : Bool :=
  task.status == .pending

def setTargetPhase (owner : PlanOwner) (phase : SeiNodePhase) (node : SeiNode) : SeiNode :=
  match owner, phase with
  | _, .empty => node
  | .workflow, _ => node
  | .seiNode, _ => { node with status := { node.status with phase } }

/-- Mark the task and the plan Failed.  `done` and `rest` are the tasks around it. -/
def failTask (owner : PlanOwner) (plan : TaskPlan) (done : List PlannedTask) (task : PlannedTask)
    (rest : List PlannedTask) (message : String) (node : SeiNode) : TaskPlan × SeiNode :=
  let tasks := done ++ { task with status := .failed, error := message } :: rest
  ({ plan with
      phase := .failed
      tasks
      failedTaskIndex := tasks.findIdx? fun other => other.id == task.id
      failedTaskDetail := some ⟨task.type, task.id, message, task.retryCount, task.maxRetries⟩ },
    setTargetPhase owner plan.failedPhase node)

/-- The plan is Complete: a node records the configuration the plan captured. -/
def completePlan (owner : PlanOwner) (plan : TaskPlan) (done : List PlannedTask) (node : SeiNode) :
    TaskPlan × SeiNode :=
  let observed :=
    if owner = .seiNode ∧ plan.configValuesHash ≠ "" then
      { node with status := { node.status with currentConfigValuesHash := plan.configValuesHash } }
    else
      node
  ({ plan with phase := .complete, tasks := done }, setTargetPhase owner plan.targetPhase observed)

def PlannedTask.stampSubmitted (task : PlannedTask) (now : Nat) : PlannedTask :=
  { task with submittedAt := some (task.submittedAt.getD now) }

def PlannedTask.retry (task : PlannedTask) : PlannedTask :=
  { task with retryCount := task.retryCount + 1, status := .pending, error := "", submittedAt := none }

section

variable {ε : Type} (env : Env ε) (platform : Platform)

/-- The status half of `advanceTask`: a failure is retried within the budget and
fails the plan beyond it. -/
def settle (exec : TaskExecution) (task : PlannedTask) :
    ExecutionStatus → PlannedTask × Option String
  | .running => (task, none)
  | .complete => ({ task with status := .complete }, none)
  | .failed =>
    if 0 < task.maxRetries ∧ task.retryCount < task.maxRetries then (task.retry, none)
    else (task, some (exec.err.getD "unknown error"))

def applyStatus (origin : Origin) (exec : TaskExecution) (task : PlannedTask) (ctx : Ctx ε) :
    PlannedTask × Ctx ε × Option String :=
  match exec.pollStatus env origin task ctx with
  | (exec, ctx, status) =>
    match settle exec task status with
    | (task, failure) => (task, ctx, failure)

/-- What follows `Execute`: a transient error leaves the task for the next
reconcile, a terminal one fails the plan. -/
def afterExecute (origin : Origin) (task : PlannedTask) :
    TaskExecution × Ctx ε × Option ExecuteError → PlannedTask × Ctx ε × Option String
  | (_, ctx, some (.terminal err)) => (task, ctx, some err)
  | (_, ctx, some (.transient _)) => (task, ctx, none)
  | (exec, ctx, none) => applyStatus env origin exec (task.stampSubmitted (env.now ctx.env)) ctx

/-- Drive one task a step: submit if pending, then check its status.  The last
component is the message the plan fails with. -/
def advanceTask (origin : Origin) (task : PlannedTask) (ctx : Ctx ε) :
    PlannedTask × Ctx ε × Option String :=
  match deserialize task with
  | .error err => (task, ctx, some err)
  | .ok exec =>
    if needsSubmission task then
      afterExecute env origin task (exec.execute env platform origin task ctx)
    else
      applyStatus env origin exec task ctx

/-- The loop of `executePlan`.  `CurrentTask` skips Complete tasks and an iteration
goes on only when its task has completed, so the loop passes over the list once:
`done` is what it has passed. -/
def executeTasks (owner : PlanOwner) (origin : TaskPlan → Origin) (plan : TaskPlan)
    (done : List PlannedTask) : List PlannedTask → Ctx ε → TaskPlan × Ctx ε
  | [], ctx =>
    match completePlan owner plan done ctx.node with
    | (plan, node) => (plan, { ctx with node })
  | task :: rest, ctx =>
    if task.status = .complete then
      executeTasks owner origin plan (done ++ [task]) rest ctx
    else
      match advanceTask env platform (origin { plan with tasks := done ++ task :: rest }) task ctx with
      | (task, ctx, some message) =>
        match failTask owner plan done task rest message ctx.node with
        | (plan, node) => (plan, { ctx with node })
      | (task, ctx, none) =>
        if task.status = .complete then
          executeTasks owner origin plan (done ++ [task]) rest ctx
        else
          ({ plan with tasks := done ++ task :: rest }, ctx)

def executePlan (owner : PlanOwner) (origin : TaskPlan → Origin) (plan : TaskPlan) (ctx : Ctx ε) :
    TaskPlan × Ctx ε :=
  match plan.phase with
  | .complete | .failed => (plan, ctx)
  | .active => executeTasks env platform owner origin plan [] plan.tasks ctx

end

end SeiController
