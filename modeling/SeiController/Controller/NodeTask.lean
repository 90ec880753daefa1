import SeiController.Planner.Build
import SeiController.Planner.Executor

/-!
# One reconcile of a SeiNodeTask

A SeiNodeTask is one synthesized task that is driven against its target node, through
the same executions as a planned task but without the plan executor.  Conditions other
than Failed, the outputs and the phase times are left out.
-/

set_option autoImplicit false

namespace SeiController

inductive SeiNodeTaskKind
  | updateNodeImage | govVote | govSoftwareUpgrade | govParamChange | govUpdateInstantiateConfig
  | awaitCondition | awaitNodesAtHeight | restartSeid | markReady | unjail
  | unknown (name : String)
deriving DecidableEq

def SeiNodeTaskKind.text : SeiNodeTaskKind → String
  | updateNodeImage => "UpdateNodeImage"
  | govVote => "GovVote"
  | govSoftwareUpgrade => "GovSoftwareUpgrade"
  | govParamChange => "GovParamChange"
  | govUpdateInstantiateConfig => "GovUpdateInstantiateConfig"
  | awaitCondition => "AwaitCondition"
  | awaitNodesAtHeight => "AwaitNodesAtHeight"
  | restartSeid => "RestartSeid"
  | markReady => "MarkReady"
  | unjail => "Unjail"
  | unknown name => name

def SeiNodeTaskKind.field : SeiNodeTaskKind → String
  | updateNodeImage => "updateNodeImage"
  | govVote => "govVote"
  | govSoftwareUpgrade => "govSoftwareUpgrade"
  | govParamChange => "govParamChange"
  | govUpdateInstantiateConfig => "govUpdateInstantiateConfig"
  | awaitCondition => "awaitCondition"
  | awaitNodesAtHeight => "awaitNodesAtHeight"
  | restartSeid => "restartSeid"
  | markReady => "markReady"
  | unjail => "unjail"
  | unknown name => name

inductive SeiNodeTaskPhase
  | empty | pending | running | complete | failed
deriving DecidableEq

structure SeiNodeTaskExecution where
  id : TaskID
  status : TaskStatus
  executionStartedAt : Option Nat
  submittedAt : Option Nat
  err : String
deriving DecidableEq

structure AwaitConditionPayload where
  height : Option Int
  action : String
deriving DecidableEq

/-- The payloads are the spec's, one per kind; in those that sign, the key name may be left
to the controller. -/
structure SeiNodeTask where
  name : String
  nameSpace : String
  uid : String
  kind : SeiNodeTaskKind
  /-- `spec.target.nodeRef.name`. -/
  nodeRef : String
  updateNodeImage : Option String := none
  govVote : Option GovVoteTask := none
  govSoftwareUpgrade : Option GovSoftwareUpgradeTask := none
  govParamChange : Option GovParamChangeTask := none
  govUpdateInstantiateConfig : Option GovUpdateInstantiateConfigTask := none
  awaitCondition : Option AwaitConditionPayload := none
  awaitNodesAtHeight : Option Int := none
  restartSeid : Bool := false
  markReady : Bool := false
  unjail : Option UnjailTask := none
  requirePhase : SeiNodePhase
  requirePhaseTimeout : Option Nat
  timeoutSeconds : Nat
  phase : SeiNodeTaskPhase
  startedAt : Option Nat
  targetFirstObservedAt : Option Nat
  task : Option SeiNodeTaskExecution
  /-- Reason and message of the Failed condition. -/
  failed : Option (String × String)
deriving DecidableEq

namespace SeiNodeTask

/-- In seconds. -/
def defaultRequirePhaseTimeout : Nat := 300

def defaultRestartSeidTimeout : Nat := 600

def defaultMarkReadyTimeout : Nat := 120

/-- A `time.Duration` of whole seconds. -/
def durationText (seconds : Nat) : String :=
  let minutes := seconds / 60
  (if 60 ≤ minutes then toString (minutes / 60) ++ "h" else "")
    ++ (if 60 ≤ seconds then toString (minutes % 60) ++ "m" else "")
    ++ toString (seconds % 60) ++ "s"

def markFailed (reason message : String) (cr : SeiNodeTask) : SeiNodeTask :=
  { cr with phase := .failed, failed := some (reason, message) }

def taskType : SeiNodeTaskKind → Option TaskType
  | .updateNodeImage => some .updateNodeImage
  | .govVote => some .govVote
  | .govSoftwareUpgrade => some .govSoftwareUpgrade
  | .govParamChange => some .govParamChange
  | .govUpdateInstantiateConfig => some .govUpdateInstantiateConfig
  | .awaitCondition | .awaitNodesAtHeight => some .awaitCondition
  | .restartSeid => some .restartSeid
  | .markReady => some .markReady
  | .unjail => some .unjail
  | .unknown _ => none

def isSignTxKind : SeiNodeTaskKind → Bool
  | .govVote | .govSoftwareUpgrade | .govParamChange | .govUpdateInstantiateConfig | .unjail => true
  | _ => false

def gentxOperatorKeyName : String := "validator"

def resolveOperatorKeyringUID (node : SeiNode) : String :=
  match node.spec.validator with
  | some { operatorKeyring := some { secret := some secret }, .. } =>
    if secret.keyName = "" then defaultOperatorKeyName else secret.keyName
  | _ => gentxOperatorKeyName

def resolveSigningUID (explicit : String) (target : Option SeiNode) : String :=
  if explicit ≠ "" then explicit else (target.map resolveOperatorKeyringUID).getD ""

def payloadFor (cr : SeiNodeTask) (target : Option SeiNode) : Option TaskParams :=
  match cr.kind with
  | .updateNodeImage =>
    cr.updateNodeImage.map fun image => .updateNodeImage ⟨cr.nodeRef, cr.nameSpace, image⟩
  | .govVote => cr.govVote.map fun p =>
    .govVote { p with keyName := resolveSigningUID p.keyName target }
  | .govSoftwareUpgrade => cr.govSoftwareUpgrade.map fun p =>
    .govSoftwareUpgrade { p with keyName := resolveSigningUID p.keyName target }
  | .govParamChange => cr.govParamChange.map fun p =>
    .govParamChange { p with keyName := resolveSigningUID p.keyName target }
  | .govUpdateInstantiateConfig => cr.govUpdateInstantiateConfig.map fun p =>
    .govUpdateInstantiateConfig { p with keyName := resolveSigningUID p.keyName target }
  | .awaitCondition =>
    cr.awaitCondition.map fun p => .awaitCondition ⟨"height", p.height.getD 0, p.action⟩
  | .awaitNodesAtHeight =>
    cr.awaitNodesAtHeight.map fun height => .awaitCondition ⟨"height", height, ""⟩
  | .restartSeid =>
    if cr.restartSeid then
      some ((target.map fun node => .upCheck (upCheckForNode node)).getD .empty)
    else none
  | .markReady => if cr.markReady then some .empty else none
  | .unjail => cr.unjail.map fun p =>
    .unjail { p with keyName := resolveSigningUID p.keyName target }
  | .unknown _ => none

/-- The reason and the text of a failure, or the task type and its payload.  The target
is absent in the early validation. -/
def taskParamsForKind (cr : SeiNodeTask) (target : Option SeiNode) :
    Except (String × String) (TaskType × TaskParams) :=
  match taskType cr.kind, cr.payloadFor target with
  | none, _ =>
    .error ("UnsupportedKind",
      "unsupported kind \"" ++ cr.kind.text ++ "\" is not wired in this build")
  | some _, none =>
    .error ("ParamsBuildFailed",
      "spec." ++ cr.kind.field ++ " is required for kind=" ++ cr.kind.text)
  | some type, some params =>
    if cr.kind = .awaitCondition ∧ cr.awaitCondition.bind AwaitConditionPayload.height = none then
      .error ("ParamsBuildFailed",
        "spec.awaitCondition.height is required (height is the only condition wired in MVP)")
    else
      match cr.kind, target with
      | .unjail, some node =>
        if node.spec.validator.isNone then
          .error ("ParamsBuildFailed",
            "kind=Unjail requires a validator target: SeiNode " ++ node.name
              ++ " has no spec.validator")
        else
          .ok (type, params)
      | _, _ => .ok (type, params)

/-- The execution timeout in seconds; 0 is unbounded. -/
def effectiveTimeout (cr : SeiNodeTask) : Nat :=
  if 0 < cr.timeoutSeconds then cr.timeoutSeconds
  else
    match cr.kind with
    | .restartSeid => defaultRestartSeidTimeout
    | .markReady => defaultMarkReadyTimeout
    | _ => 0

def execTimedOut (cr : SeiNodeTask) (execution : SeiNodeTaskExecution) (now : Nat) : Bool :=
  match execution.executionStartedAt with
  | some since => decide (0 < cr.effectiveTimeout ∧ since + cr.effectiveTimeout < now)
  | none => false

/-- The target when it has reached the required phase; none while it has not. -/
def resolveTarget (cr : SeiNodeTask) (now : Nat) :
    Except KubeError SeiNode → SeiNodeTask × Except String (Option SeiNode)
  | .error .notFound =>
    (cr, .error ("target SeiNode \"" ++ cr.nodeRef ++ "\" not found in namespace \""
      ++ cr.nameSpace ++ "\""))
  | .error (.other err) => (cr, .error err)
  | .ok target =>
    let requirePhase := if cr.requirePhase = .empty then .running else cr.requirePhase
    if target.status.phase = requirePhase then
      ({ cr with targetFirstObservedAt := none }, .ok (some target))
    else
      let since := cr.targetFirstObservedAt.getD now
      let cr := { cr with targetFirstObservedAt := some since }
      let timeout := cr.requirePhaseTimeout.getD defaultRequirePhaseTimeout
      if since + timeout < now then
        (cr, .error ("target \"" ++ cr.nodeRef ++ "\" did not reach phase \"" ++ requirePhase.text
          ++ "\" within " ++ durationText timeout ++ " (current: \"" ++ target.status.phase.text
          ++ "\")"))
      else
        (cr, .ok none)

def planned (execution : SeiNodeTaskExecution) (type : TaskType) (params : TaskParams) :
    PlannedTask where
  type := type
  id := execution.id
  status := execution.status
  params := params
  submittedAt := execution.submittedAt
  error := execution.err
  maxRetries := 0
  retryCount := 0

/-- A failed execution.  A sign-tx result without a verdict goes back to Pending. -/
def handleFailure (cr : SeiNodeTask) (execution : SeiNodeTaskExecution)
    (inclusion : Option InclusionStatus) (message : String) (now : Nat) : SeiNodeTask :=
  let failed := { execution with status := .failed, err := message }
  match if isSignTxKind cr.kind then inclusion else none with
  | some .pending =>
    if cr.execTimedOut execution now then
      { cr with task := some failed }.markFailed "InclusionUndetermined" message
    else
      { cr with task := some { execution with status := .pending } }
  | some .committedFailed => { cr with task := some failed }.markFailed "TxFailed" message
  | _ => { cr with task := some failed }.markFailed "TaskFailed" message

section

variable {ε : Type} (env : Env ε) (platform : Platform)

/-- The status half of `driveTask`. -/
def applyTaskStatus (cr : SeiNodeTask) (execution : SeiNodeTaskExecution) (task : PlannedTask)
    (exec : TaskExecution) (now : Nat) (ctx : Ctx ε) : SeiNodeTask × Ctx ε :=
  match exec.pollStatus env (.nodeTask cr.name) task ctx with
  | (_, ctx, .complete) =>
    ({ cr with phase := .complete, task := some { execution with status := .complete } }, ctx)
  | (exec, ctx, .failed) =>
    (cr.handleFailure execution (env.inclusionStatus ctx.env execution.id) (exec.err.getD "") now,
      ctx)
  | (_, ctx, .running) =>
    if cr.execTimedOut execution now then
      ({ cr with task := some { execution with status := .failed, err := "timeout" } }.markFailed
        "Timeout" ("task did not complete within " ++ durationText cr.effectiveTimeout), ctx)
    else
      ({ cr with task := some execution }, ctx)

/-- Execute the task if it is pending, then check its status.  The node of the context
is the target; a transient error is returned. -/
def driveTask (cr : SeiNodeTask) (execution : SeiNodeTaskExecution) (now : Nat) (ctx : Ctx ε) :
    SeiNodeTask × Ctx ε × Option String :=
  match cr.taskParamsForKind (some ctx.node) with
  | .error (reason, message) => (cr.markFailed reason message, ctx, none)
  | .ok (type, params) =>
    let task := planned execution type params
    match deserialize task with
    | .error err => (cr.markFailed "DeserializeFailed" err, ctx, none)
    | .ok exec =>
      let execution :=
        { execution with executionStartedAt := some (execution.executionStartedAt.getD now) }
      if execution.status = .pending then
        match exec.execute env platform (.nodeTask cr.name) task ctx with
        | (_, ctx, some (.terminal err)) =>
          ({ cr with task := some { execution with status := .failed, err } }.markFailed
            "TaskTerminalError" err, ctx, none)
        | (_, ctx, some (.transient err)) => ({ cr with task := some execution }, ctx, some err)
        | (exec, ctx, none) =>
          let execution :=
            { execution with
              status := .running, submittedAt := some (execution.submittedAt.getD now) }
          match cr.applyTaskStatus env execution task exec now ctx with
          | (cr, ctx) => (cr, ctx, none)
      else
        match cr.applyTaskStatus env execution task exec now ctx with
        | (cr, ctx) => (cr, ctx, none)

/-- The task a CR without one is given; it is stored before any side effect. -/
def synthesize (cr : SeiNodeTask) (now : Nat) : SeiNodeTask :=
  match cr.taskParamsForKind none with
  | .error (reason, message) => cr.markFailed reason message
  | .ok _ =>
    { cr with
      phase := .running
      task := some
        { id := deterministicTaskID cr.uid (.unknown cr.kind.text) 0, status := .pending
          executionStartedAt := some now, submittedAt := none, err := "" } }

/-- One reconcile, with the target as it was read; the status is then patched. -/
def reconcile (cr : SeiNodeTask) (target : Except KubeError SeiNode) (ctx : Ctx ε) :
    SeiNodeTask × Ctx ε × Option String :=
  if cr.phase = .complete ∨ cr.phase = .failed then (cr, ctx, none)
  else
    let now := env.now ctx.env
    let cr := { cr with startedAt := some (cr.startedAt.getD now) }
    match cr.resolveTarget now target with
    | (cr, .error err) => (cr.markFailed "TargetResolveFailed" err, ctx, none)
    | (cr, .ok none) => (cr, ctx, none)
    | (cr, .ok (some node)) =>
      match cr.task with
      | none => (cr.synthesize now, ctx, none)
      | some execution => cr.driveTask env platform execution now { ctx with node }

end

end SeiNodeTask

end SeiController
