import SeiController.Controller.NodeTaskLog
import SeiController.Lib.System

/-!
# Runs of one SeiNodeTask

Every way one reconcile of a SeiNodeTask can end, with what it met on the way, and the
runs: edits of the spec and reconciles whose status write landed.  A reconcile whose write
is refused stores nothing, and what happens around the task between two reconciles is
left open: each of them starts from any state of the environment.
-/

set_option autoImplicit false

namespace SeiController

namespace SeiNodeTask

def requiredPhase (cr : SeiNodeTask) : SeiNodePhase :=
  if cr.requirePhase = .empty then .running else cr.requirePhase

def waitElapsed (cr : SeiNodeTask) (now : Nat) : Prop :=
  cr.targetFirstObservedAt.getD now + cr.requirePhaseTimeout.getD defaultRequirePhaseTimeout < now

end SeiNodeTask

/-- One reconcile: the version it read, the answer to its read of the target, and the
state it starts in. -/
structure TaskVisit (ε : Type) where
  read : SeiNodeTask
  target : Except KubeError SeiNode
  ctx : Ctx ε

variable {exec : TaskExecution} {task : PlannedTask} {cr : SeiNodeTask}
  {execution : SeiNodeTaskExecution}

section

variable {ε : Type} (env : Env ε) (platform : Platform)

namespace TaskVisit

def now (visit : TaskVisit ε) : Nat := env.now visit.ctx.env

def result (visit : TaskVisit ε) : SeiNodeTask × Ctx ε × Option String :=
  visit.read.reconcile env platform visit.target visit.ctx

def next (visit : TaskVisit ε) : SeiNodeTask := (visit.result env platform).1

/-- The task that was read started more than its timeout ago. -/
def Late (visit : TaskVisit ε) : Prop :=
  ∃ execution, visit.read.task = some execution ∧
    visit.read.execTimedOut execution (visit.now env) = true

/-- The reconcile drives the task against a target that is in its phase. -/
structure Drives (visit : TaskVisit ε) (node : SeiNode) (execution : SeiNodeTaskExecution)
    (task : PlannedTask) : Prop where
  found : visit.target = .ok node
  reached : node.status.phase = visit.read.requiredPhase
  carried : visit.read.task = some execution
  built : ∃ type params, visit.read.taskParamsForKind (some node) = .ok (type, params) ∧
    task = SeiNodeTask.planned execution type params

inductive FailureCause (visit : TaskVisit ε) : Prop
  | targetNotFound (missing : visit.target = .error .notFound)
  | phaseWait (node : SeiNode) (found : visit.target = .ok node)
      (away : node.status.phase ≠ visit.read.requiredPhase)
      (elapsed : visit.read.waitElapsed (visit.now env))
  | budget (late : visit.Late env)
  | params (target : Option SeiNode) (found : ∀ node, target = some node → visit.target = .ok node)
      (reason message : String)
      (invalid : visit.read.taskParamsForKind target = .error (reason, message))
  | undecodable (node : SeiNode) (execution : SeiNodeTaskExecution) (task : PlannedTask)
      (message : String) (drives : visit.Drives node execution task)
      (invalid : deserialize task = .error message)
  | reported (node : SeiNode) (execution : SeiNodeTaskExecution) (task : PlannedTask)
      (err : Option String) (drives : visit.Drives node execution task)
      (answer : (visit.result env platform).2.1.log.head? =
        some (.observed (.nodeTask visit.read.name) task (.ok ⟨.failed, err⟩)))
  /-- The task's own read of the target it is to patch. -/
  | imageTargetNotFound (node : SeiNode) (execution : SeiNodeTaskExecution) (task : PlannedTask)
      (drives : visit.Drives node execution task) (pending : execution.status = .pending)
      (image : task.type = .updateNodeImage)
      (missing : (env.getSeiNode visit.ctx.env visit.read.nodeRef visit.read.nameSpace).2
        = .error .notFound)
  | refused (node : SeiNode) (execution : SeiNodeTaskExecution) (task : PlannedTask)
      (guard : StartGuard) (reason : String) (drives : visit.Drives node execution task)
      (pending : execution.status = .pending)
      (registered : registry task.type = some (.startGuarded guard))
      (blocked : guard.blocked node = some reason)

inductive Ending (visit : TaskVisit ε) (next : SeiNodeTask) : Prop
  | ended (over_ : visit.read.phase = .complete ∨ visit.read.phase = .failed)
      (same : next = visit.read)
  | unreadable (err : String) (unread : visit.target = .error (.other err))
      (failed : next.phase = .failed)
  | failed (cause : visit.FailureCause env platform) (failed : next.phase = .failed)
  | waiting (node : SeiNode) (found : visit.target = .ok node)
      (away : node.status.phase ≠ visit.read.requiredPhase)
      (still : ¬ visit.read.waitElapsed (visit.now env)) (same : next.phase = visit.read.phase)
  | synthesized (unstarted : visit.read.task = none) (running : next.phase = .running)
  | retried (node : SeiNode) (execution : SeiNodeTaskExecution) (task : PlannedTask)
      (exec : TaskExecution) (err : String) (drives : visit.Drives node execution task)
      (pending : execution.status = .pending) (decoded : deserialize task = .ok exec)
      (transient : (exec.execute env platform (.nodeTask visit.read.name) task
        { visit.ctx with node }).2.2 = some (.transient err))
      (same : next.phase = visit.read.phase)
  | completed (complete : next.phase = .complete)
  | ongoing (early : ¬ visit.Late env) (same : next.phase = visit.read.phase)

end TaskVisit

/-! ## Who says that a task failed -/

/-- The execution knows that it failed without asking anyone. -/
def TaskExecution.HasFailed : TaskExecution → Prop
  | .sidecar exec => exec.status = .failed
  | .startGuarded exec _ err => err.isSome ∨ exec.status = .failed
  | .controller exec => exec.status = .failed

theorem Deserialized.not_hasFailed (decoded : Deserialized task exec) : ¬ exec.HasFailed := by
  cases decoded <;> simp [TaskExecution.HasFailed, deserializeSidecar]

theorem SidecarExecution.execute_not_failed {origin : Origin} {exec ended : SidecarExecution}
    {ctx after : Ctx ε} (executed : exec.execute env origin task ctx = (ended, after, none)) :
    ended.status ≠ .failed := by
  rcases exec.execute_cases env origin task ctx with
    ⟨_, _, _, same⟩ | ⟨_, _, _, same⟩ | ⟨accepted, _, same, _, status⟩
  · rw [same] at executed
    cases executed
  · rw [same] at executed
    cases executed
  · rw [same] at executed
    cases executed
    rw [status]
    split <;> simp

/-- An `Execute` that returns no error leaves a failure behind only where the task's own
controller code reported it. -/
theorem TaskExecution.execute_hasFailed {ended : TaskExecution} (decoded : Deserialized task exec)
    {origin : Origin} {ctx after : Ctx ε}
    (executed : exec.execute env platform origin task ctx = (ended, after, none))
    (failed : ended.HasFailed) :
    registry task.type = some .controller ∧ ∃ message,
      (runController env platform ⟨task.type, task.params, .running, none⟩ ctx).2
        = .failed message := by
  cases decoded with
  | sidecar forget registered =>
    simp only [execute] at executed
    generalize ran : (deserializeSidecar task task.type forget).execute env origin task ctx = result
      at executed
    obtain ⟨done, state, failure⟩ := result
    cases executed
    exact absurd failed (SidecarExecution.execute_not_failed env ran)
  | startGuarded guard registered =>
    simp only [execute] at executed
    cases blocked : guard.blocked ctx.node with
    | some reason =>
      rw [blocked] at executed
      cases executed
    | none =>
      rw [blocked] at executed
      generalize ran : (deserializeSidecar task .markReady true).execute env origin task ctx
        = result at executed
      obtain ⟨done, state, failure⟩ := result
      cases executed
      rcases failed with guarded | failed
      · cases guarded
      · exact absurd failed (SidecarExecution.execute_not_failed env ran)
  | controller registered =>
    refine ⟨registered, ?_⟩
    simp only [execute, ControllerExecution.execute] at executed
    generalize runController env platform ⟨task.type, task.params, .running, none⟩ ctx = result
      at executed
    obtain ⟨state, outcome⟩ := result
    cases outcome with
    | failed message => exact ⟨message, rfl⟩
    | complete | waiting =>
      cases executed
      cases failed
    | transient | terminal => cases executed

/-- Only a start guard and the controller-side tasks refuse for good. -/
theorem TaskExecution.execute_terminal {ended : TaskExecution} (decoded : Deserialized task exec)
    {origin : Origin} {ctx after : Ctx ε} {err : String}
    (executed : exec.execute env platform origin task ctx = (ended, after, some (.terminal err))) :
    (∃ guard reason, registry task.type = some (.startGuarded guard) ∧
        guard.blocked ctx.node = some reason) ∨
      registry task.type = some .controller ∧ ∃ message,
        (runController env platform ⟨task.type, task.params, .running, none⟩ ctx).2
          = .terminal message := by
  have sent {inner done : SidecarExecution}
      (ran : inner.execute env origin task ctx = (done, after, some (.terminal err))) : False := by
    rcases inner.execute_cases env origin task ctx with
      ⟨_, _, _, same⟩ | ⟨_, _, _, same⟩ | ⟨_, _, same, _⟩ <;>
    · rw [same] at ran
      cases ran
  cases decoded with
  | sidecar forget registered =>
    simp only [execute] at executed
    generalize ran : (deserializeSidecar task task.type forget).execute env origin task ctx = result
      at executed
    obtain ⟨done, state, failure⟩ := result
    cases executed
    exact (sent ran).elim
  | startGuarded guard registered =>
    cases blocked : guard.blocked ctx.node with
    | some reason => exact .inl ⟨guard, reason, registered, blocked⟩
    | none =>
      simp only [execute, blocked] at executed
      generalize ran : (deserializeSidecar task .markReady true).execute env origin task ctx
        = result at executed
      obtain ⟨done, state, failure⟩ := result
      cases executed
      exact (sent ran).elim
  | controller registered =>
    refine .inr ⟨registered, ?_⟩
    simp only [execute, ControllerExecution.execute] at executed
    generalize runController env platform ⟨task.type, task.params, .running, none⟩ ctx = result
      at executed
    obtain ⟨state, outcome⟩ := result
    cases outcome with
    | terminal message => exact ⟨message, rfl⟩
    | complete | waiting | failed | transient => cases executed

namespace SeiNodeTask

/-- A poll that fails has the sidecar's word for it, or the execution knew before. -/
theorem pollStatus_failed {ended : TaskExecution} {ctx after : Ctx ε}
    (polled : exec.pollStatus env (.nodeTask cr.name) task ctx = (ended, after, .failed))
    (fresh : ¬ exec.HasFailed) :
    ∃ err, after.log = .observed (.nodeTask cr.name) task (.ok ⟨.failed, err⟩) :: ctx.log := by
  have answered {inner done : SidecarExecution}
      (answer : inner.pollStatus env (.nodeTask cr.name) task ctx = (done, after, .failed))
      (unknown : inner.status ≠ .failed) :
      ∃ err, after.log = .observed (.nodeTask cr.name) task (.ok ⟨.failed, err⟩) :: ctx.log := by
    cases status : inner.status with
    | failed => exact absurd status unknown
    | complete =>
      simp only [SidecarExecution.pollStatus, status] at answer
      cases answer
    | running =>
      rcases inner.pollStatus_cases env (.nodeTask cr.name) task ctx status with
        ⟨_, state, same⟩ | ⟨state, reply, same⟩
      · rw [same] at answer
        cases answer
      · rw [same] at answer
        match reply with
        | .error _ | .ok ⟨.running, _⟩ | .ok ⟨.completed, _⟩ => cases answer
        | .ok ⟨.failed, err⟩ =>
          cases answer
          exact ⟨err, rfl⟩
  match exec with
  | .sidecar inner =>
    simp only [TaskExecution.pollStatus] at polled
    generalize ran : inner.pollStatus env (.nodeTask cr.name) task ctx = result at polled
    obtain ⟨done, state, status⟩ := result
    cases polled
    exact answered ran fresh
  | .startGuarded inner guard (some err) => exact absurd (.inl rfl) fresh
  | .startGuarded inner guard none =>
    simp only [TaskExecution.pollStatus] at polled
    generalize ran : inner.pollStatus env (.nodeTask cr.name) task ctx = result at polled
    obtain ⟨done, state, status⟩ := result
    cases polled
    exact answered ran fun failed => fresh (.inr failed)
  | .controller image =>
    obtain ⟨state, done, same, outcome⟩ := image.pollStatus_cases env ctx
    simp only [TaskExecution.pollStatus, same, Prod.mk.injEq] at polled
    rcases outcome with rfl | ⟨-, rfl⟩
    · exact absurd polled.2.2 fresh
    · cases polled.2.2

/-- The timeout counts from the recorded start; a start stamped now is not over. -/
theorem execTimedOut_of_stamped {stamped : SeiNodeTaskExecution} {now : Nat}
    (same : stamped.executionStartedAt = some (execution.executionStartedAt.getD now))
    (late : cr.execTimedOut stamped now = true) : cr.execTimedOut execution now = true := by
  unfold execTimedOut at late ⊢
  rw [same] at late
  cases since : execution.executionStartedAt with
  | some started => simpa [since] using late
  | none =>
    simp only [since, Option.getD_none, decide_eq_true_eq] at late
    omega

theorem updateNodeImage_outcome (params : UpdateNodeImageParams) (ctx : Ctx ε) :
    (SeiController.updateNodeImage env params ctx).2 = .waiting ∨
      (∃ err, (SeiController.updateNodeImage env params ctx).2 = .transient err) ∨
      ∃ message, (SeiController.updateNodeImage env params ctx).2 = .terminal message ∧
        (env.getSeiNode ctx.env params.nodeName params.nameSpace).2 = .error .notFound := by
  unfold SeiController.updateNodeImage
  split
  next answer => exact .inr (.inr ⟨_, rfl, by rw [answer]⟩)
  next => exact .inr (.inl ⟨_, rfl⟩)
  next =>
    split
    · exact .inl rfl
    · split
      · exact .inr (.inl ⟨_, rfl⟩)
      · exact .inl rfl

/-- The controller-side kind is update-node-image: its `Execute` reports no failure, and refuses
for good only a target that is not there. -/
theorem runController_image {target : Option SeiNode} {type : TaskType} {params : TaskParams}
    (built : cr.taskParamsForKind target = .ok (type, params))
    (registered : registry type = some .controller) (ctx : Ctx ε) :
    type = .updateNodeImage ∧
      (∀ message, (runController env platform ⟨type, params, .running, none⟩ ctx).2
        ≠ .failed message) ∧
      ∀ message, (runController env platform ⟨type, params, .running, none⟩ ctx).2
        = .terminal message →
        (env.getSeiNode ctx.env cr.nodeRef cr.nameSpace).2 = .error .notFound := by
  obtain ⟨wired, payload⟩ := taskParamsForKind_ok built
  cases kind : cr.kind with
  | unknown =>
    rw [kind] at wired
    cases wired
  | updateNodeImage =>
    rw [kind] at wired
    cases wired
    simp only [payloadFor, kind, Option.map_eq_some_iff] at payload
    obtain ⟨image, -, rfl⟩ := payload
    have outcome := updateNodeImage_outcome env ⟨cr.nodeRef, cr.nameSpace, image⟩ ctx
    simp only [runController, TaskParams.imageParams]
    rcases outcome with waits | ⟨err, transient⟩ | ⟨text, terminal, missing⟩
    · simp [waits]
    · simp [transient]
    · simp [terminal, missing]
  | _ =>
    rw [kind] at wired
    cases wired
    cases registered

theorem handleFailure_ending (cr : SeiNodeTask) (execution : SeiNodeTaskExecution)
    (inclusion : Option InclusionStatus) (message : String) (now : Nat) :
    (cr.handleFailure execution inclusion message now).phase = .failed ∨
      cr.execTimedOut execution now = false ∧
        (cr.handleFailure execution inclusion message now).phase = cr.phase := by
  unfold handleFailure
  dsimp only
  split
  · split
    · exact .inl rfl
    next early => exact .inr ⟨Bool.eq_false_iff.mpr early, rfl⟩
  · exact .inl rfl
  · exact .inl rfl

/-- How the status half ends: completed, failed on a failed poll or on the timeout, or
still within its time. -/
theorem applyTaskStatus_ending (cr : SeiNodeTask) (execution : SeiNodeTaskExecution)
    (task : PlannedTask) (exec : TaskExecution) (now : Nat) (ctx : Ctx ε) :
    (cr.applyTaskStatus env execution task exec now ctx).1.phase = .complete ∨
      ((cr.applyTaskStatus env execution task exec now ctx).1.phase = .failed ∧
        (cr.execTimedOut execution now = true ∨
          ∃ ended, exec.pollStatus env (.nodeTask cr.name) task ctx
          = (ended, (cr.applyTaskStatus env execution task exec now ctx).2, .failed))) ∨
      cr.execTimedOut execution now = false ∧
        (cr.applyTaskStatus env execution task exec now ctx).1.phase = cr.phase := by
  unfold applyTaskStatus
  generalize exec.pollStatus env (.nodeTask cr.name) task ctx = result
  obtain ⟨ended, after, status⟩ := result
  cases status with
  | complete => exact .inl rfl
  | failed =>
    dsimp only
    rcases cr.handleFailure_ending execution (env.inclusionStatus after.env execution.id)
      (ended.err.getD "") now with failed | early
    · exact .inr (.inl ⟨failed, .inr ⟨ended, rfl⟩⟩)
    · exact .inr (.inr early)
  | running =>
    dsimp only
    by_cases late : cr.execTimedOut execution now = true
    · rw [if_pos late]
      exact .inr (.inl ⟨rfl, .inl late⟩)
    · rw [if_neg late]
      exact .inr (.inr ⟨Bool.eq_false_iff.mpr late, rfl⟩)

end SeiNodeTask

namespace TaskVisit

/-! ## Every way a reconcile can end -/

/-- The status half, after a submission or without one. -/
theorem ending_of_status {visit : TaskVisit ε} {node : SeiNode} {stamped : SeiNodeTaskExecution}
    (drives : visit.Drives node execution task) {after : Ctx ε} (name : cr.name = visit.read.name)
    (phase : cr.phase = visit.read.phase)
    (timed : cr.execTimedOut stamped = visit.read.execTimedOut stamped)
    (since : stamped.executionStartedAt = some (execution.executionStartedAt.getD (visit.now env)))
    (log : (visit.result env platform).2.1 =
      (cr.applyTaskStatus env stamped task exec (visit.now env) after).2)
    (fresh : ¬ exec.HasFailed) :
    visit.Ending env platform
      (cr.applyTaskStatus env stamped task exec (visit.now env) after).1 := by
  rcases cr.applyTaskStatus_ending env stamped task exec (visit.now env) after with
    complete | ⟨failed, late | ⟨ended, polled⟩⟩ | ⟨early, same⟩
  · exact .completed complete
  · rw [timed] at late
    exact .failed
      (.budget ⟨execution, drives.carried, SeiNodeTask.execTimedOut_of_stamped since late⟩) failed
  · obtain ⟨err, logged⟩ := SeiNodeTask.pollStatus_failed env polled fresh
    refine .failed (.reported node execution task err drives ?_) failed
    rw [log, logged, name, List.head?_cons]
  · refine .ongoing ?_ (same.trans phase)
    rintro ⟨other, carried, late⟩
    rw [drives.carried] at carried
    cases carried
    rw [timed] at early
    -- A task that is late carries its start, so the stamp left it alone.
    have kept : visit.read.execTimedOut stamped (visit.now env)
        = visit.read.execTimedOut execution (visit.now env) := by
      cases started : execution.executionStartedAt with
      | none => simp [SeiNodeTask.execTimedOut, started] at late
      | some start => simp [SeiNodeTask.execTimedOut, started, since]
    rw [kept, late] at early
    cases early

/-- A submission is refused for good by a start guard, or by an image update that finds no
target. -/
theorem cause_of_terminal {visit : TaskVisit ε} {node : SeiNode} {type : TaskType}
    {payload : TaskParams} {ended : TaskExecution} {origin : Origin} {after : Ctx ε} {err : String}
    (drives : visit.Drives node execution (SeiNodeTask.planned execution type payload))
    (built : cr.taskParamsForKind (some node) = .ok (type, payload))
    (ref : cr.nodeRef = visit.read.nodeRef) (space : cr.nameSpace = visit.read.nameSpace)
    (pending : execution.status = .pending)
    (decoded : Deserialized (SeiNodeTask.planned execution type payload) exec)
    (executed : exec.execute env platform origin (SeiNodeTask.planned execution type payload)
      { visit.ctx with node } = (ended, after, some (.terminal err))) :
    visit.FailureCause env platform := by
  rcases exec.execute_terminal env platform decoded executed with
    ⟨guard, reason, registered, blocked⟩ | ⟨registered, message, outcome⟩
  · exact .refused node execution _ guard reason drives pending registered blocked
  · obtain ⟨isImage, -, missing⟩ := SeiNodeTask.runController_image env platform built registered
      { visit.ctx with node }
    have gone := missing message outcome
    rw [ref, space] at gone
    exact .imageTargetNotFound node execution _ drives pending isImage gone

theorem driveTask_ending {visit : TaskVisit ε} {node : SeiNode} (found : visit.target = .ok node)
    (reached : node.status.phase = visit.read.requiredPhase)
    (carried : visit.read.task = some execution) (name : cr.name = visit.read.name)
    (ref : cr.nodeRef = visit.read.nodeRef) (space : cr.nameSpace = visit.read.nameSpace)
    (phase : cr.phase = visit.read.phase)
    (params : cr.taskParamsForKind = visit.read.taskParamsForKind)
    (timed : cr.execTimedOut = visit.read.execTimedOut)
    (log : (visit.result env platform) =
      cr.driveTask env platform execution (visit.now env) { visit.ctx with node }) :
    visit.Ending env platform
      (cr.driveTask env platform execution (visit.now env) { visit.ctx with node }).1 := by
  cases built : cr.taskParamsForKind (some node) with
  | error failure =>
    obtain ⟨reason, message⟩ := failure
    simp only [SeiNodeTask.driveTask, built]
    rw [params] at built
    refine .failed (.params (some node) ?_ reason message built) rfl
    rintro other same
    cases same
    exact found
  | ok payload =>
    obtain ⟨type, payload⟩ := payload
    have drives : visit.Drives node execution (SeiNodeTask.planned execution type payload) :=
      ⟨found, reached, carried, type, payload, by rw [← params, built], rfl⟩
    simp only [SeiNodeTask.driveTask, built] at log ⊢
    cases decoded : deserialize (SeiNodeTask.planned execution type payload) with
    | error message =>
      exact .failed (.undecodable node execution _ message drives decoded) rfl
    | ok exec =>
      simp only [decoded] at log ⊢
      have origin := deserialize_ok decoded
      by_cases pending : execution.status = .pending
      · simp only [pending, if_true] at log ⊢
        cases executed : exec.execute env platform (.nodeTask cr.name)
          (SeiNodeTask.planned execution type payload) { visit.ctx with node } with
        | mk ended rest =>
          obtain ⟨after, failure⟩ := rest
          simp only [executed] at log ⊢
          match failure with
          | some (.terminal err) =>
            exact .failed
              (cause_of_terminal env platform drives built ref space pending origin executed) rfl
          | some (.transient err) =>
            refine .retried node execution _ exec err drives pending decoded ?_ phase
            rw [← name, executed]
          | none =>
            refine ending_of_status env platform drives name phase (by rw [timed]) rfl
              (by rw [log]) fun failed => ?_
            obtain ⟨registered, message, outcome⟩ :=
              TaskExecution.execute_hasFailed env platform origin executed failed
            exact (SeiNodeTask.runController_image env platform built registered _).2.1 message
              outcome
      · simp only [pending, if_false] at log ⊢
        exact ending_of_status env platform drives name phase (by rw [timed]) rfl
          (by rw [log]) origin.not_hasFailed

theorem synthesize_ending {visit : TaskVisit ε} (unstarted : visit.read.task = none)
    (params : cr.taskParamsForKind = visit.read.taskParamsForKind) {now : Nat} :
    visit.Ending env platform (cr.synthesize now) := by
  unfold SeiNodeTask.synthesize
  cases built : cr.taskParamsForKind none with
  | error failure =>
    obtain ⟨reason, message⟩ := failure
    rw [params] at built
    refine .failed (.params none ?_ reason message built) rfl
    rintro other same
    cases same
  | ok _ => exact .synthesized unstarted rfl

def driven (visit : TaskVisit ε) : SeiNodeTask :=
  { visit.read with
    startedAt := some (visit.read.startedAt.getD (visit.now env)), targetFirstObservedAt := none }

theorem result_of_reached {visit : TaskVisit ε} {node : SeiNode}
    (alive : ¬ (visit.read.phase = .complete ∨ visit.read.phase = .failed))
    (found : visit.target = .ok node) (reached : node.status.phase = visit.read.requiredPhase) :
    visit.result env platform =
      match visit.read.task with
      | none => ((visit.driven env).synthesize (visit.now env), visit.ctx, none)
      | some execution =>
        (visit.driven env).driveTask env platform execution (visit.now env)
          { visit.ctx with node } := by
  unfold SeiNodeTask.requiredPhase at reached
  simp only [result, SeiNodeTask.reconcile, alive, if_false, found, SeiNodeTask.resolveTarget,
    reached, if_true]
  rfl

theorem result_ending (visit : TaskVisit ε) :
    visit.Ending env platform (visit.next env platform) := by
  by_cases ended : visit.read.phase = .complete ∨ visit.read.phase = .failed
  · refine .ended ended ?_
    simp only [next, result, SeiNodeTask.reconcile, ended, if_true]
  have ran : visit.result env platform = visit.read.reconcile env platform visit.target visit.ctx :=
    rfl
  unfold next
  simp only [SeiNodeTask.reconcile, ended, if_false] at ran
  match found : visit.target with
  | .error .notFound =>
    rw [found] at ran
    exact .failed (.targetNotFound found) (by rw [ran]; rfl)
  | .error (.other err) =>
    rw [found] at ran
    exact .unreadable err found (by rw [ran]; rfl)
  | .ok node =>
    rw [found] at ran
    by_cases reached : node.status.phase = visit.read.requiredPhase
    · have driven := visit.result_of_reached env platform ended found reached
      cases carried : visit.read.task with
      | none =>
        rw [carried] at driven
        rw [driven]
        refine synthesize_ending env platform carried ?_
        rfl
      | some execution =>
        rw [carried] at driven
        rw [driven]
        exact driveTask_ending env platform found reached carried rfl rfl rfl rfl rfl rfl driven
    · by_cases elapsed : visit.read.waitElapsed (visit.now env)
      · have phase := reached
        unfold SeiNodeTask.requiredPhase at phase
        have late := elapsed
        unfold SeiNodeTask.waitElapsed TaskVisit.now at late
        simp only [SeiNodeTask.resolveTarget, phase, if_false, late, if_true] at ran
        refine .failed (.phaseWait node found reached elapsed) ?_
        rw [ran]
        rfl
      · have phase := reached
        unfold SeiNodeTask.requiredPhase at phase
        have early := elapsed
        unfold SeiNodeTask.waitElapsed TaskVisit.now at early
        simp only [SeiNodeTask.resolveTarget, phase, if_false, early] at ran
        refine .waiting node found reached elapsed ?_
        rw [ran]

end TaskVisit

/-! ## Runs -/

/-- What the API server admits as an update of the spec: the kind is immutable. -/
structure SeiNodeTask.Admitted (old new : SeiNodeTask) : Prop where
  name : new.name = old.name
  uid : new.uid = old.uid
  kind : new.kind = old.kind
  phase : new.phase = old.phase
  startedAt : new.startedAt = old.startedAt
  targetFirstObservedAt : new.targetFirstObservedAt = old.targetFirstObservedAt
  task : new.task = old.task
  failed : new.failed = old.failed

/-- The stored task, and the reconciles whose status write landed, newest first. -/
structure TaskHistory (ε : Type) where
  stored : SeiNodeTask
  written : List (TaskVisit ε)

namespace TaskHistory

/-- The optimistic lock lets only a reconcile of the stored version write. -/
inductive Step (allowed : TaskVisit ε → Prop) : TaskHistory ε → TaskHistory ε → Prop
  | edit (history : TaskHistory ε) (cr : SeiNodeTask) (admitted : history.stored.Admitted cr) :
      Step allowed history { history with stored := cr }
  | reconcile (history : TaskHistory ε) (visit : TaskVisit ε) (read : visit.read = history.stored)
      (may : allowed visit) :
      Step allowed history ⟨visit.next env platform, visit :: history.written⟩

def Initial (history : TaskHistory ε) : Prop :=
  history.stored.phase = .empty ∧ history.stored.task = none ∧ history.written = []

/-- The histories of a created task when every reconcile meets the condition. -/
def Reached (allowed : TaskVisit ε → Prop) : TaskHistory ε → Prop :=
  Reachable Initial (Step env platform allowed)

def AllWritten (holds : TaskVisit ε → Prop) (history : TaskHistory ε) : Prop :=
  ∀ visit ∈ history.written, holds visit

/-- What every allowed reconcile does holds of every reconcile of a run. -/
theorem Reached.allWritten {allowed holds : TaskVisit ε → Prop}
    (each : ∀ visit, allowed visit → holds visit) {history : TaskHistory ε}
    (reached : Reached env platform allowed history) : history.AllWritten holds := by
  refine Reachable.invariant ?_ ?_ reached
  · rintro start ⟨-, -, none⟩ visit member
    rw [none] at member
    cases member
  · intro before after kept move
    cases move with
    | edit => exact kept
    | reconcile visit read may =>
      intro other member
      rcases List.mem_cons.mp member with rfl | earlier
      · exact each other may
      · exact kept other earlier

end TaskHistory

end

end SeiController
