import SeiController.Controller.NodeTaskRun

/-!
# When a SeiNodeTask has to end, and what it may fail for

The execution timeout of a SeiNodeTask is checked after its status was polled.  A
reconcile that does not get there (the target left its phase, or `Execute` ended in an
error to be retried) leaves a late task as it was.  The only error that fails a task
without a cause of its own is a failed read of its target.
-/

set_option autoImplicit false

namespace SeiController

section

variable {ε : Type} (env : Env ε) (platform : Platform)

/-- The client is built, the parameters pass and the sidecar takes the request. -/
structure Env.Accepts (state : ε) (node : SeiNode) (request : TaskRequest) : Prop where
  built : (env.buildSidecarClient state node).2 = none
  valid : request.params.validate env.checks request.type = none
  taken : (env.submitTask (env.buildSidecarClient state node).1 request).2 = none

/-- The target can be read or is not there, and an image it does not run can be patched in. -/
structure Env.Patches (state : ε) (params : UpdateNodeImageParams) : Prop where
  readable : ∀ err, (env.getSeiNode state params.nodeName params.nameSpace).2 ≠ .error (.other err)
  patched : ∀ target later,
    env.getSeiNode state params.nodeName params.nameSpace = (later, .ok target) →
      target.spec.image ≠ params.image → (env.patchImage later target params.image).2 = none

/-- No call that `Execute` makes for the task ends in an error to be retried. -/
def Env.Takes (task : PlannedTask) (state : ε) (node : SeiNode) : Prop :=
  match registry task.type with
  | some (.sidecar _) => env.Accepts state node ⟨task.id, task.type, task.params⟩
  | some (.startGuarded guard) =>
    guard.blocked node = none → env.Accepts state node ⟨task.id, .markReady, task.params⟩
  | some .controller => env.Patches state task.params.imageParams
  | none => True

theorem SidecarExecution.execute_accepted {request : TaskType} (forget : Bool) (origin : Origin)
    {task : PlannedTask} {ctx : Ctx ε}
    (accepts : env.Accepts ctx.env ctx.node ⟨task.id, request, task.params⟩) :
    ((deserializeSidecar task request forget).execute env origin task ctx).2.2 = none := by
  obtain ⟨built, valid, taken⟩ := accepts
  generalize client : env.buildSidecarClient ctx.env ctx.node = answer at built taken
  obtain ⟨state, failure⟩ := answer
  cases built
  generalize sent : env.submitTask state ⟨task.id, request, task.params⟩ = answer at taken
  obtain ⟨later, failure⟩ := answer
  cases taken
  simp [SidecarExecution.execute, SidecarExecution.ensureClient, deserializeSidecar, client, valid,
    sent]

theorem Env.Patches.not_transient {params : UpdateNodeImageParams} {ctx : Ctx ε}
    (patches : env.Patches ctx.env params) (err : String) :
    (updateNodeImage env params ctx).2 ≠ .transient err := by
  unfold updateNodeImage
  split
  · simp
  next err answer => exact absurd (by rw [answer]) (patches.readable err)
  next later target answer =>
    split
    · simp
    next other =>
      split
      next refused => simpa [refused] using patches.patched target later answer other
      · simp

/-- A task whose calls are taken does not come back with an error to be retried. -/
theorem Env.Takes.not_transient {cr : SeiNodeTask} {execution : SeiNodeTaskExecution}
    {type : TaskType} {params : TaskParams} (ctx : Ctx ε)
    (takes : env.Takes (SeiNodeTask.planned execution type params) ctx.env ctx.node)
    {target : Option SeiNode} (built : cr.taskParamsForKind target = .ok (type, params))
    {exec : TaskExecution}
    (decoded : deserialize (SeiNodeTask.planned execution type params) = .ok exec) {err : String} :
    (exec.execute env platform (.nodeTask cr.name) (SeiNodeTask.planned execution type params)
      ctx).2.2 ≠ some (.transient err) := by
  cases deserialize_ok decoded with
  | sidecar forget registered =>
    simp only [Env.Takes, registered] at takes
    have accepted := SidecarExecution.execute_accepted env forget (.nodeTask cr.name) takes
    simp only [TaskExecution.execute]
    rw [accepted]
    simp
  | startGuarded guard registered =>
    simp only [Env.Takes, registered] at takes
    simp only [TaskExecution.execute]
    cases blocked : guard.blocked ctx.node with
    | some reason => simp
    | none =>
      have accepted :=
        SidecarExecution.execute_accepted env true (.nodeTask cr.name) (takes blocked)
      dsimp only
      rw [accepted]
      simp
  | controller registered =>
    simp only [Env.Takes, registered] at takes
    obtain ⟨rfl, -, -⟩ := SeiNodeTask.runController_image env platform built registered ctx
    have never (message : String) :
        (updateNodeImage env params.imageParams ctx).2 ≠ .transient message :=
      Env.Patches.not_transient env takes message
    simp only [TaskExecution.execute, ControllerExecution.execute, SeiNodeTask.planned, runController]
    generalize updateNodeImage env params.imageParams ctx = result at never ⊢
    obtain ⟨after, outcome⟩ := result
    cases outcome with
    | transient message => exact absurd rfl (never message)
    | complete | waiting | failed | terminal => simp

/-! ## The timeout -/

/-- Nothing keeps the reconcile from polling the task: a target that can be read is in its
phase or out of time, and what `Execute` calls is taken. -/
structure TaskVisit.Unhindered (visit : TaskVisit ε) : Prop where
  target : ∀ node, visit.target = .ok node →
    node.status.phase = visit.read.requiredPhase ∨ visit.read.waitElapsed (visit.now env)
  taken : ∀ node execution task, visit.Drives node execution task → execution.status = .pending →
    env.Takes task visit.ctx.env node

theorem TaskVisit.ends_of_unhindered {visit : TaskVisit ε} (late : visit.Late env)
    (unhindered : visit.Unhindered env) :
    (visit.next env platform).phase = .complete ∨ (visit.next env platform).phase = .failed := by
  cases visit.result_ending env platform with
  | ended ended same =>
    rw [same]
    exact ended
  | unreadable _ _ failed => exact .inr failed
  | failed _ failed => exact .inr failed
  | waiting node found away still _ =>
    rcases unhindered.target node found with reached | elapsed
    · exact absurd reached away
    · exact absurd elapsed still
  | synthesized unstarted _ =>
    obtain ⟨execution, carried, -⟩ := late
    rw [unstarted] at carried
    cases carried
  | retried node execution task exec err drives pending decoded transient _ =>
    have takes := unhindered.taken node execution task drives pending
    obtain ⟨type, params, built, rfl⟩ := drives.built
    exact absurd transient
      (Env.Takes.not_transient env platform { visit.ctx with node } takes built decoded)
  | completed complete => exact .inl complete
  | ongoing early _ => exact absurd late early

/-- In a run in which nothing keeps a late task from being polled, a reconcile that reads
the task after its timeout and stores its status leaves it Complete or Failed. -/
theorem late_task_ends {history : TaskHistory ε}
    (reached : TaskHistory.Reached env platform
      (fun visit => visit.Late env → visit.Unhindered env) history)
    {visit : TaskVisit ε} (written : visit ∈ history.written) {execution : SeiNodeTaskExecution}
    (carried : visit.read.task = some execution) {since : Nat}
    (started : execution.executionStartedAt = some since)
    (bounded : 0 < visit.read.effectiveTimeout)
    (late : since + visit.read.effectiveTimeout < visit.now env) :
    (visit.next env platform).phase = .complete ∨ (visit.next env platform).phase = .failed := by
  have isLate : visit.Late env :=
    ⟨execution, carried, by simp [SeiNodeTask.execTimedOut, started, bounded, late]⟩
  have each (visit : TaskVisit ε) (may : visit.Late env → visit.Unhindered env)
      (late : visit.Late env) :
      (visit.next env platform).phase = .complete ∨ (visit.next env platform).phase = .failed :=
    visit.ends_of_unhindered env platform late (may late)
  exact reached.allWritten env platform each visit written isLate

/-! ## What fails a task -/

/-- In a run in which the target's reads find it or report that it is not there, a task
enters Failed only for a cause of its own. -/
theorem task_fails_for_cause {history : TaskHistory ε}
    (reached : TaskHistory.Reached env platform
      (fun visit => ∀ err, visit.target ≠ .error (.other err)) history)
    {visit : TaskVisit ε} (written : visit ∈ history.written)
    (entered : visit.read.phase ≠ .failed) (failed : (visit.next env platform).phase = .failed) :
    visit.FailureCause env platform := by
  have each (visit : TaskVisit ε) (may : ∀ err, visit.target ≠ .error (.other err))
      (entered : visit.read.phase ≠ .failed)
      (failed : (visit.next env platform).phase = .failed) : visit.FailureCause env platform := by
    cases visit.result_ending env platform with
    | failed cause _ => exact cause
    | unreadable err unread _ => exact absurd unread (may err)
    | ended _ same =>
      rw [same] at failed
      exact absurd failed entered
    | waiting _ _ _ _ same | retried _ _ _ _ _ _ _ _ _ same | ongoing _ same =>
      rw [same] at failed
      exact absurd failed entered
    | synthesized _ running =>
      rw [running] at failed
      cases failed
    | completed complete =>
      rw [complete] at failed
      cases failed
  exact reached.allWritten env platform each visit written entered failed

end

/-! ### A task that restarts seid

The state of the environment is the clock. -/

/-- A sidecar with one answer to every submission and one to every poll. -/
def clockEnv (submission : Option String) (answer : Except GetTaskError TaskResult) : Env Nat :=
  { quietEnv with
    now clock := clock
    submitTask clock _ := (clock, submission)
    getTask clock _ := (clock, answer) }

def restartTask : SeiNodeTask where
  name := "restart"
  uid := "task-1"
  nameSpace := "sei"
  nodeRef := "node"
  kind := .restartSeid
  restartSeid := true
  requirePhase := .running
  requirePhaseTimeout := none
  timeoutSeconds := 0
  phase := .empty
  startedAt := none
  targetFirstObservedAt := none
  task := none
  failed := none

def nodeIn (phase : SeiNodePhase) : SeiNode :=
  { name := "node", status := { phase } }

def visitAt (clock : Nat) (target : Except KubeError SeiNode) (read : SeiNodeTask) : TaskVisit Nat :=
  ⟨read, target, ⟨nodeIn .running, [], clock, []⟩⟩

/-- The task is given its execution at 0 and visited again at 601, one second late. -/
def restartVisit (env : Env Nat) (target : Except KubeError SeiNode) : TaskVisit Nat :=
  visitAt 601 target ((visitAt 0 (.ok (nodeIn .running)) restartTask).next env samplePlatform)

def restartHistory (env : Env Nat) (target : Except KubeError SeiNode) : TaskHistory Nat :=
  ⟨(restartVisit env target).next env samplePlatform,
    [restartVisit env target, visitAt 0 (.ok (nodeIn .running)) restartTask]⟩

theorem restartHistory_reached (env : Env Nat) (target : Except KubeError SeiNode)
    {allowed : TaskVisit Nat → Prop}
    (first : allowed (visitAt 0 (.ok (nodeIn .running)) restartTask))
    (second : allowed (restartVisit env target)) :
    TaskHistory.Reached env samplePlatform allowed (restartHistory env target) :=
  .next (.next (.start (s := ⟨restartTask, []⟩) ⟨rfl, rfl, rfl⟩)
    (.reconcile _ _ rfl first)) (.reconcile _ _ rfl second)

/-- A late task that the sidecar never took, and one whose target left its phase, are both
left running. -/
theorem late_task_left_running :
    (TaskHistory.Reached (clockEnv (some "503") (.error .notFound)) samplePlatform (fun _ => True)
        (restartHistory (clockEnv (some "503") (.error .notFound)) (.ok (nodeIn .running))) ∧
      (restartVisit (clockEnv (some "503") (.error .notFound)) (.ok (nodeIn .running))).Late
        (clockEnv (some "503") (.error .notFound)) ∧
      (restartHistory (clockEnv (some "503") (.error .notFound))
        (.ok (nodeIn .running))).stored.phase = .running) ∧
    (TaskHistory.Reached (clockEnv none (.error .notFound)) samplePlatform (fun _ => True)
        (restartHistory (clockEnv none (.error .notFound)) (.ok (nodeIn .failed))) ∧
      (restartVisit (clockEnv none (.error .notFound)) (.ok (nodeIn .failed))).Late
        (clockEnv none (.error .notFound)) ∧
      (restartHistory (clockEnv none (.error .notFound))
        (.ok (nodeIn .failed))).stored.phase = .running) :=
  ⟨⟨restartHistory_reached _ _ trivial trivial, ⟨_, rfl, by decide +kernel⟩, by decide +kernel⟩,
    ⟨restartHistory_reached _ _ trivial trivial, ⟨_, rfl, by decide +kernel⟩, by decide +kernel⟩⟩

/-- The same task, taken by the sidecar and never answered, is failed at 601. -/
theorem unanswered_restart_ends :
    (restartHistory (clockEnv none (.error .notFound)) (.ok (nodeIn .running))).stored.phase
        = .complete ∨
      (restartHistory (clockEnv none (.error .notFound)) (.ok (nodeIn .running))).stored.phase
        = .failed := by
  refine late_task_ends (clockEnv none (.error .notFound)) samplePlatform
    (restartHistory_reached _ (.ok (nodeIn .running)) ?_ ?_) List.mem_cons_self rfl rfl
    (by decide +kernel) (by decide +kernel)
  · rintro ⟨execution, carried, -⟩
    cases carried
  · refine fun _ => ⟨?_, ?_⟩
    · rintro node found
      cases found
      exact .inl rfl
    · rintro node execution task ⟨found, -, carried, type, params, built, rfl⟩ -
      cases found
      cases carried
      cases built
      exact ⟨rfl, by decide +kernel, rfl⟩

def unreadVisit : TaskVisit Nat := visitAt 0 (.error (.other "etcdserver: request timed out")) restartTask

/-- One failed read of the target latches the task Failed, with no other cause. -/
theorem unread_target_fails_task :
    TaskHistory.Reached (clockEnv none (.error .notFound)) samplePlatform (fun _ => True)
        ⟨unreadVisit.next (clockEnv none (.error .notFound)) samplePlatform, [unreadVisit]⟩ ∧
      unreadVisit.read.phase ≠ .failed ∧
      (unreadVisit.next (clockEnv none (.error .notFound)) samplePlatform).phase = .failed ∧
      ¬ unreadVisit.FailureCause (clockEnv none (.error .notFound)) samplePlatform := by
  refine ⟨.next (.start (s := ⟨restartTask, []⟩) ⟨rfl, rfl, rfl⟩) (.reconcile _ _ rfl trivial),
    by decide, by decide +kernel, ?_⟩
  have lost {node : SeiNode} : unreadVisit.target ≠ .ok node := by simp [unreadVisit, visitAt]
  intro cause
  cases cause with
  | targetNotFound missing => cases missing
  | phaseWait _ found => exact lost found
  | budget late =>
    obtain ⟨_, carried, _⟩ := late
    cases carried
  | params target found _ _ invalid =>
    cases target with
    | none => cases invalid
    | some node => exact lost (found node rfl)
  | undecodable _ _ _ _ drives | reported _ _ _ _ drives | imageTargetNotFound _ _ _ drives
  | refused _ _ _ _ _ drives => exact lost drives.found

/-- The sidecar reports that the restart failed. -/
theorem reported_failure_is_cause :
    (restartVisit (clockEnv none (.ok ⟨.failed, some "seid did not stop"⟩))
      (.ok (nodeIn .running))).FailureCause
        (clockEnv none (.ok ⟨.failed, some "seid did not stop"⟩)) samplePlatform :=
  task_fails_for_cause (clockEnv none (.ok ⟨.failed, some "seid did not stop"⟩)) samplePlatform
    (restartHistory_reached _ (.ok (nodeIn .running)) (fun _ unread => by cases unread)
      (fun _ unread => by cases unread))
    List.mem_cons_self (by decide +kernel) (by decide +kernel)

end SeiController
