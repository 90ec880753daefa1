import SeiController.Planner.Executor

/-!
# What driving one task can do

`TaskAdvance` lists the outcomes of `advanceTask`: which calls were made, what they
logged, what became of the task.  Every fact about a plan's execution goes through
this list, so a change to one execution is a change to one of its cases.
-/

set_option autoImplicit false

namespace SeiController

/-- How a polled answer moves the task. -/
inductive Polled (task : PlannedTask) :
    Except GetTaskError TaskResult → PlannedTask → Option String → Prop
  | unanswered (err : GetTaskError) : Polled task (.error err) task none
  | running (err : Option String) : Polled task (.ok ⟨.running, err⟩) task none
  | completed (err : Option String) :
      Polled task (.ok ⟨.completed, err⟩) { task with status := .complete } none
  | retried (err : Option String) (budget : task.retryCount < task.maxRetries) :
      Polled task (.ok ⟨.failed, err⟩) task.retry none
  | exhausted (err : Option String) (message : String)
      (spent : ¬(0 < task.maxRetries ∧ task.retryCount < task.maxRetries)) :
      Polled task (.ok ⟨.failed, err⟩) task (some message)

/-- How a controller-side outcome moves the task; `stamped` is the task with its
submission time. -/
inductive Ran (task stamped : PlannedTask) :
    ControllerOutcome → PlannedTask → Option String → Prop
  | complete : Ran task stamped .complete { stamped with status := .complete } none
  | waiting : Ran task stamped .waiting stamped none
  /-- `Status` saw what `Execute` left to be waited for. -/
  | seen : Ran task stamped .waiting { stamped with status := .complete } none
  | retried (err : String) (budget : stamped.retryCount < stamped.maxRetries) :
      Ran task stamped (.failed err) stamped.retry none
  | exhausted (err message : String)
      (spent : ¬(0 < stamped.maxRetries ∧ stamped.retryCount < stamped.maxRetries)) :
      Ran task stamped (.failed err) stamped (some message)
  | transient (err : String) : Ran task stamped (.transient err) task none
  | terminal (err : String) : Ran task stamped (.terminal err) task (some err)

/-- What a controller-side task does to the in-memory node. -/
def NodeEffect (platform : Platform) (type : TaskType) (params : TaskParams)
    (before after : SeiNode) : Prop :=
  match type with
  | .recordDataReset => after = recordDataReset params.generation before
  | .recordMaintenanceHold => after = recordMaintenanceHold params.hold before
  | .observeImage => after = before ∨ after = stampRollout platform before
  | _ => after = before

/-- The sidecar request a task type stands for, and whether its outcome is polled. -/
def sidecarRequest (type : TaskType) : Option (TaskType × Bool) :=
  match registry type with
  | some (.sidecar fireAndForget) => some (type, fireAndForget)
  | some (.startGuarded _) => some (.markReady, true)
  | _ => none

def GuardPasses (type : TaskType) (node : SeiNode) : Prop :=
  ∀ guard, registry type = some (.startGuarded guard) → guard.blocked node = none

theorem sidecarRequest_sidecar {type : TaskType} {forget : Bool}
    (registered : registry type = some (.sidecar forget)) :
    sidecarRequest type = some (type, forget) := by
  simp [sidecarRequest, registered]

theorem sidecarRequest_startGuarded {type : TaskType} {guard : StartGuard}
    (registered : registry type = some (.startGuarded guard)) :
    sidecarRequest type = some (.markReady, true) := by
  simp [sidecarRequest, registered]

inductive Deserialized (task : PlannedTask) : TaskExecution → Prop
  | sidecar (forget : Bool) (registered : registry task.type = some (.sidecar forget)) :
      Deserialized task (.sidecar (deserializeSidecar task task.type forget))
  | startGuarded (guard : StartGuard)
      (registered : registry task.type = some (.startGuarded guard)) :
      Deserialized task (.startGuarded (deserializeSidecar task .markReady true) guard none)
  | controller (registered : registry task.type = some .controller) :
      Deserialized task (.controller ⟨task.type, task.params, .running, none⟩)

variable {task : PlannedTask}

theorem deserialize_ok {exec : TaskExecution} (decoded : deserialize task = .ok exec) :
    Deserialized task exec := by
  unfold deserialize at decoded
  split at decoded
  · cases decoded
  · cases decoded
  · cases decoded
  next forget registered _ =>
    cases decoded
    exact .sidecar forget registered
  next guard registered _ =>
    cases decoded
    exact .startGuarded guard registered
  next registered _ =>
    split at decoded
    · cases decoded
    · cases decoded
      exact .controller registered

section

variable {ε : Type} (env : Env ε) (platform : Platform)

inductive TaskAdvance (origin : Origin) (task : PlannedTask) (ctx : Ctx ε) :
    PlannedTask → Ctx ε → Option String → Prop
  | undecodable (message : String) : TaskAdvance origin task ctx task ctx (some message)
  | refused (guard : StartGuard) (reason : String)
      (guarded : registry task.type = some (.startGuarded guard))
      (blocked : guard.blocked ctx.node = some reason) :
      TaskAdvance origin task ctx task ctx (some (startGuardRefusal ++ ": " ++ reason))
  | unreached (state : ε) : TaskAdvance origin task ctx task { ctx with env := state } none
  | rejected (state : ε) (request : TaskType) (forget : Bool)
      (sidecar : sidecarRequest task.type = some (request, forget))
      (passes : GuardPasses task.type ctx.node) :
      TaskAdvance origin task ctx task
        { ctx with env := state, log := .submitted origin task ctx.node false :: ctx.log } none
  | forgotten (state : ε) (request : TaskType)
      (sidecar : sidecarRequest task.type = some (request, true))
      (passes : GuardPasses task.type ctx.node) (now : Nat) :
      TaskAdvance origin task ctx { task.stampSubmitted now with status := .complete }
        { ctx with env := state, log := .submitted origin task ctx.node true :: ctx.log } none
  | submitted (state : ε) (request : TaskType) (now : Nat)
      (sidecar : sidecarRequest task.type = some (request, false))
      (answer : Except GetTaskError TaskResult) (next : PlannedTask) (failure : Option String)
      (polled : Polled (task.stampSubmitted now) answer next failure) :
      TaskAdvance origin task ctx next
        { ctx with
          env := state
          log := .observed origin (task.stampSubmitted now) answer ::
            .submitted origin task ctx.node true :: ctx.log } failure
  | observed (state : ε) (request : TaskType) (forget : Bool)
      (sidecar : sidecarRequest task.type = some (request, forget))
      (resumed : task.status ≠ .pending)
      (answer : Except GetTaskError TaskResult) (next : PlannedTask) (failure : Option String)
      (polled : Polled task answer next failure) :
      TaskAdvance origin task ctx next
        { ctx with env := state, log := .observed origin task answer :: ctx.log } failure
  | ran (controller : registry task.type = some .controller) (now : Nat)
      (after : Ctx ε) (outcome : ControllerOutcome)
      (run : runController env platform ⟨task.type, task.params, .running, none⟩ ctx =
        (after, outcome)) (state : ε)
      (next : PlannedTask) (failure : Option String)
      (moved : Ran task (task.stampSubmitted now) outcome next failure) :
      TaskAdvance origin task ctx next
        { after with env := state, log := .executed origin task ctx.node after.node :: after.log }
        failure
  | seen (controller : registry task.type = some .controller) (state : ε)
      (resumed : task.status ≠ .pending) :
      TaskAdvance origin task ctx { task with status := .complete } { ctx with env := state } none

/-! ## The controller-side calls -/

/-- The claim is the one the node made for itself: it has the default name, the node
controls it, and the node imports no other. -/
structure SeiNode.OwnsClaim (node : SeiNode) (claim : PersistentVolumeClaim) : Prop where
  unimported : node.importedPVCName = none
  named : claim.name = "data-" ++ node.name
  controlled : claim.controlledBy node = true

theorem dataPVCName_of_unimported {node : SeiNode} (unimported : node.importedPVCName = none) :
    dataPVCName node = "data-" ++ node.name := by
  rw [dataPVCName, unimported]
  rfl

/-- The log is as it was, or the node's own claim has been created. -/
def Ctx.MayCreate (ctx after : Ctx ε) : Prop :=
  after.log = ctx.log ∨
    ∃ claim, ctx.node.OwnsClaim claim ∧ after.log = .claimCreated ctx.node claim :: ctx.log

theorem createDataPVC_frame {ctx : Ctx ε} (unimported : ctx.node.importedPVCName = none) :
    (createDataPVC env ctx).1.node = ctx.node ∧ ctx.MayCreate (createDataPVC env ctx).1 := by
  unfold createDataPVC
  repeat' split
  all_goals first
    | exact ⟨rfl, .inl rfl⟩
    | exact ⟨rfl, .inr ⟨_, ⟨unimported, dataPVCName_of_unimported unimported,
        beq_self_eq_true _⟩, rfl⟩⟩

theorem ensureDataPVC_frame (ctx : Ctx ε) :
    (ensureDataPVC env ctx).1.node = ctx.node ∧ ctx.MayCreate (ensureDataPVC env ctx).1 := by
  unfold ensureDataPVC
  split
  next unimported => exact createDataPVC_frame env unimported
  · split <;> exact ⟨rfl, .inl rfl⟩

theorem observeImage_frame (ctx : Ctx ε) :
    ((observeImage env platform ctx).1.node = ctx.node ∨
        (observeImage env platform ctx).1.node = stampRollout platform ctx.node) ∧
      (observeImage env platform ctx).1.log = ctx.log := by
  unfold observeImage
  split
  · exact ⟨.inl rfl, rfl⟩
  · exact ⟨.inl rfl, rfl⟩
  · split
    · exact ⟨.inr rfl, rfl⟩
    · exact ⟨.inl rfl, rfl⟩

theorem updateNodeImage_frame (params : UpdateNodeImageParams) (ctx : Ctx ε) :
    (updateNodeImage env params ctx).1
      = { ctx with env := (updateNodeImage env params ctx).1.env } := by
  unfold updateNodeImage
  repeat' split
  all_goals rfl

theorem runController_frame (exec : ControllerExecution) (ctx : Ctx ε) :
    NodeEffect platform exec.type exec.params ctx.node (runController env platform exec ctx).1.node ∧
      ctx.MayCreate (runController env platform exec ctx).1 := by
  obtain ⟨type, params, status, err⟩ := exec
  cases type with
  | recordDataReset | recordMaintenanceHold => exact ⟨rfl, .inl rfl⟩
  | observeImage =>
    have frame := observeImage_frame env platform ctx
    exact ⟨frame.1, .inl frame.2⟩
  | ensureDataPVC => exact ensureDataPVC_frame env ctx
  | updateNodeImage =>
    simp only [runController]
    rw [updateNodeImage_frame env params.imageParams ctx]
    exact ⟨rfl, .inl rfl⟩
  | _ => exact ⟨rfl, .inl rfl⟩

theorem ControllerExecution.pollStatus_cases (exec : ControllerExecution) (ctx : Ctx ε) :
    ∃ state done, exec.pollStatus env ctx = (done, { ctx with env := state }, done.status) ∧
      (done = exec ∨ exec.status = .running ∧ done = { exec with status := .complete }) := by
  unfold pollStatus
  split
  next polled =>
    split
    next state _ _ => exact ⟨state, exec, by rw [polled.2], .inl rfl⟩
    next state target _ =>
      split
      · exact ⟨state, _, rfl, .inr ⟨polled.2, rfl⟩⟩
      · exact ⟨state, exec, by rw [polled.2], .inl rfl⟩
  · exact ⟨ctx.env, exec, rfl, .inl rfl⟩

/-! ## The sidecar calls -/

theorem SidecarExecution.ensureClient_cases (exec : SidecarExecution) (ctx : Ctx ε) :
    (∃ state err, exec.ensureClient env ctx = (exec, { ctx with env := state }, some err)) ∨
      ∃ state, exec.ensureClient env ctx =
        ({ exec with client := true }, { ctx with env := state }, none) := by
  unfold ensureClient
  by_cases built : exec.client = true
  · refine .inr ⟨ctx.env, ?_⟩
    simp only [built, if_true]
    rw [← built]
  · rw [if_neg built]
    split
    next state err _ => exact .inl ⟨state, err, rfl⟩
    next state _ => exact .inr ⟨state, rfl⟩

theorem SidecarExecution.execute_cases (origin : Origin) (task : PlannedTask)
    (exec : SidecarExecution) (ctx : Ctx ε) :
    (∃ stopped state err, exec.execute env origin task ctx =
        (stopped, { ctx with env := state }, some (.transient err))) ∨
      (∃ stopped state err, exec.execute env origin task ctx =
        (stopped, { ctx with env := state, log := .submitted origin task ctx.node false :: ctx.log },
          some (.transient err))) ∨
      ∃ accepted state, exec.execute env origin task ctx =
        (accepted,
          { ctx with env := state, log := .submitted origin task ctx.node true :: ctx.log }, none) ∧
        accepted.client = true ∧
        accepted.status = if exec.fireAndForget then .complete else .running := by
  unfold execute
  rcases exec.ensureClient_cases env ctx with ⟨state, err, built⟩ | ⟨state, built⟩
  · rw [built]
    exact .inl ⟨exec, state, _, rfl⟩
  · rw [built]
    dsimp only
    split
    · exact .inl ⟨_, state, _, rfl⟩
    · split
      next later err _ => exact .inr (.inl ⟨_, later, _, rfl⟩)
      next later _ => exact .inr (.inr ⟨_, later, rfl, rfl, rfl⟩)

theorem SidecarExecution.pollStatus_cases (origin : Origin) (task : PlannedTask)
    (exec : SidecarExecution) (ctx : Ctx ε) (running : exec.status = .running) :
    (exec.client = false ∧ ∃ state, exec.pollStatus env origin task ctx =
        (exec, { ctx with env := state }, .running)) ∨
      ∃ state answer, exec.pollStatus env origin task ctx =
        (({ exec with client := true }.answered answer).1,
          { ctx with env := state, log := .observed origin task answer :: ctx.log },
          ({ exec with client := true }.answered answer).2) := by
  obtain ⟨id, requestType, params, fireAndForget, client, status, err⟩ := exec
  subst running
  unfold pollStatus
  dsimp only
  rcases ensureClient_cases env ⟨id, requestType, params, fireAndForget, client, .running, err⟩ ctx
    with ⟨state, message, built⟩ | ⟨state, built⟩
  · rw [built]
    refine .inl ⟨?_, state, rfl⟩
    cases client with
    | false => rfl
    | true => simp [ensureClient] at built
  · rw [built]
    exact .inr ⟨_, _, rfl⟩

theorem polled_settle (exec : SidecarExecution) (task : PlannedTask)
    (answer : Except GetTaskError TaskResult) (wrap : SidecarExecution → TaskExecution) :
    Polled task answer
      (settle (wrap (exec.answered answer).1) task (exec.answered answer).2).1
      (settle (wrap (exec.answered answer).1) task (exec.answered answer).2).2 := by
  match answer with
  | .error err => exact .unanswered err
  | .ok ⟨.running, err⟩ => exact .running err
  | .ok ⟨.completed, err⟩ => exact .completed err
  | .ok ⟨.failed, err⟩ =>
    simp only [SidecarExecution.answered, settle]
    split
    next budget => exact .retried err budget.2
    next spent => exact .exhausted err _ spent

inductive PollsAs (exec : SidecarExecution) : TaskExecution → Prop
  | sidecar : PollsAs exec (.sidecar exec)
  | startGuarded (guard : StartGuard) : PollsAs exec (.startGuarded exec guard none)

theorem applyStatus_running (origin : Origin) {exec : SidecarExecution} {wrapped : TaskExecution}
    (polls : PollsAs exec wrapped) (task : PlannedTask) (ctx : Ctx ε)
    (running : exec.status = .running) :
    (exec.client = false ∧ ∃ state, applyStatus env origin wrapped task ctx =
        (task, { ctx with env := state }, none)) ∨
      ∃ state answer next failure, applyStatus env origin wrapped task ctx =
        (next, { ctx with env := state, log := .observed origin task answer :: ctx.log }, failure) ∧
        Polled task answer next failure := by
  rcases exec.pollStatus_cases env origin task ctx running with
    ⟨client, state, polled⟩ | ⟨state, answer, polled⟩
  · refine .inl ⟨client, state, ?_⟩
    unfold applyStatus TaskExecution.pollStatus
    cases polls <;> (simp only [polled]; rfl)
  · have settled := polled_settle { exec with client := true } task answer
    unfold applyStatus TaskExecution.pollStatus
    cases polls with
    | sidecar => exact .inr ⟨state, answer, _, _, by simp only [polled], settled .sidecar⟩
    | startGuarded guard =>
      exact .inr ⟨state, answer, _, _, by simp only [polled],
        settled fun exec => .startGuarded exec guard none⟩

theorem applyStatus_complete (origin : Origin) {exec : SidecarExecution} {wrapped : TaskExecution}
    (polls : PollsAs exec wrapped) (task : PlannedTask) (ctx : Ctx ε)
    (complete : exec.status = .complete) :
    applyStatus env origin wrapped task ctx = ({ task with status := .complete }, ctx, none) := by
  obtain ⟨id, requestType, params, fireAndForget, client, status, err⟩ := exec
  subst complete
  cases polls <;> rfl

theorem advance_submission {origin : Origin} {request : TaskType} {forget : Bool}
    (sidecar : sidecarRequest task.type = some (request, forget)) {ctx : Ctx ε}
    (passes : GuardPasses task.type ctx.node) {wrap : SidecarExecution → TaskExecution}
    (polls : ∀ exec, PollsAs exec (wrap exec)) {exec : SidecarExecution} {next : Ctx ε}
    {failure : Option ExecuteError}
    (executed : (deserializeSidecar task request forget).execute env origin task ctx =
      (exec, next, failure))
    {result : PlannedTask × Ctx ε × Option String}
    (after : afterExecute env origin task (wrap exec, next, failure) = result) :
    TaskAdvance env platform origin task ctx result.1 result.2.1 result.2.2 := by
  subst after
  rcases (deserializeSidecar task request forget).execute_cases env origin task ctx with
    ⟨stopped, state, err, same⟩ | ⟨stopped, state, err, same⟩ | ⟨accepted, state, same, built, status⟩
  · cases executed.symm.trans same
    exact .unreached state
  · cases executed.symm.trans same
    exact .rejected state request forget sidecar passes
  · cases executed.symm.trans same
    simp only [afterExecute]
    cases forget with
    | true =>
      rw [applyStatus_complete env origin (polls exec) _ _ status]
      exact .forgotten state request sidecar passes _
    | false =>
      rcases applyStatus_running env origin (polls exec) (task.stampSubmitted (env.now state))
        { ctx with env := state, log := .submitted origin task ctx.node true :: ctx.log } status
        with ⟨unbuilt, _⟩ | ⟨later, answer, next, failure, applied, polled⟩
      · rw [built] at unbuilt
        cases unbuilt
      · rw [applied]
        exact .submitted later request _ sidecar answer next failure polled

theorem advance_resumed {origin : Origin} {request : TaskType} {forget : Bool}
    (sidecar : sidecarRequest task.type = some (request, forget)) (resumed : task.status ≠ .pending)
    {wrapped : TaskExecution} (polls : PollsAs (deserializeSidecar task request forget) wrapped)
    (ctx : Ctx ε) :
    TaskAdvance env platform origin task ctx (applyStatus env origin wrapped task ctx).1
      (applyStatus env origin wrapped task ctx).2.1 (applyStatus env origin wrapped task ctx).2.2 := by
  rcases applyStatus_running env origin polls task ctx rfl with
    ⟨_, state, applied⟩ | ⟨state, answer, next, failure, applied, polled⟩
  · rw [applied]
    exact .unreached state
  · rw [applied]
    exact .observed state request forget sidecar resumed answer next failure polled

theorem advance_controller {origin : Origin} (ctx : Ctx ε)
    (controller : registry task.type = some .controller)
    {result : PlannedTask × Ctx ε × Option String}
    (after : afterExecute env origin task (TaskExecution.execute env platform origin task ctx
      (.controller ⟨task.type, task.params, .running, none⟩)) = result) :
    TaskAdvance env platform origin task ctx result.1 result.2.1 result.2.2 := by
  subst after
  cases run : runController env platform ⟨task.type, task.params, .running, none⟩ ctx with
  | mk later outcome =>
    have ran (now : Nat) (state : ε) (next : PlannedTask) (failure : Option String)
        (moved : Ran task (task.stampSubmitted now) outcome next failure) :
        TaskAdvance env platform origin task ctx next
          { later with env := state, log := .executed origin task ctx.node later.node :: later.log }
          failure :=
      .ran controller now later outcome run state next failure moved
    simp only [TaskExecution.execute, ControllerExecution.execute, run]
    cases outcome with
    | transient err => exact ran 0 _ _ _ (.transient err)
    | terminal err => exact ran 0 _ _ _ (.terminal err)
    | complete =>
      simp only [afterExecute, applyStatus, TaskExecution.pollStatus, ControllerExecution.pollStatus,
        reduceCtorEq, and_false, if_false, settle]
      exact ran _ _ _ _ .complete
    | failed err =>
      simp only [afterExecute, applyStatus, TaskExecution.pollStatus, ControllerExecution.pollStatus,
        reduceCtorEq, and_false, if_false, settle]
      split
      next budget => exact ran _ _ _ _ (.retried err budget.2)
      next spent => exact ran _ _ _ _ (.exhausted err _ spent)
    | waiting =>
      simp only [afterExecute, applyStatus, TaskExecution.pollStatus]
      obtain ⟨state, done, polled, same | ⟨-, same⟩⟩ :=
        ControllerExecution.pollStatus_cases env ⟨task.type, task.params, .running, none⟩
          { later with log := .executed origin task ctx.node later.node :: later.log }
      · rw [polled, same]
        exact ran _ _ _ _ .waiting
      · rw [polled, same]
        exact ran _ _ _ _ .seen

theorem advanceTask_advance (origin : Origin) (task : PlannedTask) (ctx : Ctx ε) :
    TaskAdvance env platform origin task ctx (advanceTask env platform origin task ctx).1
      (advanceTask env platform origin task ctx).2.1
      (advanceTask env platform origin task ctx).2.2 := by
  cases decoded : deserialize task with
  | error err =>
    simp only [advanceTask, decoded]
    exact .undecodable err
  | ok exec =>
    by_cases pending : task.status = .pending
    · have submits : needsSubmission task = true := by simp [needsSubmission, pending]
      simp only [advanceTask, decoded, submits, if_true]
      cases deserialize_ok decoded with
      | sidecar forget registered =>
        have sidecar := sidecarRequest_sidecar registered
        have passes : GuardPasses task.type ctx.node := by simp [GuardPasses, registered]
        exact advance_submission env platform sidecar passes (fun _ => .sidecar) rfl rfl
      | startGuarded guard registered =>
        have sidecar := sidecarRequest_startGuarded registered
        simp only [TaskExecution.execute]
        cases blocked : guard.blocked ctx.node with
        | some reason => exact .refused guard reason registered blocked
        | none =>
          have passes : GuardPasses task.type ctx.node := by simp [GuardPasses, registered, blocked]
          exact advance_submission env platform sidecar passes (fun _ => .startGuarded guard) rfl rfl
      | controller registered => exact advance_controller env platform ctx registered rfl
    · have resumes : needsSubmission task = false := by simp [needsSubmission, pending]
      simp only [advanceTask, decoded, resumes]
      cases deserialize_ok decoded with
      | sidecar forget registered =>
        exact advance_resumed env platform (sidecarRequest_sidecar registered) pending .sidecar ctx
      | startGuarded guard registered =>
        exact advance_resumed env platform (sidecarRequest_startGuarded registered) pending
          (.startGuarded guard) ctx
      | controller registered =>
        simp only [applyStatus, TaskExecution.pollStatus]
        obtain ⟨state, done, polled, same | ⟨-, same⟩⟩ :=
          ControllerExecution.pollStatus_cases env ⟨task.type, task.params, .running, none⟩ ctx
        · rw [polled, same]
          exact .unreached state
        · rw [polled, same]
          exact .seen registered state pending

/-! ## The node -/

variable {env platform} in
/-- A task changes nothing but the node's status. -/
theorem NodeEffect.status {type : TaskType} {params : TaskParams} {before after : SeiNode}
    (effect : NodeEffect platform type params before after) :
    ∃ status, after = { before with status } := by
  unfold NodeEffect at effect
  split at effect
  · subst effect
    unfold recordDataReset
    split
    · exact ⟨_, rfl⟩
    · exact ⟨before.status, rfl⟩
  · exact ⟨_, effect⟩
  · rcases effect with rfl | rfl
    · exact ⟨after.status, rfl⟩
    · exact ⟨_, rfl⟩
  · exact ⟨before.status, effect⟩

theorem TaskExecution.execute_status (origin : Origin) (task : PlannedTask) (exec : TaskExecution)
    (ctx : Ctx ε) :
    ∃ status, (exec.execute env platform origin task ctx).2.1.node = { ctx.node with status } := by
  have sent (exec : SidecarExecution) : (exec.execute env origin task ctx).2.1.node = ctx.node := by
    rcases SidecarExecution.execute_cases env origin task exec ctx with
      ⟨_, state, err, ran⟩ | ⟨_, state, err, ran⟩ | ⟨_, state, ran, -, -⟩
    all_goals rw [ran]
  cases exec with
  | sidecar exec => exact ⟨ctx.node.status, sent exec⟩
  | startGuarded exec guard err =>
    unfold TaskExecution.execute
    dsimp only
    split
    · exact ⟨ctx.node.status, rfl⟩
    · exact ⟨ctx.node.status, sent exec⟩
  | controller exec =>
    obtain ⟨status, effect⟩ := (runController_frame env platform exec ctx).1.status
    refine ⟨status, ?_⟩
    unfold TaskExecution.execute ControllerExecution.execute
    dsimp only
    generalize runController env platform exec ctx = result at effect ⊢
    obtain ⟨after, outcome⟩ := result
    cases outcome <;> exact effect

variable {env platform} in
theorem TaskAdvance.status {origin : Origin} {task next : PlannedTask} {ctx after : Ctx ε}
    {failure : Option String} (advance : TaskAdvance env platform origin task ctx next after failure) :
    ∃ status, after.node = { ctx.node with status } := by
  cases advance with
  | ran _ _ after _ run =>
    have effect := (runController_frame env platform ⟨task.type, task.params, .running, none⟩ ctx).1
    rw [run] at effect
    exact effect.status
  | _ => exact ⟨ctx.node.status, rfl⟩

end

end SeiController
