import SeiController.Planner.TaskAdvance

/-!
# What the executor does to the world it calls

A property of the hidden state that every call keeps is kept by a whole plan
execution; of the submissions only those the plan's own tasks stand for matter.
-/

set_option autoImplicit false

namespace SeiController

/-- What is known of the calls an execution makes. -/
structure CallScope where
  /-- The node a call is made for. -/
  nodes : SeiNode → Prop
  requests : TaskRequest → Prop
  /-- The controller-side tasks. -/
  types : TaskType → Prop

def CallScope.submitting (requests : TaskRequest → Prop) : CallScope :=
  ⟨fun _ => True, requests, fun _ => True⟩

/-- `P` survives every call the executor makes within the scope. -/
structure EnvClosed {ε : Type} (env : Env ε) (scope : CallScope) (P : ε → Prop) : Prop where
  newUUID : ∀ state, P state → P (env.newUUID state).1
  buildSidecarClient : ∀ state node, scope.nodes node → P state →
    P (env.buildSidecarClient state node).1
  submitTask : ∀ state request, scope.requests request → P state →
    P (env.submitTask state request).1
  getTask : ∀ state id, P state → P (env.getTask state id).1
  getStatefulSet : ∀ state node, scope.types .observeImage → scope.nodes node → P state →
    P (env.getStatefulSet state node).1
  runControllerTask : ∀ state type node, scope.types type → scope.nodes node → P state →
    P (env.runControllerTask state type node).1
  getSeiNode : ∀ state name nameSpace, P state → P (env.getSeiNode state name nameSpace).1
  patchImage : ∀ state node image, scope.types .updateNodeImage → P state →
    P (env.patchImage state node image).1
  validateImport : ∀ state node name, scope.nodes node → P state →
    P (env.validateImport state node name).1
  claimCall : ∀ state claims, P state → P (env.claimCall state claims).1
  stamped : ∀ node status, scope.nodes node → scope.nodes { node with status }

def Requests (requests : TaskRequest → Prop) (task : PlannedTask) : Prop :=
  ∀ type forget, sidecarRequest task.type = some (type, forget) →
    requests ⟨task.id, type, task.params⟩

/-- The calls a task makes stay within the scope. -/
structure CallScope.Allows (scope : CallScope) (task : PlannedTask) : Prop where
  request : Requests scope.requests task
  type : registry task.type = some .controller → scope.types task.type

variable {task : PlannedTask}

theorem Requests.allows {requests : TaskRequest → Prop} (requested : Requests requests task) :
    (CallScope.submitting requests).Allows task :=
  ⟨requested, fun _ => trivial⟩

section

variable {ε : Type} {env : Env ε} {scope : CallScope} {P : ε → Prop}

namespace EnvClosed

theorem ensureClient (closed : EnvClosed env scope P) (exec : SidecarExecution) (ctx : Ctx ε)
    (known : scope.nodes ctx.node) (holds : P ctx.env) : P (exec.ensureClient env ctx).2.1.env := by
  have kept := closed.buildSidecarClient ctx.env ctx.node known holds
  unfold SidecarExecution.ensureClient
  split
  · exact holds
  · split
    next answer => rw [answer] at kept; exact kept
    next answer => rw [answer] at kept; exact kept

theorem execute (closed : EnvClosed env scope P) {origin : Origin} (exec : SidecarExecution)
    (requested : scope.requests ⟨exec.id, exec.requestType, exec.params⟩) (ctx : Ctx ε)
    (known : scope.nodes ctx.node) (holds : P ctx.env) :
    P (exec.execute env origin task ctx).2.1.env := by
  have connected := closed.ensureClient exec ctx known holds
  unfold SidecarExecution.execute
  rcases exec.ensureClient_cases env ctx with ⟨state, err, built⟩ | ⟨state, built⟩
  · rw [built] at connected ⊢
    exact connected
  · rw [built] at connected ⊢
    dsimp only at connected ⊢
    have submitted := closed.submitTask state _ requested connected
    split
    · exact connected
    · split
      next answer => rw [answer] at submitted; exact submitted
      next answer => rw [answer] at submitted; exact submitted

theorem pollStatus (closed : EnvClosed env scope P) {origin : Origin} (exec : SidecarExecution)
    (ctx : Ctx ε) (known : scope.nodes ctx.node) (holds : P ctx.env) :
    P (exec.pollStatus env origin task ctx).2.1.env := by
  have connected := closed.ensureClient exec ctx known holds
  unfold SidecarExecution.pollStatus
  split
  · exact holds
  · exact holds
  · rcases exec.ensureClient_cases env ctx with ⟨state, err, built⟩ | ⟨state, built⟩
    · rw [built] at connected ⊢
      exact connected
    · rw [built] at connected ⊢
      exact closed.getTask state exec.id connected

theorem applyStatus (closed : EnvClosed env scope P) {origin : Origin} (exec : TaskExecution)
    (task : PlannedTask) (ctx : Ctx ε) (known : scope.nodes ctx.node) (holds : P ctx.env) :
    P (applyStatus env origin exec task ctx).2.1.env := by
  unfold SeiController.applyStatus TaskExecution.pollStatus
  cases exec with
  | sidecar exec => exact closed.pollStatus exec ctx known holds
  | startGuarded exec guard err =>
    cases err with
    | some err => exact holds
    | none => exact closed.pollStatus exec ctx known holds
  | controller exec =>
    have read := closed.getSeiNode ctx.env exec.params.imageParams.nodeName
      exec.params.imageParams.nameSpace holds
    simp only [ControllerExecution.pollStatus]
    split
    · split
      next answer => rw [answer] at read; exact read
      next answer =>
        rw [answer] at read
        split <;> exact read
    · exact holds

theorem createDataPVC (closed : EnvClosed env scope P) (ctx : Ctx ε) (holds : P ctx.env) :
    P (createDataPVC env ctx).1.env := by
  have looked := closed.claimCall ctx.env ctx.claims holds
  unfold SeiController.createDataPVC
  split
  next answer => rw [answer] at looked; exact looked
  next state claims answer =>
    rw [answer] at looked
    split
    · split <;> exact looked
    · split
      · exact looked
      · have written := closed.claimCall state claims looked
        split
        next refused => rw [refused] at written; exact written
        next later _ served =>
          rw [served] at written
          split
          · exact written
          · exact closed.newUUID later written

theorem ensureDataPVC (closed : EnvClosed env scope P) (ctx : Ctx ε)
    (known : scope.nodes ctx.node) (holds : P ctx.env) : P (ensureDataPVC env ctx).1.env := by
  unfold SeiController.ensureDataPVC
  split
  · exact closed.createDataPVC ctx holds
  next name _ =>
    have validated := closed.validateImport ctx.env ctx.node name known holds
    split
    all_goals
      next answer => rw [answer] at validated; exact validated

theorem observeImage (closed : EnvClosed env scope P) (platform : Platform) (ctx : Ctx ε)
    (allowed : scope.types .observeImage) (known : scope.nodes ctx.node) (holds : P ctx.env) :
    P (observeImage env platform ctx).1.env := by
  have read := closed.getStatefulSet ctx.env ctx.node allowed known holds
  unfold SeiController.observeImage
  split
  next answer => rw [answer] at read; exact read
  next answer => rw [answer] at read; exact read
  next answer =>
    rw [answer] at read
    split <;> exact read

theorem updateNodeImage (closed : EnvClosed env scope P) (params : UpdateNodeImageParams)
    (ctx : Ctx ε) (allowed : scope.types .updateNodeImage) (holds : P ctx.env) :
    P (updateNodeImage env params ctx).1.env := by
  have read := closed.getSeiNode ctx.env params.nodeName params.nameSpace holds
  unfold SeiController.updateNodeImage
  split
  next answer => rw [answer] at read; exact read
  next answer => rw [answer] at read; exact read
  next state target answer =>
    rw [answer] at read
    split
    · exact read
    · have patched := closed.patchImage state target params.image allowed read
      split
      next answer => rw [answer] at patched; exact patched
      next answer => rw [answer] at patched; exact patched

theorem runController (closed : EnvClosed env scope P) (platform : Platform)
    (exec : ControllerExecution) (allowed : scope.types exec.type) (ctx : Ctx ε)
    (known : scope.nodes ctx.node) (holds : P ctx.env) :
    P (runController env platform exec ctx).1.env := by
  obtain ⟨type, params, status, err⟩ := exec
  cases type with
  | recordDataReset | recordMaintenanceHold => exact holds
  | observeImage => exact closed.observeImage platform ctx allowed known holds
  | ensureDataPVC => exact closed.ensureDataPVC ctx known holds
  | updateNodeImage => exact closed.updateNodeImage _ ctx allowed holds
  | _ => exact closed.runControllerTask ctx.env _ ctx.node allowed known holds

theorem controllerExecute (closed : EnvClosed env scope P) (platform : Platform) {origin : Origin}
    (exec : ControllerExecution) (allowed : scope.types exec.type) (ctx : Ctx ε)
    (known : scope.nodes ctx.node) (holds : P ctx.env) :
    P (exec.execute env platform origin task ctx).2.1.env := by
  have ran := closed.runController platform exec allowed ctx known holds
  unfold ControllerExecution.execute
  split
  next answer =>
    rw [answer] at ran
    split <;> exact ran

theorem advanceTask (closed : EnvClosed env scope P) (platform : Platform) (origin : Origin)
    {task : PlannedTask} (allowed : scope.Allows task) (ctx : Ctx ε) (known : scope.nodes ctx.node)
    (holds : P ctx.env) :
    P (advanceTask env platform origin task ctx).2.1.env := by
  unfold SeiController.advanceTask
  cases decoded : deserialize task with
  | error err => exact holds
  | ok exec =>
    dsimp only
    split
    · have executed : P (exec.execute env platform origin task ctx).2.1.env := by
        cases deserialize_ok decoded with
        | sidecar forget registered =>
          exact closed.execute _ (allowed.request _ _ (sidecarRequest_sidecar registered)) ctx
            known holds
        | startGuarded guard registered =>
          unfold TaskExecution.execute
          dsimp only
          split
          · exact holds
          · exact closed.execute _
              (allowed.request _ _ (sidecarRequest_startGuarded registered)) ctx known holds
        | controller registered =>
          exact closed.controllerExecute platform _ (allowed.type registered) ctx known holds
      obtain ⟨status, restated⟩ := exec.execute_status env platform origin task ctx
      generalize exec.execute env platform origin task ctx = result at executed restated
      obtain ⟨ended, after, failure⟩ := result
      have still : scope.nodes after.node := by
        rw [show after.node = _ from restated]
        exact closed.stamped ctx.node status known
      cases failure with
      | none => exact closed.applyStatus ended _ after still executed
      | some failure => cases failure <;> exact executed
    · exact closed.applyStatus exec task ctx known holds

theorem executeTasks (closed : EnvClosed env scope P) (platform : Platform) (owner : PlanOwner)
    (origin : TaskPlan → Origin) (plan : TaskPlan) (rest : List PlannedTask) :
    ∀ (done : List PlannedTask) (ctx : Ctx ε), (∀ task ∈ rest, scope.Allows task) →
      scope.nodes ctx.node → P ctx.env →
        P (executeTasks env platform owner origin plan done rest ctx).2.env := by
  induction rest with
  | nil => exact fun _ _ _ _ holds => holds
  | cons task rest ih =>
    intro done ctx allowed known holds
    have later : ∀ other ∈ rest, scope.Allows other :=
      fun other member => allowed other (List.mem_cons_of_mem task member)
    unfold SeiController.executeTasks
    split
    · exact ih _ ctx later known holds
    · have driven := closed.advanceTask platform
        (origin { plan with tasks := done ++ task :: rest })
        (allowed task List.mem_cons_self) ctx known holds
      obtain ⟨status, restated⟩ := (advanceTask_advance env platform
        (origin { plan with tasks := done ++ task :: rest }) task ctx).status
      split
      next answer => rw [answer] at driven; exact driven
      next next after answer =>
        rw [answer] at driven restated
        have still : scope.nodes after.node := by
          rw [show after.node = _ from restated]
          exact closed.stamped ctx.node status known
        split
        · exact ih _ _ later still driven
        · exact driven

theorem executePlan (closed : EnvClosed env scope P) (platform : Platform) (owner : PlanOwner)
    (origin : TaskPlan → Origin) (plan : TaskPlan)
    (allowed : ∀ task ∈ plan.tasks, scope.Allows task) (ctx : Ctx ε)
    (known : scope.nodes ctx.node) (holds : P ctx.env) :
    P (executePlan env platform owner origin plan ctx).2.env := by
  unfold SeiController.executePlan
  split
  · exact holds
  · exact holds
  · exact closed.executeTasks platform owner origin plan plan.tasks [] ctx allowed known holds

end EnvClosed

end

end SeiController
