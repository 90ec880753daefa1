import SeiController.Controller.NodeTask
import SeiController.Planner.NodeRun

/-!
# What a SeiNodeTask can do

A SeiNodeTask drives one task against its target through the executions of the plans, so
what it logs is what driving that one task logs.
-/

set_option autoImplicit false

namespace SeiController

section

variable {ε : Type} (env : Env ε) (platform : Platform)

/-! ## One execution -/

structure MadeOn (platform : Platform) (origin : Origin) (task : PlannedTask) (node : SeiNode)
    (event : Event) : Prop where
  made : MadeBy platform origin task event
  on : EventOn node event

theorem TaskExecution.execute_log {task : PlannedTask} {exec : TaskExecution}
    (decoded : Deserialized task exec) (origin : Origin) (ctx : Ctx ε) :
    Log.Extends (MadeOn platform origin task ctx.node) ctx.log
      (exec.execute env platform origin task ctx).2.1.log := by
  have sent {request : TaskType} {forget : Bool}
      (sidecar : sidecarRequest task.type = some (request, forget))
      (passes : GuardPasses task.type ctx.node) :
      Log.Extends (MadeOn platform origin task ctx.node) ctx.log
        ((deserializeSidecar task request forget).execute env origin task ctx).2.1.log := by
    have submitted (accepted : Bool) :
        MadeOn platform origin task ctx.node (.submitted origin task ctx.node accepted) :=
      ⟨.submitted _ _ request forget sidecar passes, .submitted _ _ _ _⟩
    rcases (deserializeSidecar task request forget).execute_cases env origin task ctx with
      ⟨stopped, state, err, same⟩ | ⟨stopped, state, err, same⟩ | ⟨accepted, state, same, _⟩
    · rw [same]
      exact .refl _
    · rw [same]
      exact .cons (submitted false) _
    · rw [same]
      exact .cons (submitted true) _
  cases decoded with
  | sidecar forget registered =>
    exact sent (sidecarRequest_sidecar registered) (by simp [GuardPasses, registered])
  | startGuarded guard registered =>
    simp only [execute]
    cases blocked : guard.blocked ctx.node with
    | some reason => exact .refl _
    | none =>
      exact sent (sidecarRequest_startGuarded registered)
        (by simp [GuardPasses, registered, blocked])
  | controller registered =>
    have frame := runController_frame env platform ⟨task.type, task.params, .running, none⟩ ctx
    simp only [execute, ControllerExecution.execute]
    generalize runController env platform ⟨task.type, task.params, .running, none⟩ ctx = result
      at frame
    obtain ⟨after, outcome⟩ := result
    obtain ⟨effect, grown⟩ := frame
    have called : Log.Extends (MadeOn platform origin task ctx.node) ctx.log after.log := by
      rcases grown with same | ⟨claim, owned, same⟩
      · rw [same]
        exact .refl _
      · rw [same]
        exact .cons ⟨.claimCreated _ _ owned, trivial⟩ _
    have ran : MadeOn platform origin task ctx.node
        (.executed origin task ctx.node after.node) :=
      ⟨.executed _ _ registered effect, .executed _ _ _ _⟩
    have total := called.trans (.cons ran after.log)
    cases outcome <;> exact total

theorem TaskExecution.pollStatus_log (exec : TaskExecution) (task : PlannedTask) (origin : Origin)
    (ctx : Ctx ε) :
    Log.Extends (fun event => ∃ answer, event = .observed origin task answer) ctx.log
      (exec.pollStatus env origin task ctx).2.1.log := by
  have polled (exec : SidecarExecution) :
      Log.Extends (fun event => ∃ answer, event = .observed origin task answer) ctx.log
        (exec.pollStatus env origin task ctx).2.1.log := by
    cases status : exec.status with
    | running =>
      rcases exec.pollStatus_cases env origin task ctx status with
        ⟨_, state, same⟩ | ⟨state, answer, same⟩
      · rw [same]
        exact .refl _
      · rw [same]
        exact .cons ⟨answer, rfl⟩ _
    | complete | failed =>
      unfold SidecarExecution.pollStatus
      rw [status]
      exact .refl _
  unfold pollStatus
  split
  · exact polled _
  · exact .refl _
  · exact polled _
  next image =>
    obtain ⟨state, done, same, -⟩ := image.pollStatus_cases env ctx
    rw [same]
    exact .refl _

/-! ## One reconcile -/

def Event.isSubmitted : Event → Bool
  | .submitted .. => true
  | _ => false

structure TaskEvent (platform : Platform) (cr : SeiNodeTask) (target : SeiNode) (event : Event) :
    Prop where
  on : EventOn target event
  made : ∃ execution type params, cr.task = some execution ∧ SeiNodeTask.taskType cr.kind = some type ∧
    MadeBy platform (.nodeTask cr.name) (SeiNodeTask.planned execution type params) event ∧
    (event.isSubmitted = true → execution.status = .pending)

namespace SeiNodeTask

theorem taskParamsForKind_ok {cr : SeiNodeTask} {target : Option SeiNode} {type : TaskType}
    {params : TaskParams} (built : cr.taskParamsForKind target = .ok (type, params)) :
    taskType cr.kind = some type ∧ cr.payloadFor target = some params := by
  unfold taskParamsForKind at built
  split at built
  · cases built
  · cases built
  next wired payload =>
    rw [wired, payload]
    repeat' split at built
    all_goals first
      | cases built; exact ⟨rfl, rfl⟩
      | cases built

theorem applyTaskStatus_log (cr : SeiNodeTask) (execution : SeiNodeTaskExecution)
    (task : PlannedTask) (exec : TaskExecution) (now : Nat) (ctx : Ctx ε) :
    Log.Extends (fun event => ∃ answer, event = .observed (.nodeTask cr.name) task answer) ctx.log
      (cr.applyTaskStatus env execution task exec now ctx).2.log := by
  have polled := exec.pollStatus_log env task (.nodeTask cr.name) ctx
  unfold applyTaskStatus
  generalize exec.pollStatus env (.nodeTask cr.name) task ctx = result at polled
  obtain ⟨exec, after, status⟩ := result
  cases status with
  | complete | failed => exact polled
  | running =>
    dsimp only
    split <;> exact polled

theorem driveTask_log {cr : SeiNodeTask} {execution : SeiNodeTaskExecution}
    (carried : cr.task = some execution) (now : Nat) (ctx : Ctx ε) :
    Log.Extends (TaskEvent platform cr ctx.node) ctx.log
      (cr.driveTask env platform execution now ctx).2.1.log := by
  unfold driveTask
  split
  · exact .refl _
  next type params built =>
    have wired := (taskParamsForKind_ok built).1
    have observed {event : Event}
        (seen : ∃ answer, event = .observed (.nodeTask cr.name) (planned execution type params) answer) :
        TaskEvent platform cr ctx.node event := by
      obtain ⟨answer, rfl⟩ := seen
      exact ⟨trivial, execution, type, params, carried, wired, .observed _ (.refl _) answer, nofun⟩
    dsimp only
    split
    · exact .refl _
    next exec decoded =>
      split
      next pending =>
        have executed := (exec.execute_log env platform (deserialize_ok decoded)
          (.nodeTask cr.name) ctx).mono (Q := TaskEvent platform cr ctx.node)
            fun event both =>
              ⟨both.on, execution, type, params, carried, wired, both.made, fun _ => pending⟩
        split
        next same =>
          rw [same] at executed
          exact executed
        next same =>
          rw [same] at executed
          exact executed
        next exec after same =>
          rw [same] at executed
          exact executed.trans ((applyTaskStatus_log env cr _ _ exec now after).mono
            fun _ seen => observed seen)
      · exact (applyTaskStatus_log env cr _ _ exec now ctx).mono fun _ seen => observed seen

theorem resolveTarget_ok {cr next : SeiNodeTask} {now : Nat}
    {target : Except KubeError SeiNode} {node : SeiNode}
    (resolved : cr.resolveTarget now target = (next, .ok (some node))) :
    target = .ok node ∧ next.task = cr.task ∧ next.kind = cr.kind ∧ next.name = cr.name := by
  unfold resolveTarget at resolved
  split at resolved
  · cases resolved
  · cases resolved
  · dsimp only at resolved
    generalize (if cr.requirePhase = .empty then SeiNodePhase.running else cr.requirePhase) = phase
      at resolved
    split at resolved
    · cases resolved
      exact ⟨rfl, rfl, rfl, rfl⟩
    · split at resolved <;> cases resolved

/-- Everything a reconcile logs is made by its one task, on the target as it was read. -/
theorem reconcile_log (cr : SeiNodeTask) (target : Except KubeError SeiNode) (ctx : Ctx ε) :
    Log.Extends (fun event => ∃ node, target = .ok node ∧ TaskEvent platform cr node event) ctx.log
      (cr.reconcile env platform target ctx).2.1.log := by
  unfold reconcile
  split
  · exact .refl _
  · dsimp only
    split
    · exact .refl _
    · exact .refl _
    next next_ node resolved =>
      obtain ⟨rfl, task, kind, name⟩ := resolveTarget_ok resolved
      split
      · exact .refl _
      next execution carried =>
        refine (driveTask_log env platform carried _ { ctx with node }).mono fun event made => ?_
        obtain ⟨on, execution', type, params, carried', wired, by_, pending⟩ := made
        rw [task] at carried'
        rw [kind] at wired
        rw [name] at by_
        exact ⟨node, rfl, on, execution', type, params, carried', wired, by_, pending⟩

end SeiNodeTask

end

end SeiController
