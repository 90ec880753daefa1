import SeiController.Lib.System
import SeiController.Planner.Build
import SeiController.Planner.NodeRun

/-!
# The shape of a plan in execution

Over any number of executions with any answers, a plan is a row of Complete tasks, then
at most one Failed, then Pending ones.  The phase of the plan says which, and what it
records of a failure names the failed task.
-/

set_option autoImplicit false

namespace SeiController

structure TaskPlan.Started (plan : TaskPlan) : Prop where
  active : plan.phase = .active
  pending : ∀ task ∈ plan.tasks, task.status = .pending
  untried : ∀ task ∈ plan.tasks, task.retryCount = 0
  distinct : (plan.tasks.map PlannedTask.id).Nodup
  index : plan.failedTaskIndex = none
  detail : plan.failedTaskDetail = none

/-- One `ExecutePlan`, against any environment and for any node. -/
def TaskPlan.Executed (owner : PlanOwner) (plan next : TaskPlan) : Prop :=
  ∃ (ε : Type) (env : Env ε) (platform : Platform) (origin : TaskPlan → Origin) (ctx : Ctx ε),
    next = (executePlan env platform owner origin plan ctx).1

def TaskPlan.Reached (owner : PlanOwner) : TaskPlan → Prop :=
  Reachable TaskPlan.Started (TaskPlan.Executed owner)

def PlannedTask.failure (task : PlannedTask) : FailedTaskInfo :=
  ⟨task.type, task.id, task.error, task.retryCount, task.maxRetries⟩

/-- The tasks of a plan around its failure, if there is one. -/
structure TaskPlan.Shape (plan : TaskPlan) (done : List PlannedTask) (failed : Option PlannedTask)
    (rest : List PlannedTask) : Prop where
  tasks : plan.tasks = done ++ failed.toList ++ rest
  complete : ∀ task ∈ done, task.status = .complete
  failing : ∀ task ∈ failed, task.status = .failed
  pending : ∀ task ∈ rest, task.status = .pending
  phase : plan.phase = .failed ↔ failed.isSome
  finished : plan.phase = .complete → failed = none ∧ rest = []
  index : plan.failedTaskIndex = failed.map fun _ => done.length
  detail : plan.failedTaskDetail = failed.map PlannedTask.failure

def phaseAfter (owner : PlanOwner) (plan next : TaskPlan) (node : SeiNode) : SeiNodePhase :=
  match plan.phase, next.phase with
  | .active, .complete => (setTargetPhase owner plan.targetPhase node).status.phase
  | .active, .failed => (setTargetPhase owner plan.failedPhase node).status.phase
  | _, _ => node.status.phase

/-! ## One execution -/

variable {plan : TaskPlan}

section

variable {ε : Type} {env : Env ε} {platform : Platform}

/-- A task that is not Complete yet and not Failed is Pending, and stays so until it
completes. -/
theorem TaskAdvance.pending {origin : Origin} {task next : PlannedTask} {ctx after : Ctx ε}
    {failure : Option String} (step : TaskAdvance env platform origin task ctx next after failure)
    (before : task.status = .pending) (unfinished : next.status ≠ .complete) :
    next.status = .pending := by
  rcases step.unfailed (.inl before) with pending | complete
  · exact pending
  · exact absurd complete unfinished

theorem findIdx_failed {done rest : List PlannedTask} {task : PlannedTask}
    (distinct : ((done ++ task :: rest).map PlannedTask.id).Nodup) :
    (done ++ task :: rest).findIdx? (fun other => other.id == task.id) = some done.length := by
  induction done with
  | nil => simp [List.findIdx?_cons]
  | cons head done ih =>
    rw [List.cons_append, List.map_cons, List.nodup_cons] at distinct
    have other : head.id ≠ task.id := by
      intro same
      refine distinct.1 ?_
      rw [same]
      exact List.mem_map_of_mem (List.mem_append_right done List.mem_cons_self)
    rw [List.cons_append, List.findIdx?_cons, if_neg (by simpa using other), ih distinct.2]
    rfl

def Advancing (tasks : List PlannedTask) : Prop :=
  ∃ done rest, tasks = done ++ rest ∧ (∀ task ∈ done, task.status = .complete) ∧
    ∀ task ∈ rest, task.status = .pending

theorem Advancing.tail {task : PlannedTask} {rest : List PlannedTask}
    (advancing : Advancing (task :: rest)) : Advancing rest := by
  obtain ⟨done, left, same, complete, pending⟩ := advancing
  cases done with
  | nil =>
    refine ⟨[], rest, rfl, by simp, fun other member => pending other ?_⟩
    rw [← show task :: rest = left from same]
    exact List.mem_cons_of_mem task member
  | cons head done =>
    rw [List.cons_append, List.cons.injEq] at same
    exact ⟨done, left, same.2, fun other member => complete other (List.mem_cons_of_mem _ member),
      pending⟩

/-- Behind the first task that is not Complete everything is Pending. -/
theorem Advancing.pending {task : PlannedTask} {rest : List PlannedTask}
    (advancing : Advancing (task :: rest)) (unfinished : task.status ≠ .complete) :
    ∀ other ∈ task :: rest, other.status = .pending := by
  obtain ⟨done, left, same, complete, pending⟩ := advancing
  cases done with
  | nil =>
    intro other member
    exact pending other (show other ∈ left from (show task :: rest = left from same) ▸ member)
  | cons head done =>
    rw [List.cons_append, List.cons.injEq] at same
    exact absurd (same.1 ▸ complete head List.mem_cons_self) unfinished

theorem executePlan_shape (owner : PlanOwner) (origin : TaskPlan → Origin)
    {done rest : List PlannedTask} {failed : Option PlannedTask}
    (distinct : (plan.tasks.map PlannedTask.id).Nodup) (shape : plan.Shape done failed rest)
    (ctx : Ctx ε) :
    ∃ done failed rest, (executePlan env platform owner origin plan ctx).1.Shape done failed rest := by
  unfold executePlan
  split
  · exact ⟨done, failed, rest, shape⟩
  · exact ⟨done, failed, rest, shape⟩
  next active =>
    have unfailed : failed = none := by
      rw [← Option.not_isSome_iff_eq_none, ← shape.phase, active]
      simp
    subst unfailed
    have unrecorded : plan.failedTaskIndex = none ∧ plan.failedTaskDetail = none :=
      ⟨shape.index, shape.detail⟩
    have start : Advancing plan.tasks :=
      ⟨done, rest, by simpa using shape.tasks, shape.complete, shape.pending⟩
    -- `passed` is Complete, what is left advances, and the identifiers are still distinct
    refine executeTasks_rule
      (Q := fun next _ => ∃ done failed rest, next.Shape done failed rest)
      (I := fun passed left _ => (∀ task ∈ passed, task.status = .complete) ∧ Advancing left ∧
        List.Forall₂ Evolves plan.tasks (passed ++ left))
      ?_ ?_ ?_ ?_ ?_ plan.tasks [] ctx ⟨by simp, start, forall₂_evolves_refl plan.tasks⟩
    · rintro passed task left now ⟨complete, advancing, sofar⟩ finished
      refine ⟨?_, advancing.tail, by simpa using sofar⟩
      simpa [or_imp, forall_and] using ⟨complete, finished⟩
    · rintro passed task left now next after ⟨complete, advancing, sofar⟩ unfinished step finished
      refine ⟨?_, advancing.tail, ?_⟩
      · simpa [or_imp, forall_and] using ⟨complete, finished⟩
      · simpa using forall₂_evolves_replace sofar (step.evolves unfinished)
    · rintro passed now ⟨complete, -, -⟩
      refine ⟨passed, none, [], ?_, complete, by simp, by simp, by simp [completePlan], ?_, ?_, ?_⟩
      · simp [completePlan]
      · exact fun _ => ⟨rfl, rfl⟩
      · exact unrecorded.1
      · exact unrecorded.2
    · rintro passed task left now next after ⟨complete, advancing, sofar⟩ unfinished step waiting
      have pending := advancing.pending unfinished
      refine ⟨passed, none, next :: left, by simp, complete, by simp, ?_, by simp [active], ?_,
        unrecorded.1, unrecorded.2⟩
      · intro other member
        rcases List.mem_cons.mp member with rfl | later
        · exact step.pending (pending task List.mem_cons_self) waiting
        · exact pending other (List.mem_cons_of_mem _ later)
      · intro finished
        rw [show plan.phase = .complete from finished] at active
        cases active
    · rintro passed task left now next after message ⟨complete, advancing, sofar⟩ unfinished step
      have pending := advancing.pending unfinished
      have evolved := forall₂_evolves_replace sofar (step.evolves unfinished)
      have ids : ((passed ++ next :: left).map PlannedTask.id).Nodup := by
        rw [forall₂_evolves_ids evolved]
        exact distinct
      refine ⟨passed, some { next with status := .failed, error := message }, left, by simp [failTask],
        complete, by simp, fun other later => pending other (List.mem_cons_of_mem _ later),
        by simp [failTask], fun never => (by cases never), ?_, rfl⟩
      have marked : ((passed ++ { next with status := .failed, error := message } :: left).map
          PlannedTask.id).Nodup := by
        rw [List.map_append, List.map_cons] at ids ⊢
        exact ids
      exact findIdx_failed marked

theorem phase_setTargetPhase (owner : PlanOwner) (phase : SeiNodePhase) {left right : SeiNode}
    (same : left.status.phase = right.status.phase) :
    (setTargetPhase owner phase left).status.phase =
      (setTargetPhase owner phase right).status.phase := by
  unfold setTargetPhase
  split
  · exact same
  · exact same
  · rfl

variable (env platform) in
/-- An execution writes the node's phase when it ends the plan, and not otherwise. -/
theorem executePlan_phase (owner : PlanOwner) (origin : TaskPlan → Origin) (plan : TaskPlan)
    (ctx : Ctx ε) :
    (executePlan env platform owner origin plan ctx).2.node.status.phase =
      phaseAfter owner plan (executePlan env platform owner origin plan ctx).1 ctx.node := by
  cases phase : plan.phase with
  | complete | failed => simp only [executePlan, phase, phaseAfter]
  | active =>
    obtain ⟨mid, run, -, ended⟩ := executePlan_end env platform owner origin phase ctx
    generalize executePlan env platform owner origin plan ctx = result at ended
    obtain ⟨next, after⟩ := result
    dsimp only at ended ⊢
    generalize after.node = node at ended
    have same : mid.node.status.phase = ctx.node.status.phase := run.frame.phase.symm
    cases ended with
    | stopped active =>
      simp only [phaseAfter, phase, active]
      exact same
    | completed complete =>
      simp only [phaseAfter, phase, complete]
      refine phase_setTargetPhase owner plan.targetPhase ?_
      split
      · exact same
      · exact same
    | failed failed =>
      simp only [phaseAfter, phase, failed]
      exact phase_setTargetPhase owner plan.failedPhase same

theorem executePlan_ended (owner : PlanOwner) (origin : TaskPlan → Origin)
    (ended : plan.phase ≠ .active) (ctx : Ctx ε) :
    executePlan env platform owner origin plan ctx = (plan, ctx) := by
  unfold executePlan
  split
  · rfl
  · rfl
  next active => exact absurd active ended

theorem retries_of_evolves {old new : List PlannedTask} (evolved : List.Forall₂ Evolves old new)
    (before : ∀ task ∈ old, task.retryCount ≤ task.maxRetries) :
    ∀ task ∈ new, task.retryCount ≤ task.maxRetries := by
  intro task member
  obtain ⟨earlier, listed, step⟩ := exists_evolved_from evolved member
  have budget := step.budget
  have within := before earlier listed
  rw [step.maxRetries]
  omega

end

/-! ## Every sequence of executions -/

structure TaskPlan.WellShaped (plan : TaskPlan) : Prop where
  shape : ∃ done failed rest, plan.Shape done failed rest
  distinct : (plan.tasks.map PlannedTask.id).Nodup
  retries : ∀ task ∈ plan.tasks, task.retryCount ≤ task.maxRetries

theorem TaskPlan.Started.wellShaped (started : plan.Started) : plan.WellShaped where
  shape := by
    refine ⟨[], none, plan.tasks, by simp, by simp, by simp, started.pending, ?_, ?_,
      started.index, started.detail⟩
    · simp [started.active]
    · intro complete
      rw [started.active] at complete
      cases complete
  distinct := started.distinct
  retries task member := by
    rw [started.untried task member]
    exact Nat.zero_le _

theorem TaskPlan.WellShaped.executed {owner : PlanOwner} {next : TaskPlan}
    (before : plan.WellShaped) (step : plan.Executed owner next) : next.WellShaped := by
  obtain ⟨ε, env, platform, origin, ctx, rfl⟩ := step
  obtain ⟨done, failed, rest, shape⟩ := before.shape
  have evolves : PlanEvolves plan (executePlan env platform owner origin plan ctx).1 :=
    executePlan_evolves owner origin plan ctx
  refine ⟨executePlan_shape owner origin before.distinct shape ctx, ?_, ?_⟩
  · rw [forall₂_evolves_ids evolves.tasks]
    exact before.distinct
  · exact retries_of_evolves evolves.tasks before.retries

theorem TaskPlan.Reached.wellShaped {owner : PlanOwner} (reached : TaskPlan.Reached owner plan) :
    plan.WellShaped :=
  Reachable.invariant (fun _ started => started.wellShaped)
    (fun _ _ before step => before.executed step) reached

/-- After any sequence of executions, and for the next one: the shape of the plan, what it
records of its failure, the retry budgets, and that the next execution leaves an ended
plan alone, drives a task only when all before it are Complete, and writes the node's
phase only when it ends the plan. -/
theorem executor_keeps_plan_shape {owner : PlanOwner} {plan : TaskPlan}
    (reached : TaskPlan.Reached owner plan) :
    (∃ done failed rest, plan.Shape done failed rest) ∧
      (∀ task ∈ plan.tasks, task.retryCount ≤ task.maxRetries) ∧
      ∀ {ε : Type} (env : Env ε) (platform : Platform) (origin : TaskPlan → Origin) (ctx : Ctx ε),
        (plan.phase ≠ .active → executePlan env platform owner origin plan ctx = (plan, ctx)) ∧
        Log.Extends (FromPlan platform origin plan) ctx.log
          (executePlan env platform owner origin plan ctx).2.log ∧
        (executePlan env platform owner origin plan ctx).2.node.status.phase =
          phaseAfter owner plan (executePlan env platform owner origin plan ctx).1 ctx.node := by
  have kept := reached.wellShaped
  refine ⟨kept.shape, kept.retries, ?_⟩
  intro ε env platform origin ctx
  refine ⟨fun ended => executePlan_ended owner origin ended ctx, ?_, ?_⟩
  · exact executePlan_log owner origin plan ctx
  · exact executePlan_phase env platform owner origin plan ctx

/-- A release, and behind it a task of a type the registry does not know. -/
def releaseThenUnknown : TaskPlan :=
  assembleSteps "plan" [⟨.markReady, .empty⟩, ⟨.unknown "x", .empty⟩]

theorem releaseThenUnknown_started : releaseThenUnknown.Started :=
  ⟨by decide, by decide, by decide, by decide, by decide, by decide⟩

def releaseThenUnknownExecuted : TaskPlan × Ctx Unit :=
  executePlan quietEnv samplePlatform .seiNode .nodePlan releaseThenUnknown ⟨{}, [], (), []⟩

/-- The release completes, the unknown task fails the plan under index 1, and nothing of it
is executed again. -/
theorem releaseThenUnknown_shape :
    releaseThenUnknownExecuted.1.tasks.map PlannedTask.status = [.complete, .failed] ∧
      releaseThenUnknownExecuted.1.failedTaskIndex = some 1 ∧
      (∃ done failed rest, releaseThenUnknownExecuted.1.Shape done failed rest) ∧
      executePlan quietEnv samplePlatform .seiNode .nodePlan releaseThenUnknownExecuted.1
          releaseThenUnknownExecuted.2 =
        releaseThenUnknownExecuted := by
  have reached : TaskPlan.Reached .seiNode releaseThenUnknownExecuted.1 :=
    .next (.start releaseThenUnknown_started)
      ⟨Unit, quietEnv, samplePlatform, .nodePlan, ⟨{}, [], (), []⟩, rfl⟩
  obtain ⟨shape, -, next⟩ := executor_keeps_plan_shape reached
  refine ⟨by decide, by decide, shape, ?_⟩
  exact (next quietEnv samplePlatform .nodePlan releaseThenUnknownExecuted.2).1 (by decide)

end SeiController
