import SeiController.Controller.NodeTaskEnd
import SeiController.Planner.PlanShape

/-!
# Requests the client-side validation rejects

A sidecar task validates its parameters before it submits them, and the check depends on
the parameters alone.  The error it returns is not a terminal one, so both callers take
it for an outage: the plan stays Active, the SeiNodeTask keeps its phase, and every later
reconcile meets the same answer.
-/

set_option autoImplicit false

namespace SeiController

/-- The task's own check turns its parameters down. -/
def Rejected (lib : ClientChecks) (task : PlannedTask) : Prop :=
  ∃ request forget, sidecarRequest task.type = some (request, forget) ∧
    task.params.validate lib request ≠ none

/-- The request of the start-guarded tasks has nothing to check. -/
theorem validate_markReady (lib : ClientChecks) (params : TaskParams) :
    params.validate lib .markReady = none := rfl

variable {task : PlannedTask}

section

variable {ε : Type} (env : Env ε) (platform : Platform)

/-! ## One attempt -/

theorem SidecarExecution.execute_rejected {request : TaskType} (forget : Bool) (origin : Origin)
    (rejected : task.params.validate env.checks request ≠ none) (ctx : Ctx ε) :
    ∃ err, ((deserializeSidecar task request forget).execute env origin task ctx).2.2
      = some (.transient err) := by
  obtain ⟨problem, invalid⟩ := Option.ne_none_iff_exists'.mp rejected
  rcases (deserializeSidecar task request forget).ensureClient_cases env ctx with
    ⟨state, err, built⟩ | ⟨state, built⟩
  · simp only [execute, built]
    exact ⟨_, rfl⟩
  · have turned : (deserializeSidecar task request forget).params.validate env.checks
        (deserializeSidecar task request forget).requestType = some problem := invalid
    simp only [execute, built, turned]
    exact ⟨_, rfl⟩

theorem TaskExecution.execute_rejected {exec : TaskExecution}
    (decoded : deserialize task = .ok exec) (rejected : Rejected env.checks task) (origin : Origin)
    (ctx : Ctx ε) :
    ∃ err, (exec.execute env platform origin task ctx).2.2 = some (.transient err) := by
  obtain ⟨request, forget, sidecar, invalid⟩ := rejected
  cases deserialize_ok decoded with
  | sidecar forget registered =>
    rw [sidecarRequest_sidecar registered] at sidecar
    cases sidecar
    exact SidecarExecution.execute_rejected env forget origin invalid ctx
  | startGuarded guard registered =>
    rw [sidecarRequest_startGuarded registered] at sidecar
    cases sidecar
    exact absurd (validate_markReady env.checks task.params) invalid
  | controller registered => simp [sidecarRequest, registered] at sidecar

/-! ## Plans -/

/-- The loop of `executePlan` calls `Execute` of the task. -/
inductive Attempts (origin : TaskPlan → Origin) (plan : TaskPlan) :
    List PlannedTask → List PlannedTask → Ctx ε → PlannedTask → Prop
  | here {done rest : List PlannedTask} {task : PlannedTask} {ctx : Ctx ε} {exec : TaskExecution}
      (pending : task.status = .pending) (decoded : deserialize task = .ok exec) :
      Attempts origin plan done (task :: rest) ctx task
  | passed {done rest : List PlannedTask} {task tried : PlannedTask} {ctx : Ctx ε}
      (complete : task.status = .complete)
      (later : Attempts origin plan (done ++ [task]) rest ctx tried) :
      Attempts origin plan done (task :: rest) ctx tried
  | advanced {done rest : List PlannedTask} {task next tried : PlannedTask} {ctx after : Ctx ε}
      (unfinished : task.status ≠ .complete)
      (driven : advanceTask env platform (origin { plan with tasks := done ++ task :: rest }) task ctx
        = (next, after, none))
      (complete : next.status = .complete)
      (later : Attempts origin plan (done ++ [next]) rest after tried) :
      Attempts origin plan done (task :: rest) ctx tried

def TaskPlan.Tries (origin : TaskPlan → Origin) (plan : TaskPlan) (ctx : Ctx ε) (task : PlannedTask) :
    Prop :=
  plan.phase = .active ∧ Attempts env platform origin plan [] plan.tasks ctx task

variable {env platform}

/-- The plan is Active and has come to the task, which has still to be submitted. -/
def TaskPlan.At (plan : TaskPlan) (task : PlannedTask) : Prop :=
  plan.phase = .active ∧ task.status = .pending ∧ (∃ exec, deserialize task = .ok exec) ∧
    ∃ done rest, plan.tasks = done ++ task :: rest ∧ ∀ earlier ∈ done, earlier.status = .complete

theorem attempts_of_passed {origin : TaskPlan → Origin} {plan : TaskPlan} {exec : TaskExecution}
    (pending : task.status = .pending) (decoded : deserialize task = .ok exec)
    {rest : List PlannedTask} {ctx : Ctx ε} (passed : List PlannedTask)
    (complete : ∀ earlier ∈ passed, earlier.status = .complete) (done : List PlannedTask) :
    Attempts env platform origin plan done (passed ++ task :: rest) ctx task := by
  induction passed generalizing done with
  | nil => exact .here pending decoded
  | cons first passed ih =>
    obtain ⟨firstComplete, laterComplete⟩ := List.forall_mem_cons.mp complete
    exact .passed firstComplete (ih laterComplete (done ++ [first]))

theorem TaskPlan.At.tries {plan : TaskPlan} (at_ : plan.At task) (origin : TaskPlan → Origin)
    (ctx : Ctx ε) : plan.Tries env platform origin ctx task := by
  obtain ⟨active, pending, ⟨exec, decoded⟩, done, rest, tasks, complete⟩ := at_
  refine ⟨active, ?_⟩
  rw [tasks]
  exact attempts_of_passed pending decoded done complete []

/-- Where the loop attempts a rejected task it stops, with the task as it was. -/
theorem Attempts.executeTasks_at {origin : TaskPlan → Origin} {plan : TaskPlan}
    {done rest : List PlannedTask} {ctx : Ctx ε} {tried : PlannedTask} (owner : PlanOwner)
    (attempt : Attempts env platform origin plan done rest ctx tried)
    (rejected : Rejected env.checks tried) (active : plan.phase = .active)
    (passed : ∀ earlier ∈ done, earlier.status = .complete) :
    (executeTasks env platform owner origin plan done rest ctx).1.At tried := by
  have extend {done : List PlannedTask} {task : PlannedTask}
      (passed : ∀ earlier ∈ done, earlier.status = .complete) (complete : task.status = .complete) :
      ∀ earlier ∈ done ++ [task], earlier.status = .complete := by
    simpa [or_imp, forall_and] using ⟨passed, complete⟩
  induction attempt with
  | @here done rest task ctx exec pending decoded =>
    have unfinished : task.status ≠ .complete := by rw [pending]; decide
    have submits : needsSubmission task = true := by simp [needsSubmission, pending]
    obtain ⟨err, transient⟩ := exec.execute_rejected env platform decoded rejected
      (origin { plan with tasks := done ++ task :: rest }) ctx
    simp only [executeTasks, unfinished, if_false, advanceTask, decoded, submits, if_true]
    generalize exec.execute env platform (origin { plan with tasks := done ++ task :: rest }) task
      ctx = result at transient
    obtain ⟨ended, after, failure⟩ := result
    cases transient
    simp only [afterExecute, unfinished, if_false]
    exact ⟨active, pending, ⟨exec, decoded⟩, done, rest, rfl, passed⟩
  | passed complete _ ih =>
    simp only [executeTasks, complete, if_true]
    exact ih rejected (extend passed complete)
  | advanced unfinished driven complete _ ih =>
    simp only [executeTasks, unfinished, if_false, driven, complete, if_true]
    exact ih rejected (extend passed complete)

theorem TaskPlan.Tries.executePlan_at {origin : TaskPlan → Origin} {plan : TaskPlan} {ctx : Ctx ε}
    (tries : plan.Tries env platform origin ctx task) (owner : PlanOwner)
    (rejected : Rejected env.checks task) :
    (executePlan env platform owner origin plan ctx).1.At task := by
  obtain ⟨active, attempt⟩ := tries
  simp only [executePlan, active]
  exact attempt.executeTasks_at owner rejected active (by simp)

variable (env platform)

structure PlanRun where
  plan : TaskPlan
  attempted : List PlannedTask

namespace PlanRun

def Initial (run : PlanRun) : Prop := run.plan.Started ∧ run.attempted = []

/-- One `ExecutePlan`, with the tasks it attempts. -/
def Step (owner : PlanOwner) (run next : PlanRun) : Prop :=
  ∃ (origin : TaskPlan → Origin) (ctx : Ctx ε),
    next.plan = (executePlan env platform owner origin run.plan ctx).1 ∧
    ∀ task, task ∈ next.attempted ↔
      task ∈ run.attempted ∨ run.plan.Tries env platform origin ctx task

def Reached (owner : PlanOwner) : PlanRun → Prop :=
  Reachable Initial (Step env platform owner)

variable {env platform}

/-- A rejected task that was attempted is the one the plan stands at, before and after. -/
theorem Step.at {owner : PlanOwner} {run next : PlanRun} (move : Step env platform owner run next)
    (kept : ∀ task ∈ run.attempted, Rejected env.checks task → run.plan.At task) :
    ∀ task ∈ next.attempted, Rejected env.checks task → next.plan.At task := by
  obtain ⟨origin, ctx, executed, recorded⟩ := move
  intro task member rejected
  rw [executed]
  rcases (recorded task).mp member with earlier | tries
  · exact ((kept task earlier rejected).tries origin ctx).executePlan_at owner rejected
  · exact tries.executePlan_at owner rejected

end PlanRun

/-! ## SeiNodeTasks -/

/-- The reconcile calls `Execute` of the task for the node. -/
structure TaskVisit.Tries (visit : TaskVisit ε) (task : PlannedTask) (node : SeiNode) : Prop where
  alive : ¬ (visit.read.phase = .complete ∨ visit.read.phase = .failed)
  drives : ∃ execution, visit.Drives node execution task ∧ execution.status = .pending
  decoded : ∃ exec, deserialize task = .ok exec

theorem TaskVisit.Tries.next_phase {visit : TaskVisit ε} {node : SeiNode}
    (tries : visit.Tries task node) (rejected : Rejected env.checks task) :
    (visit.next env platform).phase = visit.read.phase := by
  obtain ⟨alive, ⟨execution, ⟨found, reached, carried, type, params, built, rfl⟩, pending⟩,
    exec, decoded⟩ := tries
  have driven := TaskVisit.result_of_reached env platform alive found reached
  rw [carried] at driven
  have same : (visit.driven env).taskParamsForKind (some node) = .ok (type, params) := built
  simp only [SeiNodeTask.driveTask, same, decoded, pending, if_true] at driven
  obtain ⟨err, transient⟩ := TaskExecution.execute_rejected env platform decoded rejected
    (.nodeTask (visit.driven env).name) { visit.ctx with node }
  unfold TaskVisit.next
  rw [driven]
  generalize exec.execute env platform (.nodeTask (visit.driven env).name)
    (SeiNodeTask.planned execution type params) { visit.ctx with node } = result at transient ⊢
  obtain ⟨ended, after, failure⟩ := result
  cases transient
  rfl

/-- A rejected request is never failed: in every run of a plan in which one was attempted the plan
is still Active, and every reconcile of a SeiNodeTask that attempts one leaves it in its phase. -/
theorem rejected_request_retried (owner : PlanOwner) :
    (∀ run : PlanRun, PlanRun.Reached env platform owner run →
      ∀ task ∈ run.attempted, Rejected env.checks task → run.plan.phase = .active) ∧
    ∀ (visit : TaskVisit ε) (task : PlannedTask) (node : SeiNode), visit.Tries task node →
      Rejected env.checks task →
        (visit.next env platform).phase = visit.read.phase ∧
          (visit.next env platform).phase ≠ .failed := by
  constructor
  · intro run reached task member rejected
    have stands : ∀ task ∈ run.attempted, Rejected env.checks task → run.plan.At task := by
      refine Reachable.invariant (I := fun run => ∀ task ∈ run.attempted,
        Rejected env.checks task → run.plan.At task) ?_ (fun _ _ kept move => move.at kept) reached
      rintro start ⟨-, untried⟩ task member
      rw [untried] at member
      cases member
    exact (stands task member rejected).1
  · intro visit task node tries rejected
    have same := tries.next_phase env platform rejected
    exact ⟨same, fun failed => tries.alive (.inr (same.symm.trans failed))⟩

end

/-! ### Two rejected requests -/

def bogusVote : TaskParams :=
  .govVote { chainID := "sei-1", keyName := "validator", proposalID := 1, option := "bogus",
             fees := "1usei", gas := 1 }

def bogusVotePlan : TaskPlan := assembleSteps "plan" [⟨.govVote, bogusVote⟩]

def bogusVoteRun : PlanRun :=
  ⟨(executePlan (quietEnv : Env Unit) samplePlatform .seiNode .nodePlan bogusVotePlan
      ⟨{}, [], (), []⟩).1, bogusVotePlan.tasks⟩

theorem rejected_bogusVote {task : PlannedTask} (member : task ∈ bogusVoteRun.attempted) :
    Rejected quietChecks task := by
  obtain rfl := List.mem_singleton.mp member
  exact ⟨.govVote, false, rfl, by decide +kernel⟩

theorem bogusVoteRun_reached :
    PlanRun.Reached (quietEnv : Env Unit) samplePlatform .seiNode bogusVoteRun := by
  refine .next (.start (s := ⟨bogusVotePlan, []⟩) ⟨?_, rfl⟩) ⟨.nodePlan, ⟨{}, [], (), []⟩, rfl, ?_⟩
  · exact ⟨rfl, by simp [bogusVotePlan, assembleSteps, buildTasks, buildPlannedTask],
      by simp [bogusVotePlan, assembleSteps, buildTasks, buildPlannedTask],
      by simp [bogusVotePlan, assembleSteps, buildTasks, buildPlannedTask], rfl, rfl⟩
  · intro task
    constructor
    · intro member
      obtain rfl := List.mem_singleton.mp member
      exact .inr ⟨rfl, .here rfl rfl⟩
    · rintro (none | ⟨-, attempt⟩)
      · cases none
      · cases attempt with
        | here => exact List.mem_singleton.mpr rfl
        | passed complete => cases complete
        | advanced _ _ _ later => cases later

def updateTask : SeiNodeTask :=
  { restartTask with
    kind := .govUpdateInstantiateConfig
    restartSeid := false
    govUpdateInstantiateConfig := some
      { chainID := "sei-1", keyName := "validator", title := "title", description := "text"
        initialDeposit := "1usei", fees := "1usei", gas := 1
        updates := [⟨5, "nobody"⟩, ⟨5, "everybody"⟩] } }

def updateEnv : Env Nat := clockEnv none (.error .notFound)

/-- The second visit, one second after the one that gave the task its execution. -/
def updateVisit : TaskVisit Nat :=
  visitAt 1 (.ok (nodeIn .running))
    ((visitAt 0 (.ok (nodeIn .running)) updateTask).next updateEnv samplePlatform)

def updateHistory : TaskHistory Nat :=
  ⟨updateVisit.next updateEnv samplePlatform,
    [updateVisit, visitAt 0 (.ok (nodeIn .running)) updateTask]⟩

theorem updateVisit_rejected :
    ∃ task, updateVisit.Tries task (nodeIn .running) ∧ Rejected updateEnv.checks task := by
  refine ⟨_, ⟨?_, ⟨_, ⟨rfl, rfl, rfl, .govUpdateInstantiateConfig, _, rfl, rfl⟩, rfl⟩, _, rfl⟩,
    .govUpdateInstantiateConfig, false, rfl, ?_⟩
  · decide +kernel
  · decide +kernel

/-- The vote's plan stays Active, and the proposal's SeiNodeTask running. -/
theorem rejected_request_spins :
    (PlanRun.Reached (quietEnv : Env Unit) samplePlatform .seiNode bogusVoteRun ∧
      (∃ task ∈ bogusVoteRun.attempted, Rejected quietChecks task) ∧
      bogusVoteRun.plan.phase = .active) ∧
    (TaskHistory.Reached updateEnv samplePlatform (fun _ => True) updateHistory ∧
      (∃ task, updateVisit.Tries task (nodeIn .running) ∧ Rejected updateEnv.checks task) ∧
      updateHistory.stored.phase = .running) := by
  refine ⟨⟨bogusVoteRun_reached, ⟨_, List.mem_singleton_self _, rejected_bogusVote
    (List.mem_singleton_self _)⟩, by decide +kernel⟩, ?_, updateVisit_rejected, by decide +kernel⟩
  exact .next (.next (.start (s := ⟨updateTask, []⟩) ⟨rfl, rfl, rfl⟩)
    (.reconcile _ _ rfl trivial)) (.reconcile _ _ rfl trivial)

theorem rejected_update_keeps_phase :
    bogusVoteRun.plan.phase = .active ∧
      (updateVisit.next updateEnv samplePlatform).phase = updateVisit.read.phase := by
  obtain ⟨task, tries, rejected⟩ := updateVisit_rejected
  exact ⟨(rejected_request_retried quietEnv samplePlatform .seiNode).1 bogusVoteRun
      bogusVoteRun_reached _ (List.mem_singleton_self _)
      (rejected_bogusVote (List.mem_singleton_self _)),
    ((rejected_request_retried updateEnv samplePlatform .seiNode).2 updateVisit task _ tries
      rejected).1⟩

end SeiController
