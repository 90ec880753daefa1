import SeiController.Planner.ConfigAgreement
import SeiController.Planner.MountedPlans
import SeiController.Planner.PlanAdvance
import SeiController.Planner.ValidatedPlans
import SeiController.Planner.Workflow

/-!
# Witnesses in plans

configure-state-sync hands the sidecar the RPC servers that seid verifies a snapshot with.
Two builders plan it: startup takes the servers from the node's status, the StateSync
workflow from its recipe or from the status of the node it is aimed at.
-/

set_option autoImplicit false

namespace SeiController

/-! ## The floor -/

/-- Enough servers for a light client, each of them once. -/
structure Witnesses (servers : List String) : Prop where
  floor : 2 ≤ servers.length
  distinct : servers.Nodup

def TaskPlan.Witnessed (plan : TaskPlan) : Prop :=
  ∀ task ∈ plan.tasks, task.type = .configureStateSync →
    ∃ useLocalSnapshot servers trustPeriod backfillBlocks,
      task.params = .configureStateSync useLocalSnapshot servers trustPeriod backfillBlocks ∧
        Witnesses servers

theorem TaskPlan.Witnessed.evolves {plan next : TaskPlan} (witnessed : plan.Witnessed)
    (evolves : PlanEvolves plan next) : next.Witnessed := by
  intro task member type
  obtain ⟨before, listed, same⟩ := exists_evolved_from evolves.tasks member
  rw [same.params]
  exact witnessed before listed (same.type.symm.trans type)

/-! ## Startup plans -/

theorem snapshotSource_eq {node : SeiNode} {mode : ModePlanner} (admitted : node.spec.oneMode)
    (chosen : plannerForMode node = .ok mode) : node.spec.snapshotSource = mode.snapshot := by
  unfold SeiNodeSpec.oneMode at admitted
  unfold plannerForMode at chosen
  unfold SeiNodeSpec.snapshotSource
  generalize node.spec.fullNode = full, node.spec.archive = archive,
    node.spec.replayer = replayer, node.spec.validator = validator, node.spec.seed = seed
    at admitted chosen ⊢
  split at chosen
  · cases chosen
    rfl
  · cases chosen
    -- an archive is no validator and no replayer
    cases validator with
    | some _ => cases replayer <;> cases seed <;> simp at admitted
    | none =>
      cases replayer with
      | some _ => cases seed <;> simp at admitted
      | none => rfl
  · cases chosen
    cases validator with
    | some _ => cases seed <;> simp at admitted
    | none => rfl
  · cases chosen
    rfl
  · cases chosen
    rfl
  · cases chosen

section

variable {platform : Platform} {planID : String} {node after : SeiNode} {mode : ModePlanner}
  {plan : TaskPlan} {task : PlannedTask}

theorem stateSync_of_startupPlan {snap : Option SnapshotSource} {intent : ConfigIntent}
    {prog : List TaskType}
    (built : withConfigValues platform (startupPlan planID node snap intent prog) node = .ok plan)
    (member : task ∈ plan.tasks) (type : task.type = .configureStateSync) :
    .configureStateSync ∈ prog ∧ task.params = configureStateSyncTask node := by
  rcases (withConfigValues_overlaid built).tasks task member with ⟨overlay, -⟩ | ⟨source, planned, same⟩
  · rw [type] at overlay
    cases overlay
  · obtain ⟨step, listed, stepType, params⟩ := mem_tasks_assembleSteps planned
    obtain ⟨taskType, inProg, rfl⟩ := List.mem_map.mp listed
    have is : taskType = .configureStateSync := (stepType.symm.trans same.1.symm).trans type
    subst is
    exact ⟨inProg, same.2.1.trans params⟩

theorem stateSync_of_basePlan {snap : Option SnapshotSource} {intent : ConfigIntent}
    (built : buildBasePlan platform planID node snap intent = .ok plan)
    (member : task ∈ plan.tasks) (type : task.type = .configureStateSync) :
    snap.isSome ∧ task.params = configureStateSyncTask node := by
  unfold buildBasePlan at built
  rw [buildSidecarProgression_eq] at built
  obtain ⟨planned, params⟩ := stateSync_of_startupPlan built member type
  refine ⟨?_, params⟩
  by_contra absent
  have none_ : snap = none := by simpa using absent
  subst none_
  rcases List.mem_append.mp planned with front | sidecar
  · rcases List.mem_append.mp front with keys | infra
    · rcases List.mem_append.mp keys with claim | key
      · simp at claim
      · have listed := mem_validations key
        revert listed
        decide
    · simp at infra
  · have kept : (.configureStateSync : TaskType) ∈
        [.configureGenesis, .configApply, .configValidate, .markReady] := by
      unfold withoutManagedConfigTasks at sidecar
      split at sidecar
      · exact List.mem_of_mem_filter sidecar
      · exact sidecar
    revert kept
    decide

theorem stateSync_of_initPlan (built : mode.buildInitPlan platform planID node = .ok plan)
    (member : task ∈ plan.tasks) (type : task.type = .configureStateSync) :
    mode.snapshot.isSome ∧ task.params = configureStateSyncTask node := by
  cases mode with
  | full | archive | replayer | seed => exact stateSync_of_basePlan built member type
  | validator spec =>
    unfold ModePlanner.buildInitPlan at built
    dsimp only at built
    split at built
    · exact absurd (stateSync_of_startupPlan built member type).1 (by decide)
    · exact stateSync_of_basePlan built member type

/-! ## Every plan of a node -/

theorem updatePlan_no_stateSync {prog : List TaskType} {patch : PatchFiles}
    (absent : .configureStateSync ∉ prog)
    (built : updatePlan platform planID node prog patch = .ok plan) :
    .configureStateSync ∉ plan.types := by
  obtain ⟨regenerated, inserted, built⟩ := updatePlan_ok built
  intro member
  rcases (withConfigValues_overlaid built).types member with never | planned
  · cases never
  · rw [types_assembleSteps, List.map_map] at planned
    have listed : .configureStateSync ∈ regenerated := by
      obtain ⟨taskType, inProg, same⟩ := List.mem_map.mp planned
      exact same ▸ inProg
    rcases inserted with rfl | inserted
    · exact absent listed
    · rcases mem_insertBefore inserted listed with never | kept
      · cases never
      · exact absent kept

theorem runningUpdate_no_stateSync
    (built : buildRunningUpdate platform planID (mode.gates node) node = (after, .ok (some plan))) :
    .configureStateSync ∉ plan.types := by
  unfold buildRunningUpdate at built
  split at built
  · unfold assembleUpdatePlan at built
    split at built
    · cases built
    next assembled =>
      cases built
      refine updatePlan_no_stateSync (fun member => ?_) assembled
      rcases List.mem_append.mp member with gate | rest
      · have silent := gates_silent node mode _ gate
        revert silent
        decide
      · revert rest
        decide
  · split at built
    · unfold buildConfigUpdatePlan assembleUpdatePlan at built
      split at built
      · cases built
      next assembled =>
        cases built
        exact updatePlan_no_stateSync (by decide) assembled
    · split at built
      · cases built
        rw [types_buildMarkReadyPlan]
        decide
      · cases built

theorem stateSync_of_modePlan
    (built : mode.buildPlan platform planID node = (after, .ok (some plan)))
    (member : task ∈ plan.tasks) (type : task.type = .configureStateSync) :
    node.status.phase ≠ .running ∧ mode.snapshot.isSome ∧ task.params = configureStateSyncTask node := by
  unfold ModePlanner.buildPlan at built
  split at built
  · exact absurd (type ▸ List.mem_map_of_mem member) (runningUpdate_no_stateSync built)
  next starting =>
    cases init : mode.buildInitPlan platform planID node with
    | error err =>
      rw [init] at built
      cases built
    | ok first =>
      rw [init] at built
      cases built
      exact ⟨starting, stateSync_of_initPlan init member type⟩

/-- Only the plan of a node that starts up from a snapshot configures state sync, with the
servers of the node's status. -/
theorem stateSync_of_plan (built : buildPlan platform planID mode node = (after, .ok (some plan)))
    (member : task ∈ plan.tasks) (type : task.type = .configureStateSync) :
    node.status.phase ≠ .running ∧ mode.snapshot.isSome ∧ task.params = configureStateSyncTask node := by
  unfold buildPlan at built
  split at built
  · unfold buildStaticPlan at built
    split at built
    · have free := (staticRunning_of_built built).writerFree _ (List.mem_map_of_mem member)
      rw [type] at free
      exact absurd (by decide) free
    · split at built
      next planned =>
        split at built
        · cases built
          exact stateSync_of_modePlan planned member type
        · cases parked : parkInsteadOfRelease _ with
          | error err =>
            rw [parked] at built
            cases built
          | ok result =>
            rw [parked] at built
            cases built
            rcases (retasked_park parked).tasks task member with kept | ⟨hold, -⟩
            · exact stateSync_of_modePlan planned kept type
            · rw [type] at hold
              cases hold
      · exact stateSync_of_modePlan built member type
  · exact stateSync_of_modePlan built member type

theorem witnessed_of_plan (admitted : node.spec.oneMode) (chosen : plannerForMode node = .ok mode)
    (unblocked : stateSyncBlocksPlan node = false)
    (gated : ∃ condition, node.status.stateSyncReady = some condition ∧
      (condition.status = .conditionTrue → Witnesses node.status.resolvedStateSyncers))
    (built : buildPlan platform planID mode node = (after, .ok (some plan))) : plan.Witnessed := by
  intro task member type
  obtain ⟨starting, snapshot, params⟩ := stateSync_of_plan built member type
  obtain ⟨condition, ready, resolved⟩ := gated
  refine ⟨_, _, _, _, params, resolved ?_⟩
  rw [← snapshotSource_eq admitted chosen] at snapshot
  simpa [stateSyncBlocksPlan, starting, needsStateSyncWitnesses, snapshot, ready] using unblocked

end

/-! ## The workflow's plan -/

theorem stateSyncSteps_witnesses {node : SeiNode} {servers : List String} {patch : PatchFiles}
    {step : PlanStep} (member : step ∈ stateSyncSteps node servers patch)
    (type : step.taskType = .configureStateSync) : step.params = resyncTask node servers := by
  unfold stateSyncSteps at member
  simp only [List.mem_append, List.mem_cons, List.not_mem_nil, or_false] at member
  rcases member with ((rfl | rfl | rfl) | patched) | rfl | rfl
  · cases type
  · cases type
  · cases type
  · split at patched
    · cases patched
    · rw [List.mem_singleton.mp patched] at type
      cases type
  · rfl
  · cases type

/-- The recipe's own servers are taken as they are; the node's are empty or witnesses, and a
plan is not built on too few. -/
theorem witnessed_of_workflowPlan {planID : String} {node : SeiNode} {workflow : Workflow}
    {plan : TaskPlan}
    (resolved : node.status.resolvedStateSyncers = [] ∨ Witnesses node.status.resolvedStateSyncers)
    (recipes : ∀ recipe, workflow.spec.stateSync = some recipe → recipe.rpcServers.Nodup)
    (built : buildWorkflowPlan planID node workflow = .ok plan) : plan.Witnessed := by
  unfold buildWorkflowPlan at built
  split at built
  · cases built
  split at built
  · cases built
  next recipe validated =>
    have declared : workflow.spec.stateSync = some recipe := by
      unfold validateStateSyncWorkflow at validated
      split at validated
      · cases validated
      next found =>
        split at validated
        · cases validated
        · split at validated
          · cases validated
          · cases validated
            exact found
    unfold buildStateSyncPlan at built
    have distinct : (if recipe.rpcServers.isEmpty then node.status.resolvedStateSyncers
        else recipe.rpcServers).Nodup := by
      split
      · rcases resolved with none_ | witnesses
        · rw [none_]
          exact List.nodup_nil
        · exact witnesses.distinct
      · exact recipes recipe declared
    generalize (if recipe.rpcServers.isEmpty then node.status.resolvedStateSyncers
      else recipe.rpcServers) = servers at built distinct
    dsimp only at built
    split at built
    · cases built
    next enough =>
      split at built
      · cases built
      · cases built
        intro task member type
        obtain ⟨step, listed, stepType, params⟩ := mem_tasks_assembleSteps member
        have is := stateSyncSteps_witnesses listed (stepType.symm.trans type)
        exact ⟨_, _, _, _, params.trans is, Nat.le_of_not_lt enough, distinct⟩

end SeiController
