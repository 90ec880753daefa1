import SeiController.Lib.Updates
import SeiController.Planner.StaticConfig

/-!
# The task types of a built plan

What each builder puts into a plan and in which order, read off the list of types.
-/

set_option autoImplicit false

namespace SeiController

/-! ## Assembling -/

theorem types_assembleSteps (planID : String) (steps : List PlanStep) :
    (assembleSteps planID steps).types = steps.map PlanStep.taskType := by
  unfold TaskPlan.types assembleSteps buildTasks
  apply List.ext_getElem
  · simp
  · intro index _ _
    simp [buildPlannedTask]

variable {planID : String} {type : TaskType} {plan result : TaskPlan} {platform : Platform}
  {node : SeiNode} {snap : Option SnapshotSource}

theorem mem_tasks_assembleSteps {steps : List PlanStep} {task : PlannedTask}
    (member : task ∈ (assembleSteps planID steps).tasks) :
    ∃ step ∈ steps, task.type = step.taskType ∧ task.params = step.params := by
  unfold assembleSteps buildTasks at member
  obtain ⟨index, bound, same⟩ := List.mem_mapIdx.mp member
  exact ⟨steps[index], List.getElem_mem bound, by rw [← same]; rfl, by rw [← same]; rfl⟩

theorem pending_assembleSteps (planID : String) (steps : List PlanStep) :
    ∀ task ∈ (assembleSteps planID steps).tasks, task.status = .pending := by
  intro task member
  unfold assembleSteps buildTasks at member
  obtain ⟨index, bound, same⟩ := List.mem_mapIdx.mp member
  rw [← same]
  rfl

theorem mem_insertBefore {prog result : List TaskType} {target taskType : TaskType}
    (inserted : insertBefore prog target taskType = .ok result) (member : type ∈ result) :
    type = taskType ∨ type ∈ prog := by
  unfold insertBefore at inserted
  split at inserted
  · cases inserted
    exact .inr member
  · split at inserted
    · cases inserted
      simp only [List.mem_append, List.mem_cons] at member
      rcases member with early | same | late
      · exact .inr (List.takeWhile_subset _ early)
      · exact .inl same
      · exact .inr (List.dropWhile_subset _ late)
    · cases inserted

theorem mem_spliceOverlay {patch : PatchFiles} {task : PlannedTask} :
    ∀ (rest done : List PlannedTask), task ∈ spliceOverlay planID patch done rest →
      task ∈ done ∨ task.type = .configPatch ∧ task.status = .pending ∨
        ∃ source ∈ rest, task.type = source.type ∧ task.params = source.params ∧
          task.status = source.status := by
  intro rest
  induction rest with
  | nil => exact fun done member => .inl member
  | cons planned rest ih =>
    intro done member
    unfold spliceOverlay at member
    rcases ih _ member with early | overlay | ⟨source, later, same⟩
    · simp only [List.mem_append, List.mem_singleton] at early
      rcases early with early | same
      · split at early
        · rcases List.mem_append.mp early with early | same
          · exact .inl early
          · rw [List.mem_singleton.mp same]
            exact .inr (.inl ⟨rfl, rfl⟩)
        · exact .inl early
      · rw [same]
        exact .inr (.inr ⟨planned, List.mem_cons_self, rfl, rfl, rfl⟩)
    · exact .inr (.inl overlay)
    · exact .inr (.inr ⟨source, List.mem_cons_of_mem _ later, same⟩)

/-- What `withConfigValues` leaves of a plan. -/
structure Overlaid (plan result : TaskPlan) : Prop where
  id : result.id = plan.id
  phase : result.phase = plan.phase
  targetPhase : result.targetPhase = plan.targetPhase
  failedPhase : result.failedPhase = plan.failedPhase
  tasks : ∀ task ∈ result.tasks, task.type = .configPatch ∧ task.status = .pending ∨
    ∃ source ∈ plan.tasks, task.type = source.type ∧ task.params = source.params ∧
      task.status = source.status

theorem Overlaid.refl (plan : TaskPlan) (hash : String) :
    Overlaid plan { plan with configValuesHash := hash } :=
  ⟨rfl, rfl, rfl, rfl, fun task member => .inr ⟨task, member, rfl, rfl, rfl⟩⟩

theorem withConfigValues_overlaid (overlaid : withConfigValues platform plan node = .ok result) :
    Overlaid plan result := by
  unfold withConfigValues at overlaid
  cases hashed : configValuesHash platform node.spec.configValues with
  | error err => rw [hashed] at overlaid; cases overlaid
  | ok hash =>
    rw [hashed] at overlaid
    simp only [bind, Except.bind] at overlaid
    split at overlaid
    · cases overlaid
      exact .refl plan hash
    · cases user : configValuesOverlay node.spec.configValues with
      | error err => rw [user] at overlaid; cases overlaid
      | ok files =>
        rw [user] at overlaid
        simp only at overlaid
        cases merged : mergeOverlayPatches files (consensusOverlay node) with
        | error err => rw [merged] at overlaid; cases overlaid
        | ok patch =>
          rw [merged] at overlaid
          simp only at overlaid
          split at overlaid
          · cases overlaid
          · cases overlaid
            refine ⟨rfl, rfl, rfl, rfl, fun task member => ?_⟩
            rcases mem_spliceOverlay plan.tasks [] member with early | spliced | source
            · cases early
            · exact .inl spliced
            · exact .inr source

/-! ## Order -/

/-- Every `late` of the list has an `early` before it. -/
def precedes (early late : TaskType) : List TaskType → Bool
  | [] => true
  | type :: rest => if type = early then true else type ≠ late && precedes early late rest

theorem mem_of_precedes {early late : TaskType} (differ : late ≠ early) {rest : List TaskType} :
    ∀ {done types : List TaskType}, precedes early late types = true → types = done ++ late :: rest →
      early ∈ done := by
  intro done
  induction done with
  | nil =>
    intro types ordered split
    rw [split, List.nil_append, precedes, if_neg differ] at ordered
    simp at ordered
  | cons type done ih =>
    intro types ordered split
    rw [split, List.cons_append, precedes] at ordered
    split at ordered
    next same => rw [same]; exact List.mem_cons_self
    next =>
      have later : precedes early late (done ++ late :: rest) = true := by
        simp only [Bool.and_eq_true] at ordered
        exact ordered.2
      exact List.mem_cons_of_mem _ (ih later rfl)

theorem precedes_of_not_mem {early late : TaskType} {types : List TaskType} (absent : late ∉ types) :
    precedes early late types = true := by
  induction types with
  | nil => rfl
  | cons type types ih =>
    rw [precedes]
    split
    · rfl
    · have differ : type ≠ late := fun same => absent (same ▸ List.mem_cons_self)
      have later := ih fun member => absent (List.mem_cons_of_mem _ member)
      simp [differ, later]

def overlaidTypes (type : TaskType) : List TaskType :=
  if type = .configValidate then [.configPatch, type] else [type]

theorem types_spliceOverlay {patch : PatchFiles} (rest : List PlannedTask) :
    ∀ done : List PlannedTask, (spliceOverlay planID patch done rest).map PlannedTask.type =
      done.map PlannedTask.type ++ (rest.map PlannedTask.type).flatMap overlaidTypes := by
  induction rest with
  | nil => simp [spliceOverlay]
  | cons planned rest ih =>
    intro done
    rw [spliceOverlay, ih]
    by_cases judged : planned.type = .configValidate
    · simp [overlaidTypes, judged, buildPlannedTask]
    · simp [overlaidTypes, judged]

theorem precedes_overlaid {early late : TaskType} (differ : late ≠ .configPatch)
    {types : List TaskType} (ordered : precedes early late types = true) :
    precedes early late (types.flatMap overlaidTypes) = true := by
  induction types with
  | nil => rfl
  | cons type types ih =>
    have kept : precedes early late (type :: types.flatMap overlaidTypes) = true := by
      rw [precedes] at ordered ⊢
      split
      · rfl
      next unmet =>
        rw [if_neg unmet, Bool.and_eq_true] at ordered
        rw [Bool.and_eq_true]
        exact ⟨ordered.1, ih ordered.2⟩
    rw [List.flatMap_cons, overlaidTypes]
    split
    · rw [List.cons_append, List.singleton_append, precedes]
      split
      · rfl
      · simp [differ.symm, kept]
    · exact kept

theorem withConfigValues_tasks (overlaid : withConfigValues platform plan node = .ok result) :
    result.tasks = plan.tasks ∨ ∃ patch, result.tasks = spliceOverlay plan.id patch [] plan.tasks := by
  unfold withConfigValues at overlaid
  simp only [Except.bind_ok_iff] at overlaid
  obtain ⟨hash, -, overlaid⟩ := overlaid
  split at overlaid
  · cases overlaid
    exact .inl rfl
  · simp only [Except.bind_ok_iff] at overlaid
    obtain ⟨user, -, patch, -, overlaid⟩ := overlaid
    split at overlaid
    · simp [throw, throwThe, MonadExceptOf.throw] at overlaid
    · cases overlaid
      exact .inr ⟨patch, rfl⟩

theorem precedes_withConfigValues (overlaid : withConfigValues platform plan node = .ok result)
    {early late : TaskType} (differ : late ≠ .configPatch)
    (ordered : precedes early late plan.types = true) :
    precedes early late result.types = true := by
  rcases withConfigValues_tasks overlaid with same | ⟨patch, same⟩
  · rw [TaskPlan.types, same]
    exact ordered
  · rw [TaskPlan.types, same, types_spliceOverlay]
    exact precedes_overlaid differ ordered

/-! ## Fresh plans -/

/-- A plan as a builder returns it: Active, nothing started, Running at its end. -/
structure Fresh (plan : TaskPlan) : Prop where
  active : plan.phase = .active
  pending : ∀ task ∈ plan.tasks, task.status = .pending
  target : plan.targetPhase = .running

theorem fresh_assembleSteps (planID : String) (steps : List PlanStep) :
    Fresh (assembleSteps planID steps) :=
  ⟨rfl, pending_assembleSteps planID steps, rfl⟩

theorem Fresh.overlaid {plan result : TaskPlan} (fresh : Fresh plan)
    (overlaid : Overlaid plan result) : Fresh result where
  active := overlaid.phase.trans fresh.active
  pending task member := by
    rcases overlaid.tasks task member with ⟨_, pending⟩ | ⟨source, planned, _, _, same⟩
    · exact pending
    · rw [same]
      exact fresh.pending source planned
  target := overlaid.targetPhase.trans fresh.target

theorem Overlaid.types (overlaid : Overlaid plan result) (member : type ∈ result.types) :
    type = .configPatch ∨ type ∈ plan.types := by
  obtain ⟨task, planned, same⟩ := List.mem_map.mp member
  rcases overlaid.tasks task planned with ⟨spliced, _⟩ | ⟨source, kept, sameType, _⟩
  · exact .inl (same ▸ spliced)
  · exact .inr (List.mem_map.mpr ⟨source, kept, sameType.symm.trans same⟩)

/-! ## Startup plans -/

def startupTypes : List TaskType :=
  [.ensureDataPVC, .validateSigningKey, .validateNodeKey, .validateOperatorKeyring,
    .applyRBACProxyConfig, .applyStatefulSet, .applyService, .snapshotRestore, .configureGenesis,
    .configApply, .configureStateSync, .configPatch, .configValidate, .markReady, .generateIdentity,
    .generateGentx, .uploadGenesisArtifacts, .setGenesisPeers]

structure Startup (plan : TaskPlan) : Prop where
  fresh : Fresh plan
  failedPhase : plan.failedPhase = .failed
  types : ∀ type ∈ plan.types, type ∈ startupTypes

theorem mem_validations (member : type ∈ validations node) :
    type ∈ [TaskType.validateSigningKey, .validateNodeKey, .validateOperatorKeyring] := by
  unfold validations at member
  simp only [List.mem_append] at member
  rcases member with (member | member) | member
  all_goals
    split at member
    · simp_all
    · cases member

theorem mem_buildSidecarProgression {prog : List TaskType}
    (built : buildSidecarProgression snap = .ok prog) (member : type ∈ prog) :
    type ∈ startupTypes := by
  have base {type : TaskType} (member : type ∈ baseProgression (bootstrapMode snap)) :
      type ∈ startupTypes := by
    unfold baseProgression at member
    split at member
    all_goals
      simp only [List.mem_cons, List.not_mem_nil, or_false] at member
      rcases member with rfl | rfl | rfl | rfl <;> decide
  unfold buildSidecarProgression at built
  cases first : insertBefore (baseProgression (bootstrapMode snap)) .configApply .configureGenesis with
  | error err => rw [first] at built; cases built
  | ok genesis =>
    rw [first] at built
    simp only [bind, Except.bind] at built
    have early {type : TaskType} (member : type ∈ genesis) : type ∈ startupTypes := by
      rcases mem_insertBefore first member with rfl | later
      · decide
      · exact base later
    split at built
    · rcases mem_insertBefore built member with rfl | later
      · decide
      · exact early later
    · cases built
      exact early member

theorem types_startupPlan (planID : String) (node : SeiNode) (snap : Option SnapshotSource)
    (intent : ConfigIntent) (prog : List TaskType) :
    (startupPlan planID node snap intent prog).types = prog := by
  have steps := types_assembleSteps planID (prog.map fun taskType =>
    ⟨taskType, paramsForTaskType node taskType snap (some intent)⟩)
  rw [List.map_map] at steps
  exact steps.trans (List.map_id prog)

theorem startup_of_prog {intent : ConfigIntent} {prog : List TaskType}
    (types : ∀ type ∈ prog, type ∈ startupTypes)
    (built : withConfigValues platform (startupPlan planID node snap intent prog) node = .ok plan) :
    Startup plan := by
  have overlaid := withConfigValues_overlaid built
  have assembled := fresh_assembleSteps planID (prog.map fun taskType =>
    ⟨taskType, paramsForTaskType node taskType snap (some intent)⟩)
  have fresh : Fresh (startupPlan planID node snap intent prog) :=
    ⟨assembled.active, assembled.pending, assembled.target⟩
  refine ⟨fresh.overlaid overlaid, overlaid.failedPhase, fun type member => ?_⟩
  rcases overlaid.types member with rfl | planned
  · decide
  · rw [types_startupPlan] at planned
    exact types type planned

theorem startup_buildBasePlan {intent : ConfigIntent}
    (built : buildBasePlan platform planID node snap intent = .ok plan) : Startup plan := by
  unfold buildBasePlan at built
  cases first : buildSidecarProgression snap with
  | error err => rw [first] at built; cases built
  | ok prog =>
    rw [first] at built
    simp only [bind, Except.bind] at built
    refine startup_of_prog (fun type member => ?_) built
    simp only [List.mem_append] at member
    rcases member with ((member | member) | member) | member
    · simp only [List.mem_singleton] at member
      rw [member]
      decide
    · have keys := mem_validations member
      simp only [List.mem_cons, List.not_mem_nil, or_false] at keys
      rcases keys with rfl | rfl | rfl <;> decide
    · simp only [List.mem_cons, List.not_mem_nil, or_false] at member
      rcases member with rfl | rfl | rfl <;> decide
    · refine mem_buildSidecarProgression first ?_
      unfold withoutManagedConfigTasks at member
      split at member
      · exact (List.mem_filter.mp member).1
      · exact member

theorem startup_buildInitPlan {mode : ModePlanner}
    (built : mode.buildInitPlan platform planID node = .ok plan) : Startup plan := by
  cases mode with
  | full | archive | replayer | seed => exact startup_buildBasePlan built
  | validator spec =>
    unfold ModePlanner.buildInitPlan at built
    dsimp only at built
    split at built
    · unfold buildGenesisPlan at built
      exact startup_of_prog (by decide) built
    · exact startup_buildBasePlan built

/-! ## Plans of a Running node that mounts its configuration -/

def resetTypes : List TaskType :=
  [.observeImage, .markNotReady, .stopSeid, .resetDataKeepSignState, .recordDataReset]

theorem types_buildDataResetPlan (planID : String) (node : SeiNode) :
    (buildDataResetPlan planID node).types = resetTypes ++ [.markReady] := by
  have kept : (buildDataResetPlan planID node).types =
      (assembleSteps planID (dataResetSteps node)).types := by
    unfold buildDataResetPlan TaskPlan.types
    rw [List.map_map]
    apply List.map_congr_left
    intro task _
    simp only [Function.comp_apply, withResetBudget]
    split <;> rfl
  rw [kept, types_assembleSteps]
  rfl

def resetEnding (node : SeiNode) : List TaskType :=
  if node.spec.holdRequested ≠ .none then [.recordMaintenanceHold]
  else if node.status.maintenanceHold ≠ .none then [.markReady, .recordMaintenanceHold]
  else [.markReady]

theorem types_parkInsteadOfRelease (parked : parkInsteadOfRelease plan = .ok result) :
    result.types = plan.types.dropLast ++ [.recordMaintenanceHold] := by
  unfold parkInsteadOfRelease at parked
  split at parked
  · cases parked
    simp [TaskPlan.types, recordHoldStep, buildPlannedTask, List.map_dropLast]
  · cases parked

theorem types_clearHoldAfterRelease (cleared : clearHoldAfterRelease plan = .ok result) :
    result.types = plan.types ++ [.recordMaintenanceHold] := by
  unfold clearHoldAfterRelease at cleared
  split at cleared
  · cases cleared
    simp [TaskPlan.types, recordHoldStep, buildPlannedTask]
  · cases cleared

theorem types_finishDataReset
    (finished : finishDataReset node (buildDataResetPlan planID node) = .ok plan) :
    plan.types = resetTypes ++ resetEnding node := by
  unfold finishDataReset at finished
  unfold resetEnding
  split at finished
  next held =>
    rw [types_parkInsteadOfRelease finished, types_buildDataResetPlan, if_pos held,
      List.dropLast_concat]
  next unheld =>
    rw [if_neg unheld]
    split at finished
    next inEffect =>
      rw [types_clearHoldAfterRelease finished, types_buildDataResetPlan, if_pos inEffect]
      rfl
    next released =>
      cases finished
      rw [types_buildDataResetPlan, if_neg released]

/-- What changes the tasks of a plan at its end changes nothing else. -/
structure Retasked (plan result : TaskPlan) : Prop where
  phase : result.phase = plan.phase
  targetPhase : result.targetPhase = plan.targetPhase
  failedPhase : result.failedPhase = plan.failedPhase
  tasks : ∀ task ∈ result.tasks, task ∈ plan.tasks ∨
    task.type = .recordMaintenanceHold ∧ task.status = .pending

theorem Retasked.fresh {plan result : TaskPlan} (retasked : Retasked plan result)
    (fresh : Fresh plan) : Fresh result where
  active := retasked.phase.trans fresh.active
  pending task member := by
    rcases retasked.tasks task member with kept | ⟨_, pending⟩
    · exact fresh.pending task kept
    · exact pending
  target := retasked.targetPhase.trans fresh.target

theorem retasked_park (parked : parkInsteadOfRelease plan = .ok result) : Retasked plan result := by
  unfold parkInsteadOfRelease at parked
  split at parked
  · cases parked
    refine ⟨rfl, rfl, rfl, fun task member => ?_⟩
    rcases List.mem_append.mp member with kept | added
    · exact .inl (List.dropLast_subset _ kept)
    · rw [List.mem_singleton.mp added]
      exact .inr ⟨rfl, rfl⟩
  · cases parked

theorem retasked_clear (cleared : clearHoldAfterRelease plan = .ok result) :
    Retasked plan result := by
  unfold clearHoldAfterRelease at cleared
  split at cleared
  · cases cleared
    refine ⟨rfl, rfl, rfl, fun task member => ?_⟩
    rcases List.mem_append.mp member with kept | added
    · exact .inl kept
    · rw [List.mem_singleton.mp added]
      exact .inr ⟨rfl, rfl⟩
  · cases cleared

theorem retasked_finish
    (finished : finishDataReset node (buildDataResetPlan planID node) = .ok plan) :
    Retasked (buildDataResetPlan planID node) plan := by
  unfold finishDataReset at finished
  split at finished
  · exact retasked_park finished
  · split at finished
    · exact retasked_clear finished
    · cases finished
      exact ⟨rfl, rfl, rfl, fun task member => .inl member⟩

theorem mem_buildDataResetPlan {task : PlannedTask}
    (member : task ∈ (buildDataResetPlan planID node).tasks) :
    task.status = .pending ∧ ∃ step ∈ dataResetSteps node, task.type = step.taskType ∧
      task.params = step.params := by
  unfold buildDataResetPlan at member
  obtain ⟨source, planned, same⟩ := List.mem_map.mp member
  obtain ⟨step, listed, type, params⟩ := mem_tasks_assembleSteps planned
  have pending := pending_assembleSteps planID (dataResetSteps node) source planned
  rw [← same]
  unfold withResetBudget
  split
  · exact ⟨pending, step, listed, type, params⟩
  · exact ⟨pending, step, listed, type, params⟩

theorem fresh_buildDataResetPlan (planID : String) (node : SeiNode) :
    Fresh (buildDataResetPlan planID node) :=
  ⟨rfl, fun _ member => (mem_buildDataResetPlan member).1, rfl⟩

inductive StaticRunning (platform : Platform) (planID : String) (node : SeiNode) :
    TaskPlan → Prop
  | reset (plan : TaskPlan) (due : dataResetPending node = true)
      (finished : finishDataReset node (buildDataResetPlan planID node) = .ok plan) :
      StaticRunning platform planID node plan
  | hold (plan : TaskPlan) (settled : dataResetPending node = false)
      (built : buildHoldPlan planID node node.spec.holdRequested node.status.maintenanceHold =
        some plan) : StaticRunning platform planID node plan
  | update (settled : dataResetPending node = false)
      (inEffect : node.spec.holdRequested = node.status.maintenanceHold) :
      StaticRunning platform planID node
        (if node.spec.holdRequested ≠ .none then
          withoutMarkReady (buildStaticUpdatePlan platform planID node)
        else buildStaticUpdatePlan platform planID node)
  | reapprove (settled : dataResetPending node = false)
      (released : node.spec.holdRequested = .none)
      (inEffect : node.spec.holdRequested = node.status.maintenanceHold) :
      StaticRunning platform planID node (buildMarkReadyPlan planID node)

theorem buildHoldPlan_none {want inEffect : MaintenanceHold}
    (built : buildHoldPlan planID node want inEffect = none) : want = inEffect := by
  unfold buildHoldPlan at built
  split at built
  · cases built
  · split at built
    next same => exact same
    next => cases built

theorem staticRunning_of_built {after : SeiNode}
    (built : buildStaticRunningPlan platform planID node = (after, .ok (some plan))) :
    StaticRunning platform planID node plan := by
  unfold buildStaticRunningPlan at built
  split at built
  next due =>
    split at built
    · cases built
    next finished =>
      cases built
      exact .reset plan due finished
  next settled =>
    have settled : dataResetPending node = false := by simpa using settled
    split at built
    next hold =>
      cases built
      exact .hold plan settled hold
    next unneeded =>
      have same := buildHoldPlan_none unneeded
      split at built
      · cases built
        exact .update settled same
      · split at built
        next lost =>
          cases built
          exact .reapprove settled lost.2 same
        · cases built

def holdTypes : MaintenanceHold → MaintenanceHold → List TaskType
  | .immediate, _ => [.markNotReady, .stopSeid, .recordMaintenanceHold]
  | .afterExit, .immediate =>
    [.observeImage, .startSeidOnce, .awaitSeidStart, .markNotReady, .recordMaintenanceHold]
  | .afterExit, _ => [.markNotReady, .recordMaintenanceHold]
  | .none, _ => [.observeImage, .markReady, .recordMaintenanceHold]

theorem types_holdSteps (planID : String) (node : SeiNode) (want inEffect : MaintenanceHold) :
    (assembleSteps planID (holdSteps node want inEffect)).types = holdTypes want inEffect := by
  rw [types_assembleSteps]
  cases want <;> cases inEffect <;> rfl

/-- A hold plan applies the hold in effect again, or moves to the one requested. -/
theorem buildHoldPlan_some {want inEffect : MaintenanceHold}
    (built : buildHoldPlan planID node want inEffect = some plan) :
    Fresh plan ∧ plan.failedPhase = .empty ∧
      (want ≠ .none ∧ inEffect ≠ .none ∧ plan.types = holdTypes inEffect .none ∨
        want ≠ inEffect ∧ plan.types = holdTypes want inEffect) := by
  unfold buildHoldPlan at built
  split at built
  next open_ =>
    cases built
    exact ⟨fresh_assembleSteps planID _, rfl,
      .inl ⟨open_.1, open_.2.1, types_holdSteps planID node inEffect .none⟩⟩
  · split at built
    · cases built
    next differ =>
      cases built
      exact ⟨fresh_assembleSteps planID _, rfl,
        .inr ⟨differ, types_holdSteps planID node want inEffect⟩⟩

theorem types_buildStaticUpdatePlan (platform : Platform) (planID : String) (node : SeiNode) :
    (buildStaticUpdatePlan platform planID node).types =
      validations node ++ [.applyStatefulSet, .applyService, .observeImage, .markReady] := by
  unfold buildStaticUpdatePlan
  rw [types_assembleSteps, List.map_map]
  exact List.map_id _

theorem types_buildMarkReadyPlan (planID : String) (node : SeiNode) :
    (buildMarkReadyPlan planID node).types = [.markReady] :=
  types_assembleSteps planID _

theorem mem_types_withoutMarkReady (member : type ∈ (withoutMarkReady plan).types) :
    type ≠ .markReady ∧ type ∈ plan.types := by
  unfold withoutMarkReady TaskPlan.types at member
  obtain ⟨task, kept, same⟩ := List.mem_map.mp member
  have both := List.mem_filter.mp kept
  refine ⟨?_, List.mem_map.mpr ⟨task, both.1, same⟩⟩
  rw [← same]
  simpa using both.2

theorem fresh_withoutMarkReady (fresh : Fresh plan) : Fresh (withoutMarkReady plan) :=
  ⟨fresh.active, fun task member => fresh.pending task (List.mem_filter.mp member).1, fresh.target⟩

def quietUpdateTypes : List TaskType :=
  [.validateSigningKey, .validateNodeKey, .validateOperatorKeyring, .applyStatefulSet,
    .applyService, .observeImage]

theorem mem_update (member : type ∈ (buildStaticUpdatePlan platform planID node).types) :
    type = .markReady ∨ type ∈ quietUpdateTypes := by
  rw [types_buildStaticUpdatePlan] at member
  rcases List.mem_append.mp member with keys | rest
  · have listed := mem_validations keys
    simp only [List.mem_cons, List.not_mem_nil, or_false] at listed
    rcases listed with rfl | rfl | rfl <;> decide
  · simp only [List.mem_cons, List.not_mem_nil, or_false] at rest
    rcases rest with rfl | rfl | rfl | rfl <;> decide

def settledTypes : List TaskType :=
  quietUpdateTypes ++ [.markReady, .markNotReady, .stopSeid, .startSeidOnce, .awaitSeidStart,
    .recordMaintenanceHold]

theorem holdTypes_subset_settled {want inEffect : MaintenanceHold} :
    holdTypes want inEffect ⊆ settledTypes := by
  cases want <;> cases inEffect <;> decide

namespace StaticRunning

theorem fresh (built : StaticRunning platform planID node plan) :
    Fresh plan ∧ plan.failedPhase = .empty := by
  cases built with
  | reset _ _ finished =>
    exact ⟨(retasked_finish finished).fresh (fresh_buildDataResetPlan planID node),
      (retasked_finish finished).failedPhase⟩
  | hold _ _ held => exact ⟨(buildHoldPlan_some held).1, (buildHoldPlan_some held).2.1⟩
  | update =>
    split
    · exact ⟨fresh_withoutMarkReady (fresh_assembleSteps planID _), rfl⟩
    · exact ⟨fresh_assembleSteps planID _, rfl⟩
  | reapprove => exact ⟨fresh_assembleSteps planID _, rfl⟩

/-- A plan of the Running arm is a reset that is due, or stays within the settled types. -/
theorem mem_types (built : StaticRunning platform planID node plan) (member : type ∈ plan.types) :
    dataResetPending node = true ∧ type ∈ resetTypes ++ resetEnding node ∨ type ∈ settledTypes := by
  have update (listed : type ∈ (buildStaticUpdatePlan platform planID node).types) :
      type ∈ settledTypes := by
    rcases mem_update listed with rfl | quiet
    · decide
    · exact List.mem_append_left _ quiet
  cases built with
  | reset _ due finished =>
    rw [types_finishDataReset finished] at member
    exact .inl ⟨due, member⟩
  | hold _ _ held =>
    rcases (buildHoldPlan_some held).2.2 with ⟨_, _, types⟩ | ⟨_, types⟩
    · rw [types] at member
      exact .inr (holdTypes_subset_settled member)
    · rw [types] at member
      exact .inr (holdTypes_subset_settled member)
  | update =>
    split at member
    · exact .inr (update (mem_types_withoutMarkReady member).2)
    · exact .inr (update member)
  | reapprove =>
    rw [types_buildMarkReadyPlan, List.mem_singleton] at member
    rw [member]
    exact .inr (by decide)

theorem not_reset_types (built : StaticRunning platform planID node plan)
    (settled : dataResetPending node = false) :
    .resetDataKeepSignState ∉ plan.types ∧ .recordDataReset ∉ plan.types := by
  have absent {type : TaskType} (unlisted : type ∉ settledTypes) : type ∉ plan.types := by
    intro member
    rcases built.mem_types member with ⟨due, _⟩ | listed
    · cases settled.symm.trans due
    · exact unlisted listed
  exact ⟨absent (by decide), absent (by decide)⟩

/-- Under a requested hold no plan of a Running node carries mark-ready. -/
theorem no_markReady (built : StaticRunning platform planID node plan)
    (held : node.spec.holdRequested ≠ .none) : .markReady ∉ plan.types := by
  cases built with
  | reset _ _ finished =>
    rw [types_finishDataReset finished, resetEnding, if_pos held]
    decide
  | hold _ _ planned =>
    rcases (buildHoldPlan_some planned).2.2 with ⟨_, inEffect, types⟩ | ⟨_, types⟩
    · rw [types]
      revert inEffect
      cases node.status.maintenanceHold <;> decide
    · rw [types]
      revert held
      cases node.spec.holdRequested <;> cases node.status.maintenanceHold <;> decide
  | update =>
    rw [if_pos held]
    exact fun member => (mem_types_withoutMarkReady member).1 rfl
  | reapprove _ released => exact absurd released held

end StaticRunning

end SeiController
