import SeiController.Controller.MountedRun

/-!
# The declarative data reset over whole runs

The handled counter of a Running node moves only when `record-data-reset` runs behind a
Complete wipe, the wipe only runs behind a closed gate and a stopped seid, and no start is
submitted while a reset is pending.
-/

set_option autoImplicit false

namespace SeiController

def TaskPlan.completed (plan : TaskPlan) (type : TaskType) : Prop :=
  ∃ task ∈ plan.tasks, task.type = type ∧ task.status = .complete

/-! ## The order inside a plan -/

/-- What stands before a task in the plan as it was stored is Complete once the task is
driven. -/
theorem completed_of_precedes {first plan : TaskPlan} {early : TaskType}
    {done rest : List PlannedTask} {task : PlannedTask} (differ : task.type ≠ early)
    (ordered : precedes early task.type first.types = true) (evolved : PlanEvolves first plan)
    (tasks : List.Forall₂ Evolves plan.tasks (done ++ task :: rest))
    (passed : ∀ earlier ∈ done, earlier.status = .complete) :
    { plan with tasks := done ++ task :: rest }.completed early := by
  have types : first.types =
      done.map PlannedTask.type ++ task.type :: rest.map PlannedTask.type := by
    have same := types_of_evolves (forall₂_evolves_trans evolved.tasks tasks)
    rw [List.map_append, List.map_cons] at same
    exact same.symm
  obtain ⟨earlier, member, type⟩ := List.mem_map.mp (mem_of_precedes differ ordered types)
  exact ⟨earlier, List.mem_append_left _ member, type, passed earlier member⟩

structure ResetOrder (types : List TaskType) : Prop where
  closed : precedes .markNotReady .resetDataKeepSignState types = true
  stopped : precedes .stopSeid .resetDataKeepSignState types = true
  wiped : precedes .resetDataKeepSignState .recordDataReset types = true

theorem resetOrder_of_absent {types : List TaskType} (wipe : .resetDataKeepSignState ∉ types)
    (record : .recordDataReset ∉ types) : ResetOrder types :=
  ⟨precedes_of_not_mem wipe, precedes_of_not_mem wipe, precedes_of_not_mem record⟩

theorem resetOrder_finished (node : SeiNode) : ResetOrder (resetTypes ++ resetEnding node) := by
  unfold resetEnding
  split
  · exact ⟨by decide, by decide, by decide⟩
  · split
    · exact ⟨by decide, by decide, by decide⟩
    · exact ⟨by decide, by decide, by decide⟩

theorem mem_startup_types {base plan : TaskPlan} (started : Startup base)
    (ending : plan = base ∨ parkInsteadOfRelease base = .ok plan) {type : TaskType}
    (member : type ∈ plan.types) : type ∈ startupTypes ∨ type = .recordMaintenanceHold := by
  rcases ending with rfl | parked
  · exact .inl (started.types type member)
  · rw [types_parkInsteadOfRelease parked] at member
    rcases List.mem_append.mp member with kept | added
    · exact .inl (started.types type (List.dropLast_subset _ kept))
    · exact .inr (List.mem_singleton.mp added)

variable {platform : Platform} {node : SeiNode} {plan : TaskPlan}

theorem StaticRunning.resets {planID : String} (built : StaticRunning platform planID node plan)
    (due : dataResetPending node = true) :
    finishDataReset node (buildDataResetPlan planID node) = .ok plan := by
  cases built with
  | reset _ _ finished => exact finished
  | hold _ settled | update settled | reapprove settled => rw [due] at settled; cases settled

theorem StoredPlan.resetOrder (stored : StoredPlan platform node plan) : ResetOrder plan.types := by
  cases stored with
  | running _ before same planID built =>
    cases due : dataResetPending before with
    | true =>
      rw [types_finishDataReset (built.resets due)]
      exact resetOrder_finished before
    | false => exact resetOrder_of_absent (built.not_reset_types due).1 (built.not_reset_types due).2
  | startup _ base started ending =>
    have types {type : TaskType} (member : type ∈ plan.types) :=
      mem_startup_types started (ending.imp And.right And.right) member
    exact resetOrder_of_absent (fun member => absurd (types member) (by decide))
      (fun member => absurd (types member) (by decide))

/-- The record carries the counter the plan was built for. -/
theorem StoredPlan.recorded_generation (stored : StoredPlan platform node plan) {task : PlannedTask}
    (member : task ∈ plan.tasks) (type : task.type = .recordDataReset) :
    task.params.generation = node.spec.dataResetGeneration := by
  have listed : TaskType.recordDataReset ∈ plan.types := List.mem_map.mpr ⟨task, member, type⟩
  cases stored with
  | running _ before same planID built =>
    cases due : dataResetPending before with
    | false => exact absurd listed (built.not_reset_types due).2
    | true =>
      rcases (retasked_finish (built.resets due)).tasks task member with kept | ⟨other, _⟩
      · obtain ⟨_, step, steps, stepType, params⟩ := mem_buildDataResetPlan kept
        rw [type] at stepType
        simp only [dataResetSteps, List.mem_cons, List.not_mem_nil, or_false] at steps
        rw [params, ← same.spec]
        rcases steps with rfl | rfl | rfl | rfl | rfl | rfl <;> first | rfl | cases stepType
      · rw [type] at other
        cases other
  | startup _ base started ending =>
    exact absurd (mem_startup_types started (ending.imp And.right And.right) listed) (by decide)

/-! ## Submissions -/

theorem taskType_ne_wipe (kind : SeiNodeTaskKind) :
    SeiNodeTask.taskType kind ≠ some .resetDataKeepSignState := by
  cases kind <;> simp [SeiNodeTask.taskType]

theorem taskType_ne_record (kind : SeiNodeTaskKind) :
    SeiNodeTask.taskType kind ≠ some .recordDataReset := by
  cases kind <;> simp [SeiNodeTask.taskType]

/-- A start the guard let through finds no pending reset. -/
theorem dataResetPending_of_guardPasses {type : TaskType} (passes : GuardPasses type node)
    (start : type = .markReady ∨ type = .startSeidOnce) : dataResetPending node = false := by
  rcases start with rfl | rfl
  · exact ((startBlocked_eq_none node).mp (passes .startBlocked rfl)).1
  · exact ((startOnceBlocked_eq_none node).mp (passes .startOnceBlocked rfl)).1

theorem generation_le_of_settled (mounted : node.mountsNodeConfig = true)
    (settled : dataResetPending node = false) :
    node.spec.dataResetGeneration ≤ node.status.dataResetGeneration := by
  have configured : node.spec.nodeConfig.isSome = true := mounted
  simpa [dataResetPending, configured] using settled

section

variable {ε : Type} {world : World ε} {origin : Origin} {task : PlannedTask} {accepted : Bool}

/-- Every submitted wipe stands behind the Complete tasks that hold seid. -/
theorem MountedInv.wipe_held (inv : MountedInv platform world)
    (submitted : Event.submitted origin task node accepted ∈ world.log)
    (wipe : task.type = .resetDataKeepSignState) :
    ∃ plan, origin = .nodePlan plan ∧ plan.completed .markNotReady ∧ plan.completed .stopSeid := by
  cases inv.events _ submitted with
  | quiet quiet => cases quiet
  | driven _ _ _ plan planned from_ =>
    obtain ⟨_, first, _, stored, evolved⟩ := inv.storedPlan planned
    obtain ⟨done, current, rest, tasks, passed, _, made⟩ := from_
    have order := stored.resetOrder
    cases made with
    | submitted =>
      refine ⟨_, rfl, completed_of_precedes ?_ ?_ evolved tasks passed,
        completed_of_precedes ?_ ?_ evolved tasks passed⟩
      · rw [wipe]; decide
      · rw [wipe]; exact order.closed
      · rw [wipe]; decide
      · rw [wipe]; exact order.stopped
  | task cr target _ made =>
    obtain ⟨_, execution, type, params, _, kind, made, _⟩ := made
    cases made with
    | submitted => exact absurd (kind.trans (congrArg some wipe)) (taskType_ne_wipe cr.kind)

/-- No start is submitted for a node with a pending reset. -/
theorem MountedInv.start_settled (inv : MountedInv platform world)
    (submitted : Event.submitted origin task node accepted ∈ world.log)
    (start : task.type = .markReady ∨ task.type = .startSeidOnce) :
    node.spec.dataResetGeneration ≤ node.status.dataResetGeneration := by
  cases inv.events _ submitted with
  | quiet quiet => cases quiet
  | driven seen mounted on plan _ from_ =>
    obtain ⟨done, current, rest, _, _, _, made⟩ := from_
    cases made with
    | submitted _ _ _ _ _ passes =>
      exact generation_le_of_settled (mountsNodeConfig_of_spec (SameFrame.spec on).symm mounted)
        (dataResetPending_of_guardPasses passes start)
  | task cr target mounted made =>
    obtain ⟨on, execution, type, params, _, _, made, _⟩ := made
    cases made with
    | submitted _ _ _ _ _ passes =>
      exact generation_le_of_settled (mountsNodeConfig_of_spec (SameFrame.spec on).symm mounted)
        (dataResetPending_of_guardPasses passes start)

/-- Since `old`, `record-data-reset` ran behind a Complete wipe and recorded the counter its
plan was built for. -/
def RecordedReset (old new : List Event) (value : Int) : Prop :=
  ∃ plan task before after node first,
    Log.Gained old new (.executed (.nodePlan plan) task before after) ∧
    task.type = .recordDataReset ∧ plan.completed .resetDataKeepSignState ∧
    Event.stored node first ∈ new ∧ PlanEvolves first plan ∧
    value = node.spec.dataResetGeneration

theorem MountedInv.recordedReset (inv : MountedInv platform world) {old : List Event} {value : Int}
    {event : Event} (gained : Log.Gained old world.log event)
    (ran : RanTask .recordDataReset (fun task => value = task.params.generation) event) :
    RecordedReset old world.log value := by
  obtain ⟨origin, task, before, after, rfl, type, same⟩ := ran
  cases inv.events _ gained.mem with
  | quiet quiet => cases quiet
  | driven _ _ _ plan planned from_ =>
    obtain ⟨node, first, storedMem, stored, evolved⟩ := inv.storedPlan planned
    obtain ⟨done, current, rest, tasks, passed, _, made⟩ := from_
    cases made with
    | executed =>
      have all := forall₂_evolves_trans evolved.tasks tasks
      obtain ⟨source, member, evolves⟩ := exists_evolved_from all
        (List.mem_append_right done List.mem_cons_self)
      refine ⟨_, task, before, after, node, first, gained, type,
        completed_of_precedes ?_ ?_ evolved tasks passed, storedMem, ?_, ?_⟩
      · rw [type]; decide
      · rw [type]; exact stored.resetOrder.wiped
      · exact ⟨evolved.id, evolved.targetPhase, evolved.failedPhase, evolved.configValuesHash, all⟩
      · rw [same, evolves.params]
        exact stored.recorded_generation member (evolves.type.symm.trans type)
  | task cr target _ made =>
    obtain ⟨_, execution, type', params, _, kind, made, _⟩ := made
    cases made with
    | executed => exact absurd (kind.trans (congrArg some type)) (taskType_ne_record cr.kind)

variable {env : Env ε} {next : World ε} {action : Action}

theorem MountedInv.generation_step (inv : MountedInv platform world)
    (move : World.Step env platform world action next) :
    world.latest.status.dataResetGeneration ≤ next.latest.status.dataResetGeneration ∧
      (world.latest.status.phase = .running →
        next.latest.status.dataResetGeneration ≠ world.latest.status.dataResetGeneration →
        RecordedReset world.log next.log next.latest.status.dataResetGeneration) := by
  rcases inv.latest_step move with same | ⟨flow, log, visited⟩
  · rw [same]
    exact ⟨Int.le_refl _, fun _ changed => absurd rfl changed⟩
  · refine ⟨visited.rising, fun running changed => ?_⟩
    rcases visited.generation running with same | ⟨event, gained, ran⟩
    · exact absurd same changed
    · rw [log] at gained
      exact (inv.step move).recordedReset gained ran

end

/-! ## The reset over runs -/

/-- In every run of a node that mounts its configuration: the handled counter never decreases;
while the node is Running it changes only when `record-data-reset` runs behind a Complete wipe,
to the counter its plan was built for; a wipe is submitted only behind a Complete mark-not-ready
and stop-seid of its plan; and no start is submitted for a node whose spec counter is above its
status counter. -/
theorem data_reset_recorded_behind_wipe {ε : Type} (env : Env ε) (platform : Platform)
    (world : World ε)
    (reached : World.Reached env platform World.Mounted (fun _ _ => True) world) :
    (∀ action next, World.Step env platform world action next →
      world.latest.status.dataResetGeneration ≤ next.latest.status.dataResetGeneration ∧
        (world.latest.status.phase = .running →
          next.latest.status.dataResetGeneration ≠ world.latest.status.dataResetGeneration →
          RecordedReset world.log next.log next.latest.status.dataResetGeneration)) ∧
      ∀ origin task node accepted, Event.submitted origin task node accepted ∈ world.log →
        (task.type = .resetDataKeepSignState → ∃ plan, origin = .nodePlan plan ∧
          plan.completed .markNotReady ∧ plan.completed .stopSeid) ∧
        (task.type = .markReady ∨ task.type = .startSeidOnce →
          node.spec.dataResetGeneration ≤ node.status.dataResetGeneration) := by
  have inv := reached.mountedInv
  refine ⟨fun action next move => inv.generation_step move, ?_⟩
  intro origin task node accepted submitted
  exact ⟨inv.wipe_held submitted, inv.start_settled submitted⟩

/-! ### A run that resets -/

def rolledEnv : Env Unit :=
  { quietEnv with getStatefulSet := fun state _ => (state, .ok ⟨1, 1, some 1, 1, "", ""⟩) }

def sampleMounted : SeiNode :=
  { name := "node"
    spec := { nodeConfig := some ⟨"config", "app"⟩, fullNode := some ⟨none, none, none⟩ } }

def mountedWorld : World Unit := ⟨sampleMounted, [], [], [], [], (), []⟩

def World.reconciled (world : World Unit) : World Unit :=
  world.afterReconcile rolledEnv samplePlatform

def startedWorld : World Unit := mountedWorld.reconciled.reconciled

def requestReset (node : SeiNode) : SeiNode :=
  { node with spec := { node.spec with dataResetGeneration := 1 } }

def resettingWorld : World Unit :=
  (startedWorld.afterEdit (requestReset startedWorld.latest)).reconciled

theorem reached_reconciled {world : World Unit}
    (reached : World.Reached rolledEnv samplePlatform World.Mounted (fun _ _ => True) world) :
    World.Reached rolledEnv samplePlatform World.Mounted (fun _ _ => True) world.reconciled :=
  reached.step rolledEnv samplePlatform trivial (.afterReconcile rolledEnv samplePlatform world)

theorem reached_startedWorld :
    World.Reached rolledEnv samplePlatform World.Mounted (fun _ _ => True) startedWorld :=
  reached_reconciled (reached_reconciled (.start ⟨⟨rfl, rfl, rfl, rfl, rfl, rfl, rfl⟩, rfl⟩))

theorem reached_resettingWorld :
    World.Reached rolledEnv samplePlatform World.Mounted (fun _ _ => True) resettingWorld := by
  refine reached_reconciled (reached_startedWorld.step rolledEnv samplePlatform trivial
    (.edit startedWorld (requestReset startedWorld.latest) ⟨rfl, rfl, rfl, rfl, rfl, rfl, ?_, rfl, ?_⟩))
  · exact fun _ => rfl
  · decide +kernel

theorem sample_run_records_reset :
    resettingWorld.reconciled.latest.status.dataResetGeneration = 1 ∧
      RecordedReset resettingWorld.log resettingWorld.reconciled.log 1 := by
  have before : resettingWorld.latest.status.dataResetGeneration = 0 := by decide +kernel
  have after : resettingWorld.reconciled.latest.status.dataResetGeneration = 1 := by decide +kernel
  have recorded := ((data_reset_recorded_behind_wipe rolledEnv samplePlatform resettingWorld
    reached_resettingWorld).1 _ _ (.afterReconcile rolledEnv samplePlatform resettingWorld)).2
      (by decide +kernel)
  refine ⟨after, ?_⟩
  rw [show (resettingWorld.afterReconcile rolledEnv samplePlatform) = resettingWorld.reconciled from rfl,
    before, after] at recorded
  exact recorded (by decide +kernel)

end SeiController
