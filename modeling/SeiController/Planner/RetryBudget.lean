import SeiController.Lib.System
import SeiController.Planner.PlanAdvance
import SeiController.Sidecar.EngineEnv
import SeiController.Sidecar.RunCount

/-!
# The retry budget against the engine

The executor counts retries in the plan, the engine decides in `Submit` whether to run
a failed task again, and a running task stays Pending, so every reconcile submits it
again.  The two counts agree as long as no submission finds a failed run that the plan
has not counted; a run that fails between two reconciles is such a run.
-/

set_option autoImplicit false

namespace SeiController

/-! ## Runs of one plan -/

/-- The stored plan, the versions a stale cache may still serve, and the engine. -/
structure RetryWorld where
  plan : TaskPlan
  past : List TaskPlan
  engine : Engine

def PlannedTask.polled (task : PlannedTask) : Prop :=
  registry task.type = some (.sidecar false)

section

variable {ρ : Type} (registered : TaskType → Bool) (base : Env ρ) (platform : Platform)
  (owner : PlanOwner) (origin : TaskPlan → Origin)

structure Visit (ρ : Type) where
  node : SeiNode
  claims : List PersistentVolumeClaim
  ticks : List Tick
  rest : ρ

def Visit.start (visit : Visit ρ) (engine : Engine) : Ctx (SidecarState ρ) :=
  ⟨visit.node, visit.claims, ⟨engine, visit.ticks, [], visit.rest⟩, []⟩

def drive (plan : TaskPlan) (engine : Engine) (visit : Visit ρ) : TaskPlan × Ctx (SidecarState ρ) :=
  executePlan (engineEnv registered base) platform owner origin plan (visit.start engine)

structure RetryWorld.Initial (world : RetryWorld) : Prop where
  distinct : (world.plan.tasks.map PlannedTask.id).Nodup
  unretried : ∀ task ∈ world.plan.tasks, task.retryCount = 0
  past : world.past = []
  wf : world.engine.WellFormed
  unheard : ∀ task ∈ world.plan.tasks, world.engine.row task.id = none ∧
    world.engine.handlerRuns task.id = 0 ∧ ∀ run ∈ world.engine.runs, run.id ≠ task.id

/-- The steps of controller and sidecar.  A reconcile may read an old version of the
plan, but its status write lands only on the version it read.  `allowed` restricts
what a plan version's submissions may find. -/
inductive RetryStep (allowed : TaskPlan → List Arrival → Prop) (world : RetryWorld) :
    RetryWorld → Prop
  | sidecar (event : Engine.RunEvent) :
      RetryStep allowed world { world with engine := world.engine.advance event }
  | foreign (request : TaskRequest) (now : Nat) (fault : StoreFault)
      (other : ∀ task ∈ world.plan.tasks, request.id ≠ task.id) :
      RetryStep allowed world
        { world with engine := (world.engine.submit registered request now fault).1 }
  | reconcile (visit : Visit ρ)
      (allows : allowed world.plan
        (drive registered base platform owner origin world.plan world.engine visit).2.env.arrivals) :
      RetryStep allowed world
        { plan := (drive registered base platform owner origin world.plan world.engine visit).1
          past := world.plan :: world.past
          engine := (drive registered base platform owner origin world.plan world.engine
            visit).2.env.engine }
  | unpersisted (version : TaskPlan) (known : version ∈ world.plan :: world.past)
      (visit : Visit ρ)
      (allows : allowed version
        (drive registered base platform owner origin version world.engine visit).2.env.arrivals) :
      RetryStep allowed world
        { world with
          engine := (drive registered base platform owner origin version world.engine
            visit).2.env.engine }

/-- No submission of `plan` finds a failed run of a polled task that the plan has
not counted, and the engine's store answers. -/
def Accounted (plan : TaskPlan) (arrivals : List Arrival) : Prop :=
  ∀ arrival ∈ arrivals, ∀ task ∈ plan.tasks, task.polled → arrival.request.id = task.id →
    arrival.fault.get = false ∧
      ∀ row, arrival.engine.row task.id = some row → row.status = .failed →
        row.run ≤ task.retryCount

/-! ## The invariant -/

structure Budgeted (world : RetryWorld) : Prop where
  distinct : (world.plan.tasks.map PlannedTask.id).Nodup
  versions : ∀ version ∈ world.plan :: world.past,
    List.Forall₂ Evolves version.tasks world.plan.tasks
  budget : ∀ task ∈ world.plan.tasks, task.retryCount ≤ task.maxRetries
  wf : world.engine.WellFormed
  counted : ∀ task ∈ world.plan.tasks, task.polled →
    world.engine.Counted task.id task.type (task.retryCount + 1)

theorem budgeted_initial {world : RetryWorld} (initial : world.Initial) : Budgeted world where
  distinct := initial.distinct
  versions := by
    rw [initial.past]
    simpa using forall₂_evolves_refl world.plan.tasks
  budget task member := by rw [initial.unretried task member]; exact Nat.zero_le _
  wf := initial.wf
  counted task member _ := by
    obtain ⟨absent, unstarted, quiet⟩ := initial.unheard task member
    have zero : world.engine.rowRun task.id = 0 := by simp [Engine.rowRun, absent]
    exact
      { count := by rw [unstarted, zero]
        bounded := by rw [zero]; exact Nat.zero_le _
        typed := by simp [absent]
        pending := fun run member sameId => absurd sameId (quiet run member)
        single := fun run member _ _ sameId => absurd sameId (quiet run member) }

theorem PlannedTask.polled.not_markReady {task : PlannedTask} (polled : task.polled) :
    task.type ≠ .markReady := by
  intro same
  simp [PlannedTask.polled, same, registry] at polled

theorem PlannedTask.polled.request {task : PlannedTask} (polled : task.polled) :
    sidecarRequest task.type = some (task.type, false) :=
  sidecarRequest_sidecar polled

theorem Budgeted.task_of_id {world : RetryWorld} (budgeted : Budgeted world) {version : TaskPlan}
    (known : version ∈ world.plan :: world.past) {old task : PlannedTask}
    (oldMember : old ∈ version.tasks) (member : task ∈ world.plan.tasks)
    (sameId : old.id = task.id) : Evolves old task := by
  obtain ⟨new, newMember, evolves⟩ :=
    exists_evolved (budgeted.versions version known) oldMember
  have same : new = task :=
    List.inj_on_of_nodup_map budgeted.distinct newMember member (evolves.id.trans sameId)
  exact same ▸ evolves

/-- The engine's half of the invariant, for the tasks of the stored plan. -/
def CountedFor (plan : TaskPlan) (engine : Engine) : Prop :=
  engine.WellFormed ∧ ∀ task ∈ plan.tasks, task.polled →
    engine.Counted task.id task.type (task.retryCount + 1)

theorem CountedFor.advance {plan : TaskPlan} {engine : Engine} (holds : CountedFor plan engine)
    (event : Engine.RunEvent) : CountedFor plan (engine.advance event) := by
  have step := engine.advance_advanced event
  exact ⟨holds.1.advanced step, fun task member polled =>
    (holds.2 task member polled).advanced holds.1 polled.not_markReady step⟩

theorem CountedFor.foreign {plan : TaskPlan} {engine : Engine} (holds : CountedFor plan engine)
    {request : TaskRequest} (now : Nat) (fault : StoreFault)
    (other : ∀ task ∈ plan.tasks, request.id ≠ task.id) :
    CountedFor plan (engine.submit registered request now fault).1 := by
  have step := engine.submit_submitted registered request now fault
  exact ⟨holds.1.submitted step, fun task member polled =>
    (holds.2 task member polled).submitted (fun same => absurd same (other task member)) step⟩

theorem Budgeted.countedFor {world : RetryWorld} (budgeted : Budgeted world) :
    CountedFor world.plan world.engine :=
  ⟨budgeted.wf, budgeted.counted⟩

theorem Budgeted.submit {world : RetryWorld} (budgeted : Budgeted world) {version : TaskPlan}
    (known : version ∈ world.plan :: world.past) {engine : Engine}
    (holds : CountedFor world.plan engine) {arrivals : List Arrival} {request : TaskRequest}
    (now : Nat) (fault : StoreFault)
    (requested : ∃ old ∈ version.tasks, ∃ forget,
      sidecarRequest old.type = some (request.type, forget) ∧ request.id = old.id)
    (accounted : Accounted version (⟨request, engine, fault⟩ :: arrivals)) :
    CountedFor world.plan (engine.submit registered request now fault).1 := by
  have step := engine.submit_submitted registered request now fault
  refine ⟨holds.1.submitted step, fun task member polled =>
    (holds.2 task member polled).submitted (fun sameId => ?_) step⟩
  obtain ⟨old, oldMember, forget, sidecar, ownId⟩ := requested
  have evolves := budgeted.task_of_id known oldMember member (ownId.symm.trans sameId)
  have oldPolled : old.polled := by
    unfold PlannedTask.polled at polled ⊢
    rwa [evolves.type] at polled
  rw [oldPolled.request] at sidecar
  have ownType : old.type = request.type := congrArg Prod.fst (Option.some.inj sidecar)
  obtain ⟨answers, counts⟩ := accounted _ List.mem_cons_self old oldMember oldPolled ownId
  refine ⟨ownType.symm.trans evolves.type.symm, answers, Nat.le_add_left 1 _, fun row found failed => ?_⟩
  have number := counts row (by rw [← evolves.id]; exact found) failed
  have grown := evolves.retries
  omega

theorem Budgeted.drive {world : RetryWorld} (budgeted : Budgeted world) {version : TaskPlan}
    (known : version ∈ world.plan :: world.past) (visit : Visit ρ)
    (accounted : Accounted version
      (drive registered base platform owner origin version world.engine visit).2.env.arrivals) :
    CountedFor world.plan
      (drive registered base platform owner origin version world.engine visit).2.env.engine := by
  have closed : EnvClosed (engineEnv registered base)
      (.submitting fun request => ∃ old ∈ version.tasks, ∃ forget,
        sidecarRequest old.type = some (request.type, forget) ∧ request.id = old.id)
      (fun state => Accounted version state.arrivals → CountedFor world.plan state.engine) :=
    engineEnv_closed
      (Q := fun engine arrivals => Accounted version arrivals → CountedFor world.plan engine)
      (fun _ _ event holds accounted => (holds accounted).advance event)
      (fun _ _ _ now fault requested holds accounted =>
        budgeted.submit registered known
          (holds fun arrival member => accounted arrival (List.mem_cons_of_mem _ member))
          now fault requested accounted)
  exact closed.executePlan platform owner origin version
    (fun task member =>
      Requests.allows fun type forget sidecar => ⟨task, member, forget, sidecar, rfl⟩) _ trivial
    (fun _ => budgeted.countedFor) accounted

theorem Budgeted.step {world next : RetryWorld} (budgeted : Budgeted world)
    (step : RetryStep registered base platform owner origin Accounted world next) :
    Budgeted next := by
  cases step with
  | sidecar event =>
    obtain ⟨wf, counted⟩ := budgeted.countedFor.advance event
    exact { budgeted with wf, counted }
  | foreign request now fault other =>
    obtain ⟨wf, counted⟩ := budgeted.countedFor.foreign registered now fault other
    exact { budgeted with wf, counted }
  | unpersisted version known visit accounted =>
    obtain ⟨wf, counted⟩ :=
      budgeted.drive registered base platform owner origin known visit accounted
    exact { budgeted with wf, counted }
  | reconcile visit accounted =>
    obtain ⟨wf, counted⟩ :=
      budgeted.drive registered base platform owner origin List.mem_cons_self visit accounted
    have evolves : List.Forall₂ Evolves world.plan.tasks
        (SeiController.drive registered base platform owner origin world.plan world.engine
          visit).1.tasks :=
      (executePlan_evolves owner origin world.plan _).tasks
    exact
      { distinct := by rw [forall₂_evolves_ids evolves]; exact budgeted.distinct
        versions := by
          intro version known
          rcases List.mem_cons.mp known with rfl | older
          · exact forall₂_evolves_refl _
          · exact forall₂_evolves_trans (budgeted.versions version older) evolves
        budget := by
          intro task member
          obtain ⟨old, oldMember, step⟩ := exists_evolved_from evolves member
          have before := budgeted.budget old oldMember
          have grown := step.budget
          rw [step.maxRetries]
          omega
        wf
        counted := by
          intro task member polled
          obtain ⟨old, oldMember, step⟩ := exists_evolved_from evolves member
          have oldPolled : old.polled := by
            unfold PlannedTask.polled at polled ⊢
            rwa [step.type] at polled
          rw [step.id, step.type]
          exact (counted old oldMember oldPolled).mono (Nat.succ_le_succ step.retries) }

theorem Budgeted.observed_failure {world : RetryWorld} (budgeted : Budgeted world)
    (visit : Visit ρ) {result : TaskPlan × Ctx (SidecarState ρ)}
    (driven : SeiController.drive registered base platform owner origin world.plan world.engine
      visit = result)
    (accounted : Accounted world.plan result.2.env.arrivals)
    {at_ : Origin} {seen : PlannedTask} {err : Option String}
    (observed : .observed at_ seen (.ok ⟨.failed, err⟩) ∈ result.2.log) (polled : seen.polled)
    (spent : result.2.env.engine.handlerRuns seen.id = seen.maxRetries + 1) :
    result.1.phase = .failed := by
  subst driven
  have counted := (budgeted.drive registered base platform owner origin List.mem_cons_self visit
    accounted).2
  have logged : Log.Extends (FromPlan platform origin world.plan) []
      (SeiController.drive registered base platform owner origin world.plan world.engine visit).2.log :=
    executePlan_log owner origin world.plan (visit.start world.engine)
  have answered : Log.Extends _ []
      (SeiController.drive registered base platform owner origin world.plan world.engine visit).2.log :=
    executePlan_observed_failure owner origin world.plan (visit.start world.engine)
  rcases answered.forall (by simp) _ observed at_ seen err rfl with budget | failed
  · -- Within the budget the plan would have counted fewer runs than the engine started.
    obtain ⟨done, task, rest, evolved, _, _, made⟩ := logged.forall (by simp) _ observed
    cases made with
    | observed _ same _ =>
      obtain ⟨old, oldMember, step⟩ := exists_evolved_from evolved
        (List.mem_append_right done List.mem_cons_self)
      have since := step.trans same
      have oldPolled : old.polled := by
        unfold PlannedTask.polled at polled ⊢
        rwa [since.type] at polled
      have runs := counted old oldMember oldPolled
      have number := runs.count
      have bound := runs.bounded
      have retries := since.retries
      rw [since.id] at spent
      omega
  · exact failed

/-- In a run in which no submission finds a failure the plan has not counted, every
polled task is run at most once more than its budget, and a reconcile that observes
the last of these runs fail fails the plan. -/
theorem accounted_runs_keep_retry_budget {world : RetryWorld}
    (reached : Reachable RetryWorld.Initial
      (RetryStep registered base platform owner origin Accounted) world) :
    (∀ task ∈ world.plan.tasks, task.polled →
      world.engine.handlerRuns task.id ≤ task.maxRetries + 1) ∧
    ∀ (visit : Visit ρ) (result : TaskPlan × Ctx (SidecarState ρ)),
      SeiController.drive registered base platform owner origin world.plan world.engine visit =
        result →
      Accounted world.plan result.2.env.arrivals →
      ∀ at_ seen err, .observed at_ seen (.ok ⟨.failed, err⟩) ∈ result.2.log → seen.polled →
        result.2.env.engine.handlerRuns seen.id = seen.maxRetries + 1 →
        result.1.phase = .failed := by
  have budgeted : Budgeted world := reached.invariant (fun _ => budgeted_initial)
    fun _ _ holds step => holds.step registered base platform owner origin step
  refine ⟨fun task member polled => ?_, fun visit result driven accounted at_ seen err =>
    budgeted.observed_failure registered base platform owner origin visit driven accounted⟩
  have counted := budgeted.counted task member polled
  have within := budgeted.budget task member
  have number := counted.count
  have bound := counted.bounded
  omega

end

/-! ## One plan, two reconciles -/

def sampleWait : PlannedTask :=
  { type := .awaitCondition, id := ⟨"plan", .awaitCondition, 0⟩, status := .pending
    params := .awaitCondition ⟨"height", 1, ""⟩, submittedAt := none, error := "", maxRetries := 0,
    retryCount := 0 }

def sampleWaitPlan : TaskPlan :=
  { id := "plan", phase := .active, tasks := [sampleWait], targetPhase := .running
    configValuesHash := "", failedPhase := .empty, failedTaskIndex := none
    failedTaskDetail := none }

def sampleWorld : RetryWorld := ⟨sampleWaitPlan, [], .boot .empty⟩

theorem sampleWorld_initial : sampleWorld.Initial where
  distinct := by decide
  unretried := by decide
  past := rfl
  wf := Engine.boot_wellFormed .empty
  unheard := by decide

def servedTick : Tick := ⟨[], 0, .none, .served⟩

/-- The engine's run of generation 1 fails before the call is served. -/
def failingTick : Tick :=
  ⟨[.handlerReturns 1 (some "boom"), .storeFlag 1, .saveResult 1 false], 0, .none, .served⟩

def sampleVisit (ticks : List Tick) : Visit Unit := ⟨{}, [], ticks, ()⟩

/-- A run that fails between two reconciles is started again without being counted:
a budget of no retries is spent twice. -/
theorem uncounted_failure_exceeds_retry_budget :
    ∃ world, Reachable RetryWorld.Initial
        (RetryStep (fun _ => true) (quietEnv : Env Unit) samplePlatform .seiNode .nodePlan
          fun _ _ => True)
        world ∧
      ∃ task ∈ world.plan.tasks, task.polled ∧
        task.maxRetries + 1 < world.engine.handlerRuns task.id :=
  ⟨_, .next (.next (.start sampleWorld_initial)
      (.reconcile (sampleVisit [servedTick, servedTick]) trivial))
      (.reconcile (sampleVisit [failingTick, servedTick]) trivial),
    _, List.mem_cons_self, rfl, by decide +kernel⟩

/-- The run fails while the reconcile that submitted it is still polling. -/
theorem accounted_run_fails_plan :
    let result := drive (fun _ => true) quietEnv samplePlatform .seiNode .nodePlan
      sampleWorld.plan sampleWorld.engine (sampleVisit [servedTick, failingTick])
    result.2.env.engine.handlerRuns sampleWait.id = 1 ∧ result.1.phase = .failed := by
  refine ⟨by decide +kernel, ?_⟩
  refine (accounted_runs_keep_retry_budget (fun _ => true) quietEnv samplePlatform .seiNode
    .nodePlan (.start sampleWorld_initial)).2 (sampleVisit [servedTick, failingTick]) _ rfl ?_
    (.nodePlan sampleWaitPlan) (sampleWait.stampSubmitted 0) (some "boom") List.mem_cons_self rfl
    (by decide +kernel)
  intro arrival member task _ _ _
  simp only [show (drive (fun _ => true) quietEnv samplePlatform .seiNode .nodePlan
    sampleWorld.plan sampleWorld.engine (sampleVisit [servedTick, failingTick])).2.env.arrivals =
      [⟨⟨sampleWait.id, .awaitCondition, sampleWait.params⟩, .boot .empty, .none⟩] from rfl,
    List.mem_singleton] at member
  subst member
  exact ⟨rfl, by simp [Engine.row, Engine.boot]⟩

end SeiController
