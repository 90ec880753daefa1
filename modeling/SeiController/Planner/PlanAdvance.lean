import Mathlib.Data.List.Forall2
import SeiController.Lib.Log
import SeiController.Planner.TaskAdvance

/-!
# What executing a plan can do

The loop of the executor as a proof rule, and what it gives for every plan: tasks
keep their identity and only gain retries, the log only grows, and each new entry
was made for the first task that was not Complete at that moment.
-/

set_option autoImplicit false

namespace SeiController

/-! ## Tasks over time -/

/-- What driving can change about a task.  A Complete task is never touched again. -/
structure Evolves (old new : PlannedTask) : Prop where
  type : new.type = old.type
  id : new.id = old.id
  params : new.params = old.params
  maxRetries : new.maxRetries = old.maxRetries
  retries : old.retryCount ≤ new.retryCount
  budget : new.retryCount ≤ max old.retryCount old.maxRetries
  settled : old.status = .complete → new = old

theorem Evolves.refl (task : PlannedTask) : Evolves task task :=
  ⟨rfl, rfl, rfl, rfl, Nat.le_refl _, Nat.le_max_left _ _, fun _ => rfl⟩

theorem Evolves.trans {a b c : PlannedTask} (first : Evolves a b) (second : Evolves b c) :
    Evolves a c where
  type := second.type.trans first.type
  id := second.id.trans first.id
  params := second.params.trans first.params
  maxRetries := second.maxRetries.trans first.maxRetries
  retries := Nat.le_trans first.retries second.retries
  budget := by
    have grown := second.budget
    have before := first.budget
    rw [first.maxRetries] at grown
    omega
  settled complete := by
    have same := first.settled complete
    rw [second.settled (by rw [same]; exact complete), same]

theorem Evolves.of_retryCount_eq {old new : PlannedTask} (type : new.type = old.type)
    (id : new.id = old.id) (params : new.params = old.params)
    (maxRetries : new.maxRetries = old.maxRetries) (retries : new.retryCount = old.retryCount)
    (open_ : old.status ≠ .complete) : Evolves old new :=
  ⟨type, id, params, maxRetries, Nat.le_of_eq retries.symm,
    retries ▸ Nat.le_max_left _ _, fun complete => absurd complete open_⟩

variable {task next : PlannedTask} {failure : Option String} {old new : List PlannedTask}

theorem PlannedTask.evolves_stampSubmitted (now : Nat) (unfinished : task.status ≠ .complete) :
    Evolves task (task.stampSubmitted now) :=
  .of_retryCount_eq rfl rfl rfl rfl rfl unfinished

theorem PlannedTask.evolves_retry (unfinished : task.status ≠ .complete)
    (budget : task.retryCount < task.maxRetries) : Evolves task task.retry :=
  ⟨rfl, rfl, rfl, rfl, Nat.le_succ _, Nat.le_trans budget (Nat.le_max_right _ _),
    fun complete => absurd complete unfinished⟩

theorem Polled.evolves {answer : Except GetTaskError TaskResult}
    (polled : Polled task answer next failure) (unfinished : task.status ≠ .complete) :
    Evolves task next := by
  cases polled with
  | unanswered | running | exhausted => exact .refl task
  | completed => exact .of_retryCount_eq rfl rfl rfl rfl rfl unfinished
  | retried _ budget => exact task.evolves_retry unfinished budget

theorem Ran.evolves {stamped : PlannedTask} {outcome : ControllerOutcome}
    (ran : Ran task stamped outcome next failure) (stamp : Evolves task stamped)
    (unfinished : stamped.status ≠ .complete) : Evolves task next := by
  cases ran with
  | complete =>
    exact stamp.trans (.of_retryCount_eq rfl rfl rfl rfl rfl unfinished)
  | waiting | exhausted => exact stamp
  | seen => exact stamp.trans (.of_retryCount_eq rfl rfl rfl rfl rfl unfinished)
  | retried _ budget => exact stamp.trans (stamped.evolves_retry unfinished budget)
  | transient | terminal => exact .refl task

section

variable {ε : Type} {env : Env ε} {platform : Platform}

theorem TaskAdvance.evolves {origin : Origin} {ctx after : Ctx ε}
    (step : TaskAdvance env platform origin task ctx next after failure)
    (unfinished : task.status ≠ .complete) : Evolves task next := by
  cases step with
  | undecodable | refused | unreached | rejected => exact .refl task
  | forgotten | seen => exact .of_retryCount_eq rfl rfl rfl rfl rfl unfinished
  | submitted _ _ now _ answer _ _ polled =>
    exact (task.evolves_stampSubmitted now unfinished).trans (polled.evolves unfinished)
  | observed _ _ _ _ _ answer _ _ polled => exact polled.evolves unfinished
  | ran _ now _ outcome _ _ _ _ moved =>
    exact moved.evolves (task.evolves_stampSubmitted now unfinished) unfinished

theorem TaskAdvance.unfinished {origin : Origin} {task next : PlannedTask} {ctx after : Ctx ε}
    {message : String}
    (step : TaskAdvance env platform origin task ctx next after (some message))
    (unfinished : task.status ≠ .complete) : next.status ≠ .complete := by
  cases step with
  | undecodable | refused => exact unfinished
  | submitted _ _ _ _ _ _ _ polled => cases polled; exact unfinished
  | observed _ _ _ _ _ _ _ _ polled => cases polled; exact unfinished
  | ran _ _ _ _ _ _ _ _ moved => cases moved <;> exact unfinished

/-! ## The loop as a rule -/

/-- An invariant `I` of the tasks passed, the tasks left and the context gives `Q`
of the result when it survives a Complete task and a task that completes, and `Q`
holds at each of the three ends. -/
theorem executeTasks_rule {owner : PlanOwner} {origin : TaskPlan → Origin} {plan : TaskPlan}
    {I : List PlannedTask → List PlannedTask → Ctx ε → Prop} {Q : TaskPlan → Ctx ε → Prop}
    (skip : ∀ done task rest ctx, I done (task :: rest) ctx → task.status = .complete →
      I (done ++ [task]) rest ctx)
    (advance : ∀ done task rest ctx next after, I done (task :: rest) ctx →
      task.status ≠ .complete →
      TaskAdvance env platform (origin { plan with tasks := done ++ task :: rest }) task ctx
        next after none →
      next.status = .complete → I (done ++ [next]) rest after)
    (complete : ∀ done ctx, I done [] ctx →
      Q (completePlan owner plan done ctx.node).1
        { ctx with node := (completePlan owner plan done ctx.node).2 })
    (stop : ∀ done task rest ctx next after, I done (task :: rest) ctx →
      task.status ≠ .complete →
      TaskAdvance env platform (origin { plan with tasks := done ++ task :: rest }) task ctx
        next after none →
      next.status ≠ .complete → Q { plan with tasks := done ++ next :: rest } after)
    (fail : ∀ done task rest ctx next after message, I done (task :: rest) ctx →
      task.status ≠ .complete →
      TaskAdvance env platform (origin { plan with tasks := done ++ task :: rest }) task ctx
        next after (some message) →
      Q (failTask owner plan done next rest message after.node).1
        { after with node := (failTask owner plan done next rest message after.node).2 }) :
    ∀ (rest done : List PlannedTask) (ctx : Ctx ε), I done rest ctx →
      Q (executeTasks env platform owner origin plan done rest ctx).1
        (executeTasks env platform owner origin plan done rest ctx).2 := by
  intro rest
  induction rest with
  | nil => exact fun done ctx holds => complete done ctx holds
  | cons task rest ih =>
    intro done ctx holds
    unfold executeTasks
    by_cases finished : task.status = .complete
    · rw [if_pos finished]
      exact ih (done ++ [task]) ctx (skip done task rest ctx holds finished)
    · rw [if_neg finished]
      have step := advanceTask_advance env platform
        (origin { plan with tasks := done ++ task :: rest }) task ctx
      generalize advanceTask env platform (origin { plan with tasks := done ++ task :: rest }) task
        ctx = driven at step ⊢
      obtain ⟨next, after, failure⟩ := driven
      cases failure with
      | some message => exact fail done task rest ctx next after message holds finished step
      | none =>
        dsimp only
        split
        next ended =>
          exact ih (done ++ [next]) after
            (advance done task rest ctx next after holds finished step ended)
        next unfinished => exact stop done task rest ctx next after holds finished step unfinished

/-! ## The log -/

inductive MadeBy (platform : Platform) (origin : Origin) (task : PlannedTask) : Event → Prop
  | submitted (node : SeiNode) (accepted : Bool) (request : TaskType) (forget : Bool)
      (sidecar : sidecarRequest task.type = some (request, forget))
      (passes : GuardPasses task.type node) :
      MadeBy platform origin task (.submitted origin task node accepted)
  | observed (seen : PlannedTask) (same : Evolves task seen)
      (answer : Except GetTaskError TaskResult) :
      MadeBy platform origin task (.observed origin seen answer)
  | executed (before after : SeiNode) (controller : registry task.type = some .controller)
      (effect : NodeEffect platform task.type task.params before after) :
      MadeBy platform origin task (.executed origin task before after)
  | claimCreated (node : SeiNode) (claim : PersistentVolumeClaim) (owned : node.OwnsClaim claim) :
      MadeBy platform origin task (.claimCreated node claim)

theorem guardPasses_of_polled {type request : TaskType} (node : SeiNode)
    (sidecar : sidecarRequest type = some (request, false)) : GuardPasses type node := by
  intro guard guarded
  rw [sidecarRequest_startGuarded guarded] at sidecar
  cases sidecar

theorem TaskAdvance.log {origin : Origin} {ctx after : Ctx ε}
    (step : TaskAdvance env platform origin task ctx next after failure)
    (unfinished : task.status ≠ .complete) :
    Log.Extends (MadeBy platform origin task) ctx.log after.log := by
  cases step with
  | undecodable | refused | unreached | seen => exact .refl _
  | rejected _ request forget sidecar passes =>
    exact .cons (.submitted _ _ request forget sidecar passes) _
  | forgotten _ request sidecar passes => exact .cons (.submitted _ _ request true sidecar passes) _
  | submitted _ request now sidecar answer =>
    have passes := guardPasses_of_polled ctx.node sidecar
    have sent : MadeBy platform origin task (.submitted origin task ctx.node true) :=
      .submitted _ _ request false sidecar passes
    exact (Log.Extends.cons sent _).trans
      (.cons (.observed _ (task.evolves_stampSubmitted now unfinished) answer) _)
  | observed _ _ _ _ _ answer => exact .cons (.observed _ (.refl task) answer) _
  | ran controller _ later _ run =>
    have frame := runController_frame env platform ⟨task.type, task.params, .running, none⟩ ctx
    rw [run] at frame
    obtain ⟨effect, same | ⟨claim, owned, grown⟩⟩ := frame
    · rw [same]
      exact .cons (.executed _ _ controller effect) _
    · rw [grown]
      have created : MadeBy platform origin task (.claimCreated ctx.node claim) :=
        .claimCreated _ _ owned
      exact (Log.Extends.cons created _).trans (.cons (.executed _ _ controller effect) _)

/-- The event is not the sight of a failed run, or `P` holds of the task seen. -/
def OnFailure (P : PlannedTask → Prop) (event : Event) : Prop :=
  ∀ origin seen err, event = .observed origin seen (.ok ⟨.failed, err⟩) → P seen

/-- A failure the log shows was answered: by a retry, or by failing the plan. -/
theorem TaskAdvance.observed_failure {origin : Origin} {ctx after : Ctx ε}
    (step : TaskAdvance env platform origin task ctx next after failure) :
    Log.Extends
      (OnFailure fun seen =>
        seen.retryCount < seen.maxRetries ∧ next.status = .pending ∨ failure.isSome)
      ctx.log after.log := by
  have polledCase {task : PlannedTask} {answer : Except GetTaskError TaskResult}
      (polled : Polled task answer next failure) :
      OnFailure (fun seen =>
        seen.retryCount < seen.maxRetries ∧ next.status = .pending ∨ failure.isSome)
        (.observed origin task answer) := by
    intro at_ seen err same
    cases same
    cases polled with
    | retried _ budget => exact .inl ⟨budget, rfl⟩
    | exhausted => exact .inr rfl
  cases step with
  | undecodable | refused | unreached | seen => exact .refl _
  | rejected | forgotten => exact .cons (by simp [OnFailure]) _
  | submitted _ _ now _ answer _ _ polled =>
    exact (Log.Extends.cons (by simp [OnFailure]) _).trans (.cons (polledCase polled) _)
  | observed _ _ _ _ _ answer _ _ polled => exact .cons (polledCase polled) _
  | ran _ _ _ _ run =>
    have frame := (runController_frame env platform ⟨task.type, task.params, .running, none⟩ ctx).2
    rw [run] at frame
    rcases frame with same | ⟨claim, -, grown⟩
    · rw [same]
      exact .cons (by simp [OnFailure]) _
    · rw [grown]
      exact (Log.Extends.cons (by simp [OnFailure]) _).trans (.cons (by simp [OnFailure]) _)

/-! ## Whole plans -/

structure PlanEvolves (old new : TaskPlan) : Prop where
  id : new.id = old.id
  targetPhase : new.targetPhase = old.targetPhase
  failedPhase : new.failedPhase = old.failedPhase
  configValuesHash : new.configValuesHash = old.configValuesHash
  tasks : List.Forall₂ Evolves old.tasks new.tasks

theorem forall₂_evolves_refl (tasks : List PlannedTask) : List.Forall₂ Evolves tasks tasks :=
  List.forall₂_same.mpr fun task _ => .refl task

theorem exists_related {R : PlannedTask → PlannedTask → Prop} (related : List.Forall₂ R old new)
    (member : task ∈ old) : ∃ next ∈ new, R task next := by
  induction related with
  | nil => cases member
  | cons first _ ih =>
    rcases List.mem_cons.mp member with rfl | later
    · exact ⟨_, List.mem_cons_self, first⟩
    · obtain ⟨next, nextMember, step⟩ := ih later
      exact ⟨next, List.mem_cons_of_mem _ nextMember, step⟩

theorem exists_evolved (evolves : List.Forall₂ Evolves old new) (member : task ∈ old) :
    ∃ next ∈ new, Evolves task next :=
  exists_related evolves member

theorem exists_evolved_from (evolves : List.Forall₂ Evolves old new) (member : task ∈ new) :
    ∃ before ∈ old, Evolves before task :=
  exists_related evolves.flip member

theorem forall₂_evolves_trans {a b c : List PlannedTask} (first : List.Forall₂ Evolves a b)
    (second : List.Forall₂ Evolves b c) : List.Forall₂ Evolves a c := by
  induction first generalizing c with
  | nil => exact second
  | cons head _ ih =>
    cases second with
    | cons head' tail' => exact .cons (head.trans head') (ih tail')

theorem types_of_evolves (evolved : List.Forall₂ Evolves old new) :
    new.map PlannedTask.type = old.map PlannedTask.type := by
  induction evolved with
  | nil => rfl
  | cons head _ ih => rw [List.map_cons, List.map_cons, head.type, ih]

theorem forall₂_evolves_ids (evolves : List.Forall₂ Evolves old new) :
    new.map PlannedTask.id = old.map PlannedTask.id := by
  induction evolves with
  | nil => rfl
  | cons head _ ih => rw [List.map_cons, List.map_cons, head.id, ih]

theorem PlanEvolves.refl (plan : TaskPlan) : PlanEvolves plan plan :=
  ⟨rfl, rfl, rfl, rfl, forall₂_evolves_refl plan.tasks⟩

theorem PlanEvolves.trans {a b c : TaskPlan} (first : PlanEvolves a b) (second : PlanEvolves b c) :
    PlanEvolves a c where
  id := second.id.trans first.id
  targetPhase := second.targetPhase.trans first.targetPhase
  failedPhase := second.failedPhase.trans first.failedPhase
  configValuesHash := second.configValuesHash.trans first.configValuesHash
  tasks := forall₂_evolves_trans first.tasks second.tasks

theorem forall₂_evolves_replace {tasks done rest : List PlannedTask}
    (sofar : List.Forall₂ Evolves tasks (done ++ task :: rest)) (step : Evolves task next) :
    List.Forall₂ Evolves tasks (done ++ next :: rest) := by
  induction done generalizing tasks with
  | nil =>
    cases sofar with
    | cons first others => exact .cons (first.trans step) others
  | cons head done ih =>
    cases sofar with
    | cons first others => exact .cons first (ih others)

theorem executePlan_evolves (owner : PlanOwner) (origin : TaskPlan → Origin) (plan : TaskPlan)
    (ctx : Ctx ε) : PlanEvolves plan (executePlan env platform owner origin plan ctx).1 := by
  unfold executePlan
  cases plan.phase with
  | complete | failed => exact .refl plan
  | active =>
    refine executeTasks_rule (Q := fun new _ => PlanEvolves plan new)
      (I := fun done rest _ => List.Forall₂ Evolves plan.tasks (done ++ rest))
      ?_ ?_ ?_ ?_ ?_ plan.tasks [] ctx (forall₂_evolves_refl plan.tasks)
    · intro done task rest _ sofar _
      simpa using sofar
    · intro done task rest _ next _ sofar unfinished step _
      simpa using forall₂_evolves_replace sofar (step.evolves unfinished)
    · intro done _ sofar
      exact ⟨rfl, rfl, rfl, rfl, by simpa [completePlan] using sofar⟩
    · intro done task rest _ next _ sofar unfinished step _
      exact ⟨rfl, rfl, rfl, rfl, forall₂_evolves_replace sofar (step.evolves unfinished)⟩
    · intro done task rest _ next _ message sofar unfinished step
      have failed : Evolves next { next with status := .failed, error := message } :=
        .of_retryCount_eq rfl rfl rfl rfl rfl (step.unfinished unfinished)
      exact ⟨rfl, rfl, rfl, rfl,
        forall₂_evolves_replace sofar ((step.evolves unfinished).trans failed)⟩

/-- A logged event of a plan's execution: the plan as it stood, with everything
before the task at hand Complete. -/
def FromPlan (platform : Platform) (origin : TaskPlan → Origin) (plan : TaskPlan)
    (event : Event) : Prop :=
  ∃ done task rest, List.Forall₂ Evolves plan.tasks (done ++ task :: rest) ∧
    (∀ earlier ∈ done, earlier.status = .complete) ∧ task.status ≠ .complete ∧
    MadeBy platform (origin { plan with tasks := done ++ task :: rest }) task event

theorem executePlan_log (owner : PlanOwner) (origin : TaskPlan → Origin) (plan : TaskPlan)
    (ctx : Ctx ε) :
    Log.Extends (FromPlan platform origin plan) ctx.log
      (executePlan env platform owner origin plan ctx).2.log := by
  unfold executePlan
  cases plan.phase with
  | complete | failed => exact .refl _
  | active =>
    have step_log {done rest : List PlannedTask} {task next : PlannedTask} {now after : Ctx ε}
        {failure : Option String}
        (sofar : List.Forall₂ Evolves plan.tasks (done ++ task :: rest))
        (passed : ∀ earlier ∈ done, earlier.status = .complete)
        (logged : Log.Extends (FromPlan platform origin plan) ctx.log now.log)
        (unfinished : task.status ≠ .complete)
        (step : TaskAdvance env platform (origin { plan with tasks := done ++ task :: rest }) task
          now next after failure) :
        Log.Extends (FromPlan platform origin plan) ctx.log after.log :=
      logged.trans ((step.log unfinished).mono fun _ made =>
        ⟨done, task, rest, sofar, passed, unfinished, made⟩)
    refine executeTasks_rule
      (Q := fun _ after => Log.Extends (FromPlan platform origin plan) ctx.log after.log)
      (I := fun done rest now => List.Forall₂ Evolves plan.tasks (done ++ rest) ∧
        (∀ earlier ∈ done, earlier.status = .complete) ∧
        Log.Extends (FromPlan platform origin plan) ctx.log now.log)
      ?_ ?_ ?_ ?_ ?_ plan.tasks [] ctx
      ⟨forall₂_evolves_refl plan.tasks, by simp, .refl _⟩
    · rintro done task rest now ⟨sofar, passed, logged⟩ finished
      refine ⟨by simpa using sofar, ?_, logged⟩
      simpa [or_imp, forall_and] using ⟨passed, finished⟩
    · rintro done task rest now next after ⟨sofar, passed, logged⟩ unfinished step finished
      refine ⟨by simpa using forall₂_evolves_replace sofar (step.evolves unfinished), ?_,
        step_log sofar passed logged unfinished step⟩
      simpa [or_imp, forall_and] using ⟨passed, finished⟩
    · exact fun _ _ holds => holds.2.2
    · rintro done task rest now next after ⟨sofar, passed, logged⟩ unfinished step _
      exact step_log sofar passed logged unfinished step
    · rintro done task rest now next after message ⟨sofar, passed, logged⟩ unfinished step
      have grown := step_log sofar passed logged unfinished step
      exact grown

/-- A failed run that an execution observes is retried within the budget or fails
the plan. -/
theorem executePlan_observed_failure (owner : PlanOwner) (origin : TaskPlan → Origin)
    (plan : TaskPlan) (ctx : Ctx ε) :
    Log.Extends
      (OnFailure fun seen => seen.retryCount < seen.maxRetries ∨
        (executePlan env platform owner origin plan ctx).1.phase = .failed)
      ctx.log (executePlan env platform owner origin plan ctx).2.log := by
  unfold executePlan
  cases plan.phase with
  | complete | failed => exact .refl _
  | active =>
    -- The loop goes on only past tasks that completed, so no failure was seen before its last task.
    refine executeTasks_rule
      (Q := fun new after => Log.Extends
        (OnFailure fun seen => seen.retryCount < seen.maxRetries ∨ new.phase = .failed)
        ctx.log after.log)
      (I := fun _ _ now => Log.Extends (OnFailure fun _ => False) ctx.log now.log)
      ?_ ?_ ?_ ?_ ?_ plan.tasks [] ctx (.refl _)
    · exact fun _ _ _ _ quiet _ => quiet
    · rintro _ _ _ _ next after quiet _ step finished
      refine quiet.trans (step.observed_failure.mono fun event answered at_ seen err same => ?_)
      rcases answered at_ seen err same with ⟨_, pending⟩ | failed
      · rw [finished] at pending
        cases pending
      · cases failed
    · exact fun _ _ quiet => quiet.mono fun _ never at_ seen err same =>
        (never at_ seen err same).elim
    · rintro _ _ _ _ next after quiet _ step _
      have earlier := quiet.mono (Q := OnFailure fun seen =>
        seen.retryCount < seen.maxRetries ∨ plan.phase = .failed)
        fun _ never at_ seen err same => (never at_ seen err same).elim
      refine earlier.trans (step.observed_failure.mono fun event answered at_ seen err same => ?_)
      rcases answered at_ seen err same with ⟨budget, _⟩ | failed
      · exact .inl budget
      · cases failed
    · rintro _ _ _ _ next after message quiet _ step
      exact (quiet.mono fun _ _ _ _ _ _ => .inr rfl).trans
        (step.observed_failure.mono fun _ _ _ _ _ _ => .inr rfl)

end

end SeiController
