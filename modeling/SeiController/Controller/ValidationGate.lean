import SeiController.Controller.NodeTaskLog
import SeiController.Controller.Mounted
import SeiController.Planner.ValidatedPlans

/-!
# Validation and release over runs

config-validate is handed to the sidecar and not waited for.  What the order of a plan's
tasks gives is that seid is released, restarted or replaced only after the sidecar has
taken the plan's validation; its verdict stops nothing.
-/

set_option autoImplicit false

namespace SeiController

/-! ## What the log must show -/

/-- The log shows that the sidecar took the task when its plan was driven. -/
def TakenIn (log : List Event) (planID : String) (task : PlannedTask) : Prop :=
  ∃ plan sent node, Event.submitted (.nodePlan plan) sent node true ∈ log ∧ plan.id = planID ∧
    sent.id = task.id

variable {task : PlannedTask} {later : List Event} {plan : TaskPlan}

theorem TakenIn.mono {log : List Event} {planID : String} (taken : TakenIn log planID task)
    (grown : log ⊆ later) : TakenIn later planID task := by
  obtain ⟨plan, sent, node, member, same⟩ := taken
  exact ⟨plan, sent, node, grown member, same⟩

/-- The plan's validation is Complete, and the log shows that the sidecar took it. -/
def ValidationTaken (log : List Event) (plan : TaskPlan) : Prop :=
  ∃ task ∈ plan.tasks, task.type = .configValidate ∧ task.status = .complete ∧
    TakenIn log plan.id task

/-- What an event of a node's plan requires of the log before it. -/
def Event.AfterValidation (older : List Event) : Event → Prop
  | .submitted (.nodePlan plan) task _ _ | .executed (.nodePlan plan) task _ _ =>
    task.type ∈ releases → .configValidate ∈ plan.types → ValidationTaken older plan
  | _ => True

def LogValidated : List Event → Prop
  | [] => True
  | event :: older => event.AfterValidation older ∧ LogValidated older

theorem LogValidated.extend {P : Event → Prop} {log : List Event} (validated : LogValidated log)
    (grown : Log.Extends P log later)
    (each : ∀ event, P event → ∀ older, log ⊆ older → event.AfterValidation older) :
    LogValidated later := by
  obtain ⟨added, rfl, holds⟩ := grown
  induction added with
  | nil => exact validated
  | cons event added ih =>
    obtain ⟨here, later⟩ := List.forall_mem_cons.mp holds
    exact ⟨each event here _ (List.subset_append_right added log), ih later⟩

theorem LogValidated.event {log newer older : List Event} {event : Event}
    (validated : LogValidated log) (split : log = newer ++ event :: older) :
    event.AfterValidation older := by
  subst split
  induction newer with
  | nil => exact validated.1
  | cons _ newer ih => exact ih validated.2

/-! ## A plan under way -/

/-- An active plan: validation first, and a Complete validation was taken. -/
structure Validating (log : List Event) (plan : TaskPlan) : Prop where
  first : ValidatesFirst plan.types
  taken : ∀ task ∈ plan.tasks, task.type = .configValidate →
    task.status = .pending ∨ task.status = .complete ∧ TakenIn log plan.id task

theorem Validating.mono {log : List Event} (validating : Validating log plan) (grown : log ⊆ later) :
    Validating later plan where
  first := validating.first
  taken task member validates :=
    (validating.taken task member validates).imp id (And.imp id fun taken => taken.mono grown)

theorem Validated.validating (validated : Validated plan) (log : List Event) :
    Validating log plan :=
  ⟨validated.first, fun task member _ => .inl (validated.fresh.pending task member)⟩

/-- Behind the tasks that have completed, a release finds the validation taken. -/
theorem Validating.released {log : List Event} {done rest : List PlannedTask}
    (validating : Validating log { plan with tasks := done ++ task :: rest })
    (passed : ∀ earlier ∈ done, earlier.status = .complete) (release : task.type ∈ releases)
    (validates : .configValidate ∈ { plan with tasks := done ++ task :: rest }.types) :
    ValidationTaken log { plan with tasks := done ++ task :: rest } := by
  have differ : task.type ≠ .configValidate := by
    intro same
    rw [same] at release
    revert release
    decide
  have types : { plan with tasks := done ++ task :: rest }.types =
      done.map PlannedTask.type ++ task.type :: rest.map PlannedTask.type := by
    simp [TaskPlan.types]
  have ordered := validating.first validates task.type release
  obtain ⟨earlier, member, type⟩ := List.mem_map.mp (mem_of_precedes differ ordered types)
  have listed : earlier ∈ done ++ task :: rest := List.mem_append_left _ member
  have complete := passed earlier member
  refine ⟨earlier, listed, type, complete, ?_⟩
  rcases validating.taken earlier listed type with pending | ⟨-, taken⟩
  · rw [complete] at pending
    cases pending
  · exact taken

section

variable {ε : Type} {env : Env ε} {platform : Platform}

/-! ## Driving a plan -/

theorem TaskAdvance.validated {done rest : List PlannedTask} {next : PlannedTask}
    {ctx after : Ctx ε} {failure : Option String}
    (step : TaskAdvance env platform (.nodePlan { plan with tasks := done ++ task :: rest }) task
      ctx next after failure)
    (unfinished : task.status ≠ .complete)
    (validating : Validating ctx.log { plan with tasks := done ++ task :: rest })
    (passed : ∀ earlier ∈ done, earlier.status = .complete) (before : LogValidated ctx.log) :
    LogValidated after.log := by
  refine before.extend (step.log unfinished) ?_
  intro event made older grown
  cases made with
  | submitted | executed =>
    intro release validates
    obtain ⟨validate, member, type, complete, taken⟩ :=
      validating.released passed release validates
    exact ⟨validate, member, type, complete, taken.mono grown⟩
  | observed | claimCreated => trivial

/-- A validation that is driven stays pending, or the sidecar took it. -/
theorem TaskAdvance.taken {next : PlannedTask} {ctx after : Ctx ε}
    (step : TaskAdvance env platform (.nodePlan plan) task ctx next after none)
    (validates : task.type = .configValidate) (pending : task.status = .pending) :
    next.status = .pending ∨ next.status = .complete ∧ TakenIn after.log plan.id next := by
  cases step with
  | unreached | rejected => exact .inl pending
  | forgotten state request _ _ now =>
    exact .inr ⟨rfl, plan, task, ctx.node, List.mem_cons_self, rfl, rfl⟩
  | submitted _ _ _ sidecar =>
    rw [validates] at sidecar
    cases sidecar
  | observed _ _ _ _ resumed => exact absurd pending resumed
  | ran controller | seen controller =>
    rw [validates] at controller
    cases controller

theorem TaskAdvance.validating {plan : TaskPlan} {done rest : List PlannedTask}
    {task next : PlannedTask} {ctx after : Ctx ε}
    (step : TaskAdvance env platform (.nodePlan { plan with tasks := done ++ task :: rest }) task
      ctx next after none)
    (unfinished : task.status ≠ .complete)
    (validating : Validating ctx.log { plan with tasks := done ++ task :: rest }) :
    Validating after.log { plan with tasks := done ++ next :: rest } := by
  have evolves := step.evolves unfinished
  have kept := validating.mono (step.log unfinished).subset
  have types : { plan with tasks := done ++ next :: rest }.types =
      { plan with tasks := done ++ task :: rest }.types := by
    simp [TaskPlan.types, evolves.type]
  refine ⟨types ▸ validating.first, fun other member validates => ?_⟩
  simp only [List.mem_append, List.mem_cons] at member
  rcases member with earlier | rfl | later
  · exact kept.taken other (List.mem_append_left _ earlier) validates
  · have type : task.type = .configValidate := evolves.type.symm.trans validates
    have here : task ∈ done ++ task :: rest := List.mem_append_right _ List.mem_cons_self
    rcases validating.taken task here type with pending | ⟨complete, -⟩
    · exact step.taken type pending
    · exact absurd complete unfinished
  · exact kept.taken other (List.mem_append_right _ (List.mem_cons_of_mem _ later)) validates

def SeiNode.Validates (log : List Event) (node : SeiNode) : Prop :=
  ∀ plan, node.status.plan = some plan → plan.phase = .active → Validating log plan

variable (env platform) in
theorem executePlan_validated {ctx : Ctx ε} (active : plan.phase = .active)
    (validating : Validating ctx.log plan) (before : LogValidated ctx.log) :
    LogValidated (executePlan env platform .seiNode .nodePlan plan ctx).2.log ∧
      ((executePlan env platform .seiNode .nodePlan plan ctx).1.phase = .active →
        Validating (executePlan env platform .seiNode .nodePlan plan ctx).2.log
          (executePlan env platform .seiNode .nodePlan plan ctx).1) := by
  have started : executePlan env platform .seiNode .nodePlan plan ctx =
      executeTasks env platform .seiNode .nodePlan plan [] plan.tasks ctx := by
    unfold executePlan
    rw [active]
  rw [started]
  refine executeTasks_rule
    (I := fun done rest now => (∀ task ∈ done, task.status = .complete) ∧
      Validating now.log { plan with tasks := done ++ rest } ∧ LogValidated now.log)
    (Q := fun next after => LogValidated after.log ∧
      (next.phase = .active → Validating after.log next))
    ?_ ?_ ?_ ?_ ?_ plan.tasks [] ctx ⟨by simp, validating, before⟩
  · rintro done task rest now ⟨passed, held, logged⟩ finished
    refine ⟨?_, by simpa using held, logged⟩
    simpa [or_imp, forall_and] using ⟨passed, finished⟩
  · rintro done task rest now next after ⟨passed, held, logged⟩ unfinished step finished
    refine ⟨?_, by simpa using step.validating unfinished held,
      step.validated unfinished held passed logged⟩
    simpa [or_imp, forall_and] using ⟨passed, finished⟩
  · rintro done now ⟨-, -, logged⟩
    exact ⟨logged, fun never => (by cases never)⟩
  · rintro done task rest now next after ⟨passed, held, logged⟩ unfinished step _
    exact ⟨step.validated unfinished held passed logged,
      fun _ => step.validating unfinished held⟩
  · rintro done task rest now next after message ⟨passed, held, logged⟩ unfinished step
    exact ⟨step.validated unfinished held passed logged, fun never => (by cases never)⟩

/-! ## A reconcile -/

/-- The log so far, and the plan of the node, of every version stored since and of the
versions there were before. -/
structure Flow.ValidationHeld (before : List SeiNode) (flow : Flow ε) : Prop where
  log : LogValidated flow.ctx.log
  node : flow.ctx.node.Validates flow.ctx.log
  written : ∀ version ∈ flow.written ++ before, version.Validates flow.ctx.log

theorem SeiNode.Validates.mono {log : List Event} {node : SeiNode} (validates : node.Validates log)
    (grown : log ⊆ later) : node.Validates later :=
  fun plan carried active => (validates plan carried active).mono grown

theorem FromPlan.workflow_free {uid : String} {event : Event}
    (made : FromPlan platform (.workflow uid) plan event) (older : List Event) :
    event.AfterValidation older := by
  obtain ⟨done, task, rest, -, -, -, made⟩ := made
  cases made <;> trivial

namespace Flow.ValidationHeld

variable {before : List SeiNode} {flow next : Flow ε}

theorem grow {P : Event → Prop} (held : flow.ValidationHeld before)
    (same : next.ctx.node.status.plan = flow.ctx.node.status.plan)
    (log : Log.Extends P flow.ctx.log next.ctx.log)
    (free : ∀ event, P event → ∀ older, event.AfterValidation older)
    (written : next.written = flow.written) : next.ValidationHeld before where
  log := held.log.extend log fun event made older _ => free event made older
  node plan carried := (held.node.mono log.subset) plan (same.symm.trans carried)
  written := by
    rw [written]
    exact fun version member => (held.written version member).mono log.subset

theorem silent (held : flow.ValidationHeld before)
    (same : next.ctx.node.status.plan = flow.ctx.node.status.plan)
    (log : next.ctx.log = flow.ctx.log) (written : next.written = flow.written) :
    next.ValidationHeld before := by
  refine held.grow same (P := fun _ => False) ?_ (fun _ never => never.elim) written
  rw [log]
  exact .refl _

theorem move (held : flow.ValidationHeld before) (move : Move env platform flow next) :
    next.ValidationHeld before := by
  cases move with
  | quiet same => exact held.silent same.node.plan.symm same.log same.written
  | persisted =>
    have grown : flow.ctx.log ⊆ .persisted flow.ctx.node :: flow.ctx.log := List.subset_cons_self _ _
    refine ⟨⟨trivial, held.log⟩, held.node.mono grown, List.forall_mem_cons.mpr
      ⟨held.node.mono grown, fun version member => (held.written version member).mono grown⟩⟩
  | grew | deletedClaim =>
    refine held.grow (P := fun event => ∀ older, event.AfterValidation older) rfl (.cons ?_ _)
      (fun _ free => free) rfl
    exact fun _ => trivial
  | drove workflow _ _ _ _ _ plan _ _ _ ctx executed =>
    have grown : Log.Extends (FromPlan platform (.workflow workflow.uid) plan) flow.ctx.log
        (executePlan env platform .workflow (.workflow workflow.uid) plan flow.ctx).2.log :=
      executePlan_log .workflow (.workflow workflow.uid) plan flow.ctx
    have body := executePlan_body env platform .workflow (.workflow workflow.uid) plan flow.ctx
    rw [executed] at grown body
    exact held.grow (congrArg (fun node => node.status.plan) body) grown
      (fun event made => made.workflow_free) rfl
  | _ => exact ⟨held.log, held.node, held.written⟩

theorem moves (held : flow.ValidationHeld before) (moves : Moves env platform flow next) :
    next.ValidationHeld before := by
  induction moves with
  | refl => exact held
  | tail _ move ih => exact ih.move move

theorem ending (held : flow.ValidationHeld before) (ending : Ending env platform flow next) :
    next.ValidationHeld before := by
  cases ending with
  | idle => exact held
  | cleared _ _ _ same =>
    refine ⟨same.log ▸ held.log, fun plan carried => ?_, ?_⟩
    · rw [← same.node.plan] at carried
      cases carried
    · rw [same.log, same.written]
      exact held.written
  | stored _ _ _ _ _ _ after _ _ _ plan built _ _ is =>
    subst is
    have grown : flow.ctx.log ⊆ .stored after plan :: flow.ctx.log := List.subset_cons_self _ _
    refine ⟨⟨trivial, held.log⟩, ?_, fun version member => (held.written version member).mono grown⟩
    intro other carried _
    cases carried
    exact (validated_buildPlan built).validating _
  | executed _ probed same _ _ plan carried active is =>
    subst is
    have grown : Log.Extends (FromPlan platform .nodePlan plan) probed.ctx.log
        (executePlan env platform .seiNode .nodePlan plan probed.ctx).2.log :=
      executePlan_log .seiNode .nodePlan plan probed.ctx
    have driven := executePlan_validated env platform active
      (same.log ▸ held.node plan carried active) (same.log ▸ held.log)
    refine ⟨driven.1, ?_, ?_⟩
    · intro next stored phase
      cases stored
      exact driven.2 phase
    · intro version member
      refine (held.written version ?_).mono (same.log ▸ grown.subset)
      rw [← same.written]
      exact member

theorem reconciled (held : flow.ValidationHeld before) (shape : Reconciled env platform flow next) :
    next.ValidationHeld before := by
  cases shape with
  | outside moves => exact held.moves moves
  | body alive ready planned ended finalizer unchanged prelude ending flush =>
    have first := held.moves finalizer
    obtain ⟨log, written, -⟩ := resolveConditions_frame env ready
    have resolved : (ready.resolveConditions env).ValidationHeld before :=
      first.silent (resolveConditions_resolved env ready).plan log written
    exact ((resolved.moves prelude).ending ending).moves flush

end Flow.ValidationHeld

/-! ## Runs -/

structure World.ValidationInv (world : World ε) : Prop where
  log : LogValidated world.log
  versions : ∀ version ∈ world.versions, version.Validates world.log

theorem World.ValidationInv.reconcile {world : World ε} (inv : world.ValidationInv) {read : SeiNode}
    (member : read ∈ world.versions) (fresh : Bool) :
    (world.reconcile env platform read fresh).ValidationHeld world.versions := by
  have held : (Flow.start read fresh world.claims world.workflows world.env world.log).ValidationHeld
      world.versions := ⟨inv.log, inv.versions read member, inv.versions⟩
  exact held.reconciled (Flow.reconcile_reconciled env platform _)

theorem TaskEvent.free {cr : SeiNodeTask} {target : SeiNode} {event : Event}
    (made : TaskEvent platform cr target event) (older : List Event) :
    event.AfterValidation older := by
  obtain ⟨-, execution, type, params, -, -, made, -⟩ := made
  cases made <;> trivial

theorem World.ValidationInv.step {world next : World ε} {action : Action}
    (inv : world.ValidationInv) (move : World.Step env platform world action next) :
    next.ValidationInv := by
  obtain ⟨log, versions⟩ := inv
  cases move with
  | edit node admitted =>
    refine ⟨log, List.forall_mem_cons.mpr ⟨?_, versions⟩⟩
    intro plan carried
    rw [admitted.status] at carried
    exact versions world.latest List.mem_cons_self plan carried
  | reconcile _ read fresh newer stale cached _ flow ran written _ _ _ _ logged =>
    have member : read ∈ world.versions := by simp [cached]
    have held : flow.ValidationHeld world.versions := by
      rw [ran]
      exact World.ValidationInv.reconcile ⟨log, versions⟩ member fresh
    refine ⟨logged ▸ held.log, ?_⟩
    intro version version_mem
    rw [logged]
    refine held.written version ?_
    rw [written] at version_mem
    simp only [List.append_assoc, List.mem_append, List.mem_singleton] at version_mem
    rcases version_mem with stored | kept | rfl
    · exact List.mem_append_left _ stored
    · exact List.mem_append_right _ (by rw [cached]; exact List.mem_append_left _ kept)
    · exact List.mem_append_right _ member
  | reconcileTask task _ target =>
    have grown := SeiNodeTask.reconcile_log env platform task target
      ⟨world.latest, world.claims, world.env, world.log⟩
    refine ⟨log.extend grown ?_, ?_⟩
    · rintro event ⟨node, -, made⟩ older _
      exact made.free older
    · exact fun version member => (versions version member).mono grown.subset
  | forceWorkflow uid =>
    refine ⟨⟨trivial, log⟩, ?_⟩
    exact fun version member => (versions version member).mono (List.subset_cons_self _ _)
  | createTask | createWorkflow | deleteWorkflow | collectWorkflow | outside => exact ⟨log, versions⟩

theorem World.Reached.validationInv {init : World ε → Prop} {allowed : World ε → Action → Prop}
    {world : World ε} (reached : World.Reached env platform init allowed world) :
    world.ValidationInv := by
  refine reached.invariant ?_ ?_
  · rintro world ⟨initial, -⟩
    refine ⟨?_, ?_⟩
    · rw [initial.log]
      trivial
    · rw [World.versions, initial.older]
      refine List.forall_mem_singleton.mpr fun plan carried => ?_
      rw [initial.status] at carried
      cases carried
  · rintro world next inv ⟨action, -, move⟩
    exact inv.step move

/-- In every run, whatever the sidecar answers and when, a plan that carries config-validate
releases, restarts or replaces seid only after the sidecar has taken that plan's validation. -/
theorem release_after_validation_taken (env : Env ε) (platform : Platform)
    (allowed : World ε → Action → Prop) {world : World ε}
    (reached : World.Reached env platform (fun _ => True) allowed world)
    {newer older : List Event} {event : Event} (split : world.log = newer ++ event :: older)
    {plan : TaskPlan} {task : PlannedTask}
    (driven : (∃ node accepted, event = .submitted (.nodePlan plan) task node accepted) ∨
      ∃ before after, event = .executed (.nodePlan plan) task before after)
    (release : task.type = .markReady ∨ task.type = .replacePod ∨ task.type = .restartSeid)
    (validates : .configValidate ∈ plan.types) :
    ∃ validation ∈ plan.tasks, validation.type = .configValidate ∧
      ∃ sender sent node, Event.submitted (.nodePlan sender) sent node true ∈ older ∧
        sender.id = plan.id ∧ sent.id = validation.id := by
  have required := reached.validationInv.log.event split
  have listed : task.type ∈ releases := by
    rcases release with type | type | type <;> rw [type] <;> decide
  have taken : ValidationTaken older plan := by
    rcases driven with ⟨node, accepted, rfl⟩ | ⟨before, after, rfl⟩
    · exact required listed validates
    · exact required listed validates
  obtain ⟨validation, member, type, -, sent⟩ := taken
  exact ⟨validation, member, type, sent⟩

end

/-! ### A configuration that validation rejects -/

/-- The sidecar rejects every configuration; every other call succeeds. -/
def rejectingEnv : Env Unit :=
  { quietEnv with
    getTask := fun state id =>
      if id.taskType = .configValidate then (state, .ok ⟨.failed, some "invalid configuration"⟩)
      else (state, .ok ⟨.completed, none⟩) }

def freshFull : World Unit :=
  ⟨{ name := "node", uid := "uid", spec := { fullNode := some ⟨none, none, none⟩ } },
    [], [], [], [], (), []⟩

def releasedWorld : World Unit :=
  (freshFull.afterReconcile rejectingEnv samplePlatform).afterReconcile rejectingEnv samplePlatform

/-- The event is the mark-ready of a plan with a validation the sidecar answers as `answer`. -/
def Event.releasesBehind (answer : TaskID → Except GetTaskError TaskResult)
    (verdict : SidecarTaskStatus) : Event → Bool
  | .submitted (.nodePlan plan) task _ true =>
    task.type == .markReady && plan.tasks.any fun validation =>
      validation.type == .configValidate &&
        match answer validation.id with
        | .ok result => result.status == verdict
        | .error _ => false
  | _ => false

theorem Event.of_releasesBehind {answer : TaskID → Except GetTaskError TaskResult}
    {verdict : SidecarTaskStatus} {event : Event}
    (shown : event.releasesBehind answer verdict = true) :
    ∃ plan task node, event = .submitted (.nodePlan plan) task node true ∧
      task.type = .markReady ∧ ∃ validation ∈ plan.tasks, validation.type = .configValidate ∧
        ∃ result, answer validation.id = .ok result ∧ result.status = verdict := by
  unfold Event.releasesBehind at shown
  split at shown
  next plan task node =>
    rw [Bool.and_eq_true, beq_iff_eq] at shown
    obtain ⟨validation, planned, judged⟩ := List.any_eq_true.mp shown.2
    rw [Bool.and_eq_true, beq_iff_eq] at judged
    refine ⟨plan, task, node, rfl, shown.1, validation, planned, judged.1, ?_⟩
    cases answered : answer validation.id with
    | ok result =>
      rw [answered] at judged
      exact ⟨result, rfl, beq_iff_eq.mp judged.2⟩
    | error err =>
      rw [answered] at judged
      cases judged.2
  · cases shown

theorem reached_releasedWorld :
    World.Reached rejectingEnv samplePlatform (fun _ => True) (fun _ _ => True) releasedWorld := by
  have reconciled {world : World Unit}
      (reached : World.Reached rejectingEnv samplePlatform (fun _ => True) (fun _ _ => True) world) :
      World.Reached rejectingEnv samplePlatform (fun _ => True) (fun _ _ => True)
        (world.afterReconcile rejectingEnv samplePlatform) :=
    reached.step rejectingEnv samplePlatform trivial
      (.afterReconcile rejectingEnv samplePlatform world)
  exact reconciled (reconciled (.start ⟨⟨rfl, rfl, rfl, rfl, rfl, rfl, rfl⟩, trivial⟩))

/-- seid is released although the sidecar has recorded the plan's validation as Failed. -/
theorem rejected_configuration_released :
    World.Reached rejectingEnv samplePlatform (fun _ => True) (fun _ _ => True) releasedWorld ∧
      ∃ plan task node, Event.submitted (.nodePlan plan) task node true ∈ releasedWorld.log ∧
        task.type = .markReady ∧ ∃ validation ∈ plan.tasks, validation.type = .configValidate ∧
          ∃ result, (rejectingEnv.getTask () validation.id).2 = .ok result ∧
            result.status = .failed := by
  have behind : releasedWorld.log.any (Event.releasesBehind
      (fun id => (rejectingEnv.getTask () id).2) .failed) = true := by
    decide +kernel
  obtain ⟨event, member, shown⟩ := List.any_eq_true.mp behind
  obtain ⟨plan, task, node, rfl, type, rejected⟩ := Event.of_releasesBehind shown
  exact ⟨reached_releasedWorld, plan, task, node, member, type, rejected⟩

def releasedFrom : List Event :=
  releasedWorld.log.dropWhile fun event =>
    !event.releasesBehind (fun id => (rejectingEnv.getTask () id).2) .failed

theorem sample_release_after_validation :
    ∃ plan task older, task.type = .markReady ∧
      (∃ node accepted, releasedFrom = .submitted (.nodePlan plan) task node accepted :: older) ∧
      ∃ validation ∈ plan.tasks, validation.type = .configValidate ∧
        ∃ sender sent node, Event.submitted (.nodePlan sender) sent node true ∈ older ∧
          sender.id = plan.id ∧ sent.id = validation.id := by
  have split : releasedWorld.log = (releasedWorld.log.takeWhile fun event =>
      !event.releasesBehind (fun id => (rejectingEnv.getTask () id).2) .failed) ++ releasedFrom :=
    List.takeWhile_append_dropWhile.symm
  have found : releasedFrom.head?.any (Event.releasesBehind
      (fun id => (rejectingEnv.getTask () id).2) .failed) = true := by
    decide +kernel
  obtain ⟨event, first, shown⟩ := (Option.any_eq_true _ _).mp found
  obtain ⟨plan, task, node, rfl, type, validation, planned, judged, -⟩ :=
    Event.of_releasesBehind shown
  have front := (List.head?_eq_some_iff.mp first)
  obtain ⟨older, same⟩ := front
  rw [same] at split
  exact ⟨plan, task, older, type, ⟨node, true, same⟩,
    release_after_validation_taken rejectingEnv samplePlatform (fun _ _ => True)
      reached_releasedWorld split (.inl ⟨node, true, rfl⟩) (.inl type)
      (List.mem_map.mpr ⟨validation, planned, judged⟩)⟩

end SeiController
