import SeiController.Planner.PlanAdvance

/-!
# What executing a plan does to the node

Between two ends of a plan the executor changes no field of the node except the images it
observes, the handled reset and the hold in effect, and the last two only by the task that
records them.
-/

set_option autoImplicit false

namespace SeiController

/-! ## Frames -/

def SeiNode.frame (node : SeiNode) : SeiNode :=
  { node with
    status :=
      { node.status with
        currentImage := ""
        currentSidecarImage := ""
        currentNodeIsolation := .unset
        currentNodePool := ""
        dataResetGeneration := 0
        maintenanceHold := .none } }

def SameFrame (left right : SeiNode) : Prop :=
  left.frame = right.frame

namespace SameFrame

variable {left right third : SeiNode}

theorem trans (first : SameFrame left right) (second : SameFrame right third) :
    SameFrame left third :=
  Eq.trans first second

theorem congr {α : Type} (same : SameFrame left right) (read : SeiNode → α)
    (frameOnly : ∀ node : SeiNode, read node.frame = read node) : read left = read right := by
  rw [← frameOnly left, ← frameOnly right, same]

theorem spec (same : SameFrame left right) : left.spec = right.spec :=
  same.congr SeiNode.spec fun _ => rfl

theorem phase (same : SameFrame left right) : left.status.phase = right.status.phase :=
  same.congr (fun node => node.status.phase) fun _ => rfl

end SameFrame

/-- The node a call of the executor was made for is the given one, up to what the plan's
tasks have written. -/
def EventOn (node : SeiNode) : Event → Prop
  | .submitted _ _ seen _ => SameFrame node seen
  | .executed _ _ seen _ => SameFrame node seen
  | _ => True

theorem EventOn.submitted (origin : Origin) (task : PlannedTask) (node : SeiNode)
    (accepted : Bool) : EventOn node (.submitted origin task node accepted) :=
  Eq.refl node.frame

theorem EventOn.executed (origin : Origin) (task : PlannedTask) (node after : SeiNode) :
    EventOn node (.executed origin task node after) :=
  Eq.refl node.frame

theorem EventOn.mono {node earlier : SeiNode} (same : SameFrame earlier node) {event : Event}
    (on : EventOn node event) : EventOn earlier event := by
  cases event with
  | submitted => exact same.trans on
  | executed => exact same.trans on
  | _ => trivial

theorem NodeEffect.sameFrame {platform : Platform} {type : TaskType} {params : TaskParams}
    {before after : SeiNode} (effect : NodeEffect platform type params before after) :
    SameFrame before after := by
  unfold NodeEffect at effect
  split at effect
  · subst effect
    unfold recordDataReset
    split <;> rfl
  · subst effect
    rfl
  · rcases effect with rfl | rfl <;> rfl
  · subst effect
    rfl

/-! ## Runs -/

/-- The event is the run of a task of this type that left the node with `P`. -/
def RanTask (type : TaskType) (P : PlannedTask → Prop) (event : Event) : Prop :=
  ∃ origin task before after, event = .executed origin task before after ∧ task.type = type ∧ P task

variable {task next : PlannedTask} {failure : Option String}

section

variable {ε : Type}

/-- From `before` to `after` the executor has only driven tasks. -/
structure NodeRun (before after : Ctx ε) : Prop where
  log : Log.Extends (EventOn before.node) before.log after.log
  frame : SameFrame before.node after.node
  rising : before.node.status.dataResetGeneration ≤ after.node.status.dataResetGeneration
  generation : after.node.status.dataResetGeneration = before.node.status.dataResetGeneration ∨
    ∃ event, Log.Gained before.log after.log event ∧
      RanTask .recordDataReset
        (fun task => after.node.status.dataResetGeneration = task.params.generation) event
  hold : after.node.status.maintenanceHold = before.node.status.maintenanceHold ∨
    ∃ event, Log.Gained before.log after.log event ∧
      RanTask .recordMaintenanceHold
        (fun task => after.node.status.maintenanceHold = task.params.hold) event

/-- The handled reset and the hold in effect change only by the tasks that record them. -/
structure Recorded (before after : Ctx ε) : Prop where
  rising : before.node.status.dataResetGeneration ≤ after.node.status.dataResetGeneration
  generation : after.node.status.dataResetGeneration = before.node.status.dataResetGeneration ∨
    ∃ event, Log.Gained before.log after.log event ∧
      RanTask .recordDataReset
        (fun task => after.node.status.dataResetGeneration = task.params.generation) event
  hold : after.node.status.maintenanceHold = before.node.status.maintenanceHold ∨
    ∃ event, Log.Gained before.log after.log event ∧
      RanTask .recordMaintenanceHold
        (fun task => after.node.status.maintenanceHold = task.params.hold) event

theorem Recorded.of_same {before after : Ctx ε}
    (generation : after.node.status.dataResetGeneration = before.node.status.dataResetGeneration)
    (hold : after.node.status.maintenanceHold = before.node.status.maintenanceHold) :
    Recorded before after :=
  ⟨Int.le_of_eq generation.symm, .inl generation, .inl hold⟩

theorem NodeRun.recorded {before mid start after : Ctx ε} (run : NodeRun before mid)
    (startLog : start.log = before.log) (afterLog : after.log = mid.log)
    (startGeneration :
      start.node.status.dataResetGeneration = before.node.status.dataResetGeneration)
    (startHold : start.node.status.maintenanceHold = before.node.status.maintenanceHold)
    (generation : after.node.status.dataResetGeneration = mid.node.status.dataResetGeneration)
    (hold : after.node.status.maintenanceHold = mid.node.status.maintenanceHold) :
    Recorded start after := by
  obtain ⟨_, _, rising, generation', hold'⟩ := run
  rw [← startGeneration, ← generation, ← startLog, ← afterLog] at generation'
  rw [← startGeneration, ← generation] at rising
  rw [← startHold, ← hold, ← startLog, ← afterLog] at hold'
  exact ⟨rising, generation', hold'⟩

theorem NodeRun.refl (ctx : Ctx ε) : NodeRun ctx ctx :=
  ⟨.refl _, rfl, Int.le_refl _, .inl rfl, .inl rfl⟩

theorem NodeRun.trans {a b c : Ctx ε} (first : NodeRun a b) (second : NodeRun b c) :
    NodeRun a c where
  log := first.log.trans (second.log.mono fun _ on => on.mono first.frame)
  frame := first.frame.trans second.frame
  rising := Int.le_trans first.rising second.rising
  generation := by
    rcases second.generation with same | ⟨event, gained, ran⟩
    · rw [same]
      rcases first.generation with same' | ⟨event, gained, ran⟩
      · exact .inl same'
      · exact .inr ⟨event, gained.after second.log, ran⟩
    · exact .inr ⟨event, gained.before first.log, ran⟩
  hold := by
    rcases second.hold with same | ⟨event, gained, ran⟩
    · rw [same]
      rcases first.hold with same' | ⟨event, gained, ran⟩
      · exact .inl same'
      · exact .inr ⟨event, gained.after second.log, ran⟩
    · exact .inr ⟨event, gained.before first.log, ran⟩

theorem NodeRun.of_node_eq {before after : Ctx ε} (node : after.node = before.node)
    (log : Log.Extends (EventOn before.node) before.log after.log) : NodeRun before after :=
  ⟨log, by rw [node]; rfl, by rw [node], .inl (by rw [node]), .inl (by rw [node])⟩

theorem NodeRun.of_effect {platform : Platform} {before after : Ctx ε} {origin : Origin}
    (effect : NodeEffect platform task.type task.params before.node after.node)
    (log : Log.Extends (EventOn before.node) before.log after.log)
    (gained : Log.Gained before.log after.log (.executed origin task before.node after.node)) :
    NodeRun before after := by
  have frame := effect.sameFrame
  unfold NodeEffect at effect
  split at effect
  next type =>
    have value : after.node.status.dataResetGeneration = before.node.status.dataResetGeneration ∨
        after.node.status.dataResetGeneration = task.params.generation := by
      rw [effect]
      unfold recordDataReset
      split
      · exact .inr rfl
      · exact .inl rfl
    have hold : after.node.status.maintenanceHold = before.node.status.maintenanceHold := by
      rw [effect]
      unfold recordDataReset
      split <;> rfl
    have rising : before.node.status.dataResetGeneration ≤ after.node.status.dataResetGeneration := by
      rw [effect]
      unfold recordDataReset
      split
      next below => exact Int.le_of_lt below
      next => exact Int.le_refl _
    exact ⟨log, frame, rising,
      value.imp_right fun same => ⟨_, gained, _, _, _, _, rfl, type, same⟩, .inl hold⟩
  next type =>
    have generation :
        after.node.status.dataResetGeneration = before.node.status.dataResetGeneration := by
      rw [effect]
      rfl
    have hold : after.node.status.maintenanceHold = task.params.hold := by
      rw [effect]
      rfl
    exact ⟨log, frame, Int.le_of_eq generation.symm, .inl generation,
      .inr ⟨_, gained, _, _, _, _, rfl, type, hold⟩⟩
  · rcases effect with same | same
    · exact .of_node_eq same log
    · exact ⟨log, frame, by rw [same]; exact Int.le_refl _, .inl (by rw [same]; rfl),
        .inl (by rw [same]; rfl)⟩
  · exact .of_node_eq effect log

variable {env : Env ε} {platform : Platform}

theorem TaskAdvance.nodeRun {origin : Origin} {ctx after : Ctx ε}
    (step : TaskAdvance env platform origin task ctx next after failure) : NodeRun ctx after := by
  cases step with
  | undecodable | refused => exact .refl ctx
  | unreached | seen => exact .of_node_eq rfl (.refl _)
  | rejected | forgotten => exact .of_node_eq rfl (.cons (.submitted _ _ _ _) _)
  | submitted =>
    have sent : EventOn ctx.node (.submitted origin task ctx.node true) := .submitted _ _ _ _
    exact .of_node_eq rfl ((Log.Extends.cons sent _).trans (.cons trivial _))
  | observed => exact .of_node_eq rfl (.cons trivial _)
  | ran _ _ later _ run =>
    have frame := runController_frame env platform ⟨task.type, task.params, .running, none⟩ ctx
    rw [run] at frame
    obtain ⟨effect, grown⟩ := frame
    have called : Log.Extends (EventOn ctx.node) ctx.log later.log := by
      rcases grown with same | ⟨claim, -, same⟩
      · rw [same]
        exact .refl _
      · rw [same]
        exact .cons trivial _
    exact .of_effect effect (called.trans (.cons (.executed _ _ _ _) _)) (.before called (.cons _ _))

/-! ## The end of an execution -/

/-- Tasks of an active plan have not started or have completed. -/
def PlannedTask.unfailed (task : PlannedTask) : Prop :=
  task.status = .pending ∨ task.status = .complete

def completeNode (owner : PlanOwner) (plan : TaskPlan) (node : SeiNode) : SeiNode :=
  (completePlan owner plan [] node).2

/-- How an execution of an active plan leaves plan and node; `mid` is the node after the
last task was driven. -/
inductive PlanEnd (owner : PlanOwner) (plan : TaskPlan) (mid : SeiNode) : TaskPlan → SeiNode → Prop
  | stopped (next : TaskPlan) (active : next.phase = .active)
      (unfailed : (∀ task ∈ plan.tasks, task.unfailed) → ∀ task ∈ next.tasks, task.unfailed) :
      PlanEnd owner plan mid next mid
  | completed (next : TaskPlan) (complete : next.phase = .complete)
      (finished : ∀ task ∈ next.tasks, task.status = .complete) :
      PlanEnd owner plan mid next (completeNode owner plan mid)
  | failed (next : TaskPlan) (failed : next.phase = .failed) :
      PlanEnd owner plan mid next (setTargetPhase owner plan.failedPhase mid)

theorem Polled.unfailed {answer : Except GetTaskError TaskResult}
    (polled : Polled task answer next failure) (before : task.unfailed) : next.unfailed := by
  cases polled with
  | unanswered | running | exhausted => exact before
  | completed => exact .inr rfl
  | retried => exact .inl rfl

theorem Ran.unfailed {stamped : PlannedTask} {outcome : ControllerOutcome}
    (ran : Ran task stamped outcome next failure) (before : task.unfailed)
    (stamp : stamped.unfailed) : next.unfailed := by
  cases ran with
  | complete | seen => exact .inr rfl
  | waiting | exhausted => exact stamp
  | retried => exact .inl rfl
  | transient | terminal => exact before

theorem TaskAdvance.unfailed {origin : Origin} {ctx after : Ctx ε}
    (step : TaskAdvance env platform origin task ctx next after failure) (before : task.unfailed) :
    next.unfailed := by
  cases step with
  | undecodable | refused | unreached | rejected => exact before
  | forgotten | seen => exact .inr rfl
  | submitted _ _ _ _ _ _ _ polled => exact polled.unfailed before
  | observed _ _ _ _ _ _ _ _ polled => exact polled.unfailed before
  | ran _ _ _ _ _ _ _ _ moved => exact moved.unfailed before before

/-- The node without what a plan, its tasks and its end, may write. -/
def SeiNode.body (node : SeiNode) : SeiNode :=
  { node.frame with
    status := { node.frame.status with phase := .empty, currentConfigValuesHash := "" } }

theorem setTargetPhase_body (owner : PlanOwner) (phase : SeiNodePhase) (node : SeiNode) :
    (setTargetPhase owner phase node).body = node.body := by
  unfold setTargetPhase
  split <;> rfl

theorem completeNode_body (owner : PlanOwner) (plan : TaskPlan) (node : SeiNode) :
    (completeNode owner plan node).body = node.body := by
  unfold completeNode completePlan
  rw [setTargetPhase_body]
  split <;> rfl

theorem SameFrame.body {left right : SeiNode} (same : SameFrame left right) :
    left.body = right.body := by
  unfold SeiNode.body
  rw [show left.frame = right.frame from same]

theorem PlanEnd.body {owner : PlanOwner} {plan next : TaskPlan} {mid node : SeiNode}
    (ended : PlanEnd owner plan mid next node) : node.body = mid.body := by
  cases ended with
  | stopped => rfl
  | completed => exact completeNode_body owner plan mid
  | failed => exact setTargetPhase_body owner plan.failedPhase mid

/-- The end of a plan writes the phase and the hash of the configuration, nothing else. -/
theorem PlanEnd.node_eq {owner : PlanOwner} {plan next : TaskPlan} {mid node : SeiNode}
    (ended : PlanEnd owner plan mid next node) :
    ∃ phase currentConfigValuesHash,
      node = { mid with status := { mid.status with phase, currentConfigValuesHash } } := by
  have target (phase : SeiNodePhase) (mid : SeiNode) : ∃ final,
      setTargetPhase owner phase mid = { mid with status := { mid.status with phase := final } } := by
    unfold setTargetPhase
    split
    · exact ⟨mid.status.phase, rfl⟩
    · exact ⟨mid.status.phase, rfl⟩
    · exact ⟨_, rfl⟩
  cases ended with
  | stopped => exact ⟨mid.status.phase, mid.status.currentConfigValuesHash, rfl⟩
  | completed =>
    unfold completeNode completePlan
    dsimp only
    split
    · obtain ⟨final, same⟩ := target plan.targetPhase _
      exact ⟨final, plan.configValuesHash, same⟩
    · obtain ⟨final, same⟩ := target plan.targetPhase mid
      exact ⟨final, mid.status.currentConfigValuesHash, same⟩
  | failed =>
    obtain ⟨final, same⟩ := target plan.failedPhase mid
    exact ⟨final, mid.status.currentConfigValuesHash, same⟩

theorem PlanEnd.workflow_phase {plan next : TaskPlan} {mid node : SeiNode}
    (ended : PlanEnd .workflow plan mid next node) : node.status.phase = mid.status.phase := by
  have kept (phase : SeiNodePhase) (node : SeiNode) : setTargetPhase .workflow phase node = node := by
    cases phase <;> rfl
  cases ended with
  | stopped => rfl
  | completed =>
    unfold completeNode completePlan
    dsimp only
    rw [kept]
    split <;> rfl
  | failed => rw [kept]

variable (env platform) in
/-- The node of an execution: driven tasks, then one of three ends. -/
theorem executePlan_end (owner : PlanOwner) (origin : TaskPlan → Origin) {plan : TaskPlan}
    (active : plan.phase = .active) (ctx : Ctx ε) :
    ∃ mid : Ctx ε, NodeRun ctx mid ∧
      (executePlan env platform owner origin plan ctx).2 =
        { mid with node := (executePlan env platform owner origin plan ctx).2.node } ∧
      PlanEnd owner plan mid.node (executePlan env platform owner origin plan ctx).1
        (executePlan env platform owner origin plan ctx).2.node := by
  have started : executePlan env platform owner origin plan ctx =
      executeTasks env platform owner origin plan [] plan.tasks ctx := by
    unfold executePlan
    rw [active]
  rw [started]
  refine executeTasks_rule
    (Q := fun next after => ∃ mid : Ctx ε, NodeRun ctx mid ∧ after = { mid with node := after.node } ∧
      PlanEnd owner plan mid.node next after.node)
    (I := fun done rest now => NodeRun ctx now ∧ (∀ task ∈ done, task.status = .complete) ∧
      ((∀ task ∈ plan.tasks, task.unfailed) → ∀ task ∈ rest, task.unfailed))
    ?_ ?_ ?_ ?_ ?_ plan.tasks [] ctx ⟨.refl ctx, by simp, fun unfailed => unfailed⟩
  · rintro done task rest now ⟨run, passed, left⟩ finished
    refine ⟨run, ?_, fun unfailed other member => left unfailed other (List.mem_cons_of_mem _ member)⟩
    simpa [or_imp, forall_and] using ⟨passed, finished⟩
  · rintro done task rest now next after ⟨run, passed, left⟩ _ step finished
    refine ⟨run.trans step.nodeRun, ?_,
      fun unfailed other member => left unfailed other (List.mem_cons_of_mem _ member)⟩
    simpa [or_imp, forall_and] using ⟨passed, finished⟩
  · rintro done now ⟨run, passed, _⟩
    exact ⟨now, run, rfl, .completed _ rfl passed⟩
  · rintro done task rest now next after ⟨run, passed, left⟩ _ step _
    refine ⟨after, run.trans step.nodeRun, rfl, .stopped _ active fun unfailed other member => ?_⟩
    have here : next.unfailed := step.unfailed (left unfailed task List.mem_cons_self)
    simp only [List.mem_append, List.mem_cons] at member
    rcases member with earlier | rfl | later
    · exact .inr (passed other earlier)
    · exact here
    · exact left unfailed other (List.mem_cons_of_mem _ later)
  · rintro done task rest now next after message ⟨run, _, _⟩ _ step
    exact ⟨after, run.trans step.nodeRun, rfl, .failed _ rfl⟩

variable (env platform) in
theorem executePlan_body (owner : PlanOwner) (origin : TaskPlan → Origin) (plan : TaskPlan)
    (ctx : Ctx ε) :
    (executePlan env platform owner origin plan ctx).2.node.body = ctx.node.body := by
  cases phase : plan.phase with
  | active =>
    obtain ⟨mid, run, -, ended⟩ := executePlan_end env platform owner origin phase ctx
    exact ended.body.trans run.frame.body.symm
  | complete | failed => simp only [executePlan, phase]

end

end SeiController
