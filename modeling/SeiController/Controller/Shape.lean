import SeiController.Controller.Moves
import SeiController.Planner.NodeRun

/-!
# Every reconcile has the shape

Function by function: what it does is a sequence of moves.
-/

set_option autoImplicit false

namespace SeiController

variable {workflow : Workflow} {adopted : AdoptedWorkflowRef}

section

variable {ε : Type} (env : Env ε) (platform : Platform)

variable {env platform} in
theorem Quiet.moves {flow next : Flow ε} (same : Quiet flow next) : Moves env platform flow next :=
  .single (.quiet same)

namespace Flow

/-! ## Writes -/

theorem quiet_withCtx {flow : Flow ε} {ctx : Ctx ε} (log : ctx.log = flow.ctx.log)
    (claims : ctx.claims = flow.ctx.claims) (node : SameCore flow.ctx.node ctx.node) :
    Quiet flow (flow.withCtx ctx) :=
  ⟨log, claims, node, rfl, rfl, rfl, rfl⟩

theorem quiet_mapNode (flow : Flow ε) (f : SeiNode → SeiNode)
    (same : SameCore flow.ctx.node (f flow.ctx.node)) : Quiet flow (flow.mapNode f) :=
  ⟨rfl, rfl, same, rfl, rfl, rfl, rfl⟩

theorem quiet_env (flow : Flow ε) (state : ε) :
    Quiet flow (flow.withCtx { flow.ctx with env := state }) :=
  quiet_withCtx rfl rfl rfl

theorem store_moves (flow : Flow ε) : Moves env platform flow (flow.store env).1 := by
  unfold store
  split
  · exact .refl
  next stored =>
    have fresh : flow.fresh = true := by simpa using stored
    split
    next state err _ => exact (quiet_env flow state).moves
    next state _ => exact .single (.persisted flow state fresh)

theorem flushStatus_moves (flow : Flow ε) : Moves env platform flow (flow.flushStatus env).1 := by
  have stored : Moves env platform flow (flow.store env).1 := store_moves env platform flow
  unfold flushStatus
  split
  · exact .refl
  · split
    next failed _ answer =>
      rw [answer] at stored
      exact stored.tail (.quiet ⟨rfl, rfl, rfl, rfl, rfl, rfl, rfl⟩)
    next answer => rw [answer] at stored; exact stored

theorem flushAs_moves (context : String) (flow : Flow ε) :
    Moves env platform flow (flow.flushAs env context).1 := by
  have flushed : Moves env platform flow (flow.flushStatus env).1 := flushStatus_moves env platform flow
  unfold flushAs
  split
  next answer => rw [answer] at flushed; exact flushed
  next answer => rw [answer] at flushed; exact flushed

theorem flushOnExit_moves (result : Flow ε × Option String) :
    Moves env platform result.1 (flushOnExit env result).1 := by
  obtain ⟨flow, failure⟩ := result
  have flushed : Moves env platform flow (flow.flushStatus env).1 := flushStatus_moves env platform flow
  unfold flushOnExit
  dsimp only
  split
  · exact .refl
  · generalize flow.flushStatus env = answer at flushed
    obtain ⟨ended, err⟩ := answer
    cases err <;> cases failure <;> exact flushed

theorem patchWorkflowStatus_cases (workflow : Workflow) (f : WorkflowStatus → WorkflowStatus)
    (flow : Flow ε) :
    ((f workflow.status = workflow.status ∧ flow.patchWorkflowStatus env workflow f = (flow, none)) ∨
      (∃ state err, flow.patchWorkflowStatus env workflow f =
        (flow.withCtx { flow.ctx with env := state }, some err)) ∨
      ∃ state, flow.patchWorkflowStatus env workflow f =
        (flow.withWorkflows state
          (updateWorkflow workflow.uid (Workflow.withStatus f) flow.workflows), none)) := by
  unfold patchWorkflowStatus
  split
  next same => exact .inl ⟨same, rfl⟩
  · split
    next state err _ => exact .inr (.inl ⟨state, _, rfl⟩)
    next state _ => exact .inr (.inr ⟨state, rfl⟩)

theorem patchWorkflowFinalizer_cases (workflow : Workflow) (add : Bool) (flow : Flow ε) :
    ((workflow.finalizer = add ∧ flow.patchWorkflowFinalizer env workflow add = (flow, none)) ∨
      (∃ state err, flow.patchWorkflowFinalizer env workflow add =
        (flow.withCtx { flow.ctx with env := state }, some err)) ∨
      ∃ state, flow.patchWorkflowFinalizer env workflow add =
        (flow.withWorkflows state
          (updateWorkflow workflow.uid (Workflow.withFinalizer add) flow.workflows), none)) := by
  unfold patchWorkflowFinalizer
  split
  next same => exact .inl ⟨same, rfl⟩
  · split
    next state err _ => exact .inr (.inl ⟨state, _, rfl⟩)
    next state _ => exact .inr (.inr ⟨state, rfl⟩)

/-- A write keeps what it does not write, in the order of the list. -/
theorem map_updateWorkflow {α : Type} (read : Workflow → α) (uid : String) (f : Workflow → Workflow)
    (same : ∀ workflow, read (f workflow) = read workflow) (workflows : List Workflow) :
    (updateWorkflow uid f workflows).map read = workflows.map read := by
  simp only [updateWorkflow, List.map_map]
  apply List.map_congr_left
  intro workflow _
  simp only [Function.comp_apply]
  split
  · exact same workflow
  · rfl

theorem ident_withStatus (uid : String) (f : WorkflowStatus → WorkflowStatus)
    (workflows : List Workflow) :
    (updateWorkflow uid (Workflow.withStatus f) workflows).map Workflow.ident =
      workflows.map Workflow.ident :=
  map_updateWorkflow Workflow.ident uid (Workflow.withStatus f) (fun _ => rfl) workflows

theorem ident_withFinalizer (uid : String) (finalizer : Bool) (workflows : List Workflow) :
    (updateWorkflow uid (Workflow.withFinalizer finalizer) workflows).map Workflow.ident =
      workflows.map Workflow.ident :=
  map_updateWorkflow Workflow.ident uid (Workflow.withFinalizer finalizer) (fun _ => rfl) workflows

theorem spec_withStatus (uid : String) (f : WorkflowStatus → WorkflowStatus)
    (workflows : List Workflow) :
    (updateWorkflow uid (Workflow.withStatus f) workflows).map Workflow.spec =
      workflows.map Workflow.spec :=
  map_updateWorkflow Workflow.spec uid (Workflow.withStatus f) (fun _ => rfl) workflows

theorem spec_withFinalizer (uid : String) (finalizer : Bool) (workflows : List Workflow) :
    (updateWorkflow uid (Workflow.withFinalizer finalizer) workflows).map Workflow.spec =
      workflows.map Workflow.spec :=
  map_updateWorkflow Workflow.spec uid (Workflow.withFinalizer finalizer) (fun _ => rfl) workflows

/-- A write to a workflow leaves the node and the workflows' names and recipes alone. -/
structure WorkflowWrite (flow next : Flow ε) : Prop where
  moves : Moves env platform flow next
  node : next.ctx.node = flow.ctx.node
  log : next.ctx.log = flow.ctx.log
  idents : next.workflows.map Workflow.ident = flow.workflows.map Workflow.ident
  specs : next.workflows.map Workflow.spec = flow.workflows.map Workflow.spec

variable {env platform} in
theorem WorkflowWrite.refl (flow : Flow ε) : WorkflowWrite env platform flow flow :=
  ⟨.refl, rfl, rfl, rfl, rfl⟩

variable {env platform} in
theorem WorkflowWrite.trans {a b c : Flow ε} (first : WorkflowWrite env platform a b)
    (second : WorkflowWrite env platform b c) : WorkflowWrite env platform a c :=
  ⟨first.moves.trans second.moves, second.node.trans first.node, second.log.trans first.log,
    second.idents.trans first.idents, second.specs.trans first.specs⟩

variable {env platform} in
theorem WorkflowWrite.env_only (flow : Flow ε) (state : ε) :
    WorkflowWrite env platform flow (flow.withCtx { flow.ctx with env := state }) :=
  ⟨(quiet_env flow state).moves, rfl, rfl, rfl, rfl⟩

theorem restate_write (workflow : Workflow) {f : WorkflowStatus → WorkflowStatus}
    (plan : ∀ status, (f status).plan = status.plan)
    (phase : ∀ status, (f status).phase = .complete → status.phase = .complete) (flow : Flow ε) :
    WorkflowWrite env platform flow (flow.patchWorkflowStatus env workflow f).1 := by
  rcases patchWorkflowStatus_cases env workflow f flow with
    ⟨_, same⟩ | ⟨state, err, same⟩ | ⟨state, same⟩
  · rw [same]
    exact .refl flow
  · rw [same]
    exact .env_only flow state
  · rw [same]
    exact ⟨.single (.restated flow state workflow.uid f plan phase), rfl, rfl, ident_withStatus _ _ _,
      spec_withStatus _ _ _⟩

theorem hold_write (workflow : Workflow) (flow : Flow ε) :
    WorkflowWrite env platform flow (flow.patchWorkflowFinalizer env workflow true).1 := by
  rcases patchWorkflowFinalizer_cases env workflow true flow with
    ⟨_, same⟩ | ⟨state, err, same⟩ | ⟨state, same⟩
  · rw [same]
    exact .refl flow
  · rw [same]
    exact .env_only flow state
  · rw [same]
    exact ⟨.single (.held flow state workflow.uid), rfl, rfl, ident_withFinalizer _ _ _,
      spec_withFinalizer _ _ _⟩

theorem failWorkflow_write (workflow : Workflow) (flow : Flow ε) :
    WorkflowWrite env platform flow (flow.failWorkflow env workflow) := by
  unfold failWorkflow
  split
  · exact .refl flow
  · refine restate_write env platform workflow ?_ ?_ flow
    · exact fun _ => rfl
    · intro _ never
      cases never

theorem seedWorkflowAdoption_write (workflow : Workflow) (flow : Flow ε) :
    WorkflowWrite env platform flow (flow.seedWorkflowAdoption env workflow) := by
  unfold seedWorkflowAdoption
  refine restate_write env platform workflow ?_ ?_ flow
  · exact fun _ => rfl
  · intro status complete
    dsimp only at complete
    split at complete
    · cases complete
    · exact complete

theorem readWorkflows_write (flow : Flow ε) :
    WorkflowWrite env platform flow (flow.readWorkflows env).1 :=
  .env_only flow _

theorem foldl_write {write : Flow ε → Workflow → Flow ε}
    (each : ∀ flow workflow, WorkflowWrite env platform flow (write flow workflow))
    (workflows : List Workflow) :
    ∀ flow : Flow ε, WorkflowWrite env platform flow (workflows.foldl write flow) := by
  induction workflows with
  | nil => exact fun flow => .refl flow
  | cons workflow rest ih => exact fun flow => (each flow workflow).trans (ih (write flow workflow))

theorem gateOnRequirePhase_write (workflow : Workflow) (flow : Flow ε) :
    WorkflowWrite env platform flow (flow.gateOnRequirePhase env workflow).1 := by
  unfold gateOnRequirePhase
  dsimp only
  generalize (if workflow.spec.requirePhase = SeiNodePhase.empty then SeiNodePhase.running
    else workflow.spec.requirePhase) = required
  by_cases reached : flow.ctx.node.status.phase = required
  · rw [if_pos reached]
    refine restate_write env platform workflow ?_ ?_ flow
    · exact fun _ => rfl
    · exact fun _ complete => complete
  · rw [if_neg reached]
    cases expired : requirePhaseExpired workflow (env.now flow.ctx.env) with
    | true =>
      rw [if_pos rfl]
      exact failWorkflow_write env platform workflow flow
    | false =>
      rw [if_neg Bool.false_ne_true]
      refine restate_write env platform workflow ?_ ?_ flow
      · exact fun _ => rfl
      · intro status complete
        dsimp only at complete
        split at complete
        · cases complete
        · exact complete

/-- The gates come off one by one.  A workflow read before the pass still has its cause:
each write changes another workflow, or only the gate. -/
theorem stripFinalizers_write (workflows : List Workflow) :
    ∀ flow : Flow ε,
      (∀ workflow ∈ workflows, ∃ stored ∈ flow.workflows, stored.uid = workflow.uid ∧
        Unholds flow.ctx.node stored) →
      WorkflowWrite env platform flow (flow.stripFinalizers env workflows).1 := by
  induction workflows with
  | nil => exact fun flow _ => .refl flow
  | cons workflow rest ih =>
    intro flow causes
    obtain ⟨stored, member, sameUid, cause⟩ := causes workflow List.mem_cons_self
    unfold stripFinalizers
    rcases patchWorkflowFinalizer_cases env workflow false flow with
      ⟨_, same⟩ | ⟨state, err, same⟩ | ⟨state, same⟩
    · rw [same]
      exact ih flow fun other later => causes other (List.mem_cons_of_mem _ later)
    · rw [same]
      exact .env_only flow state
    · rw [same]
      have first : WorkflowWrite env platform flow (flow.withWorkflows state
          (updateWorkflow workflow.uid (Workflow.withFinalizer false) flow.workflows)) :=
        ⟨sameUid ▸ .single (.unheld flow state stored member cause), rfl, rfl,
          ident_withFinalizer _ _ _, spec_withFinalizer _ _ _⟩
      refine first.trans (ih _ fun other later => ?_)
      obtain ⟨stored', member', sameUid', cause'⟩ := causes other (List.mem_cons_of_mem _ later)
      refine ⟨_, List.mem_map_of_mem member', ?_⟩
      split
      · exact ⟨sameUid', cause'⟩
      · exact ⟨sameUid', cause'⟩

theorem reapCompletedWorkflowFinalizers_write (flow : Flow ε) :
    WorkflowWrite env platform flow (flow.reapCompletedWorkflowFinalizers env).1 := by
  have first := readWorkflows_write env platform flow
  unfold reapCompletedWorkflowFinalizers
  split
  next answer => rw [answer] at first; exact first
  next read answer =>
    rw [answer] at first
    refine first.trans (stripFinalizers_write env platform _ read fun workflow member => ?_)
    obtain ⟨stored, complete⟩ := List.mem_filter.mp member
    exact ⟨workflow, stored, rfl, .inl (by simpa using complete)⟩

/-! ## Adoption -/

theorem store_node (flow : Flow ε) : (flow.store env).1.ctx.node = flow.ctx.node := by
  unfold store
  split
  · rfl
  · split <;> rfl

theorem flushStatus_node (flow : Flow ε) : (flow.flushStatus env).1.ctx.node = flow.ctx.node := by
  have stored := store_node env flow
  unfold flushStatus
  split
  · rfl
  · split
    next answer => rw [answer] at stored; exact stored
    next answer => rw [answer] at stored; exact stored

theorem flushStatus_workflows (flow : Flow ε) :
    (flow.flushStatus env).1.workflows = flow.workflows := by
  have stored : (flow.store env).1.workflows = flow.workflows := by
    unfold store
    split
    · rfl
    · split <;> rfl
  unfold flushStatus
  split
  · rfl
  · split
    next answer => rw [answer] at stored; exact stored
    next answer => rw [answer] at stored; exact stored

/-- What the workflow half of a reconcile does, and that it hands on only a node without
a workflow. -/
structure WorkflowPart (flow : Flow ε) (result : Flow ε × WorkflowResult) : Prop where
  moves : Moves env platform flow result.1
  unoccupied : result.2.suppress = false → result.2.handled = false → result.2.err = none →
    result.1.ctx.node.status.adoptedWorkflow = none

variable {env platform} in
theorem WorkflowPart.after {flow mid : Flow ε} {result : Flow ε × WorkflowResult}
    (first : Moves env platform flow mid) (second : WorkflowPart env platform mid result) :
    WorkflowPart env platform flow result :=
  ⟨first.trans second.moves, second.unoccupied⟩

variable {env platform} in
theorem WorkflowPart.of_occupied {flow next : Flow ε} (moves : Moves env platform flow next) :
    WorkflowPart env platform flow (next, .occupied) :=
  ⟨moves, fun never => by cases never⟩

variable {env platform} in
theorem WorkflowPart.of_error {flow next : Flow ε} {suppress handled : Bool} {err : String}
    (moves : Moves env platform flow next) :
    WorkflowPart env platform flow (next, ⟨suppress, handled, some err⟩) :=
  ⟨moves, fun _ _ never => by cases never⟩

variable {env platform} in
theorem WorkflowPart.of_resume {flow next : Flow ε} (moves : Moves env platform flow next)
    (unoccupied : next.ctx.node.status.adoptedWorkflow = none) :
    WorkflowPart env platform flow (next, .resume) :=
  ⟨moves, fun _ _ _ => unoccupied⟩

theorem persistWorkflowPlan_moves {plan : TaskPlan} {flow : Flow ε}
    (pointer : flow.ctx.node.status.adoptedWorkflow = some ⟨workflow.name, workflow.uid⟩)
    {planID : String} {node : SeiNode} (built : buildWorkflowPlan planID node workflow = .ok plan)
    (syncers : node.status.resolvedStateSyncers = flow.ctx.node.status.resolvedStateSyncers)
    (listed : workflow.spec ∈ flow.workflows.map Workflow.spec) :
    Moves env platform flow (flow.persistWorkflowPlan env workflow plan).1 := by
  unfold persistWorkflowPlan
  rcases patchWorkflowStatus_cases env workflow _ flow with
    ⟨_, same⟩ | ⟨state, err, same⟩ | ⟨state, same⟩
  · rw [same]
  · rw [same]
    exact (quiet_env flow state).moves
  · rw [same]
    exact .single (.planned flow state workflow plan pointer planID node built syncers listed)

theorem commitAdoption_part {plan : TaskPlan} {flow : Flow ε}
    (member : workflow.ident ∈ flow.workflows.map Workflow.ident)
    (running : flow.ctx.node.status.phase = .running)
    (unoccupied : flow.ctx.node.status.adoptedWorkflow = none)
    (idle : flow.ctx.node.status.plan = none) (unmounted : flow.ctx.node.mountsNodeConfig = false)
    {planID : String} {node : SeiNode} (built : buildWorkflowPlan planID node workflow = .ok plan)
    (syncers : node.status.resolvedStateSyncers = flow.ctx.node.status.resolvedStateSyncers)
    (listed : workflow.spec ∈ flow.workflows.map Workflow.spec) :
    WorkflowPart env platform flow (flow.commitAdoption env workflow plan) := by
  unfold commitAdoption
  dsimp only
  generalize stamped : flow.mapNode _ = pointed
  have adopt : Moves env platform flow pointed :=
    stamped ▸ .single (.adopted flow _ workflow.name workflow.uid member running unoccupied idle
      unmounted)
  have pointer : pointed.ctx.node.status.adoptedWorkflow = some ⟨workflow.name, workflow.uid⟩ := by
    rw [← stamped]
    rfl
  have flushed := flushStatus_moves env platform pointed
  have flushedNode := flushStatus_node env pointed
  have flushedWorkflows := flushStatus_workflows env pointed
  split
  next answer =>
    rw [answer] at flushed
    exact .of_error (adopt.trans flushed)
  next committed answer =>
    rw [answer] at flushed flushedNode flushedWorkflows
    have sofar := adopt.trans flushed
    have gate := hold_write env platform workflow committed
    split
    next answer =>
      rw [answer] at gate
      exact .of_error (sofar.trans gate.moves)
    next gated answer =>
      rw [answer] at gate
      have pointer' : gated.ctx.node.status.adoptedWorkflow =
          some ⟨workflow.name, workflow.uid⟩ := by
        rw [gate.node, flushedNode]
        exact pointer
      have syncers' : node.status.resolvedStateSyncers =
          gated.ctx.node.status.resolvedStateSyncers := by
        rw [gate.node, flushedNode, ← stamped]
        exact syncers
      have listed' : workflow.spec ∈ gated.workflows.map Workflow.spec := by
        rw [gate.specs, flushedWorkflows, ← stamped]
        exact listed
      have stored := persistWorkflowPlan_moves env platform pointer' built syncers' listed'
      split
      next answer =>
        rw [answer] at stored
        exact .of_error ((sofar.trans gate.moves).trans stored)
      next answer =>
        rw [answer] at stored
        exact ⟨(sofar.trans gate.moves).trans stored, fun never => by cases never⟩

theorem adoptWinner_part {winner : Workflow} {flow : Flow ε}
    (member : winner.ident ∈ flow.workflows.map Workflow.ident)
    (listed : winner.spec ∈ flow.workflows.map Workflow.spec)
    (running : flow.ctx.node.status.phase = .running)
    (unoccupied : flow.ctx.node.status.adoptedWorkflow = none)
    (unmounted : flow.ctx.node.mountsNodeConfig = false) :
    WorkflowPart env platform flow (flow.adoptWinner env winner) := by
  have seeded := seedWorkflowAdoption_write env platform winner flow
  have seededPart : WorkflowPart env platform flow (flow.seedWorkflowAdoption env winner, .resume) :=
    .of_resume seeded.moves (by rw [seeded.node]; exact unoccupied)
  unfold adoptWinner
  split
  · exact seededPart
  · split
    · exact seededPart
    next planned =>
      have idle : flow.ctx.node.status.plan = none := by simpa using planned
      have gate := gateOnRequirePhase_write env platform winner flow
      split
      next answer =>
        rw [answer] at gate
        exact .of_resume gate.moves (by rw [gate.node]; exact unoccupied)
      next gated answer =>
        rw [answer] at gate
        dsimp only
        generalize (env.newUUID gated.ctx.env).1 = state
        have drawn := gate.trans (.env_only gated state)
        split
        · have failed := drawn.trans (failWorkflow_write env platform winner _)
          exact .of_resume failed.moves (by rw [failed.node]; exact unoccupied)
        next plan built =>
          refine .after drawn.moves (commitAdoption_part env platform ?_ ?_ ?_ ?_ ?_ built rfl ?_)
          · rw [drawn.idents]
            exact member
          · rw [drawn.node]
            exact running
          · rw [drawn.node]
            exact unoccupied
          · rw [drawn.node]
            exact idle
          · rw [drawn.node]
            exact unmounted
          · rw [drawn.specs]
            exact listed

theorem mem_of_pendingWorkflows {rest workflows : List Workflow}
    (pending : pendingWorkflows workflows = workflow :: rest) : workflow ∈ workflows := by
  have member : workflow ∈ pendingWorkflows workflows := by
    rw [pending]
    exact List.mem_cons_self
  unfold pendingWorkflows at member
  exact (List.mem_filter.mp (List.mem_mergeSort.mp member)).1

theorem maybeAdoptWorkflow_part {flow : Flow ε} (running : flow.ctx.node.status.phase = .running)
    (unoccupied : flow.ctx.node.status.adoptedWorkflow = none) :
    WorkflowPart env platform flow (flow.maybeAdoptWorkflow env) := by
  have reaped := reapCompletedWorkflowFinalizers_write env platform flow
  unfold maybeAdoptWorkflow
  split
  next answer =>
    rw [answer] at reaped
    exact .of_error reaped.moves
  next cleaned answer =>
    rw [answer] at reaped
    have listed := reaped.trans (readWorkflows_write env platform cleaned)
    split
    next answer =>
      rw [answer] at listed
      exact .of_error listed.moves
    next read answer =>
      rw [answer] at listed
      split
      · exact .of_resume listed.moves (by rw [listed.node]; exact unoccupied)
      next winner losers pending =>
        split
        · have failed := listed.trans
            (foldl_write env platform (fun flow workflow =>
              failWorkflow_write env platform workflow flow) (winner :: losers) read)
          exact .of_resume failed.moves (by rw [failed.node]; exact unoccupied)
        next eligible =>
          have unmounted : read.ctx.node.mountsNodeConfig = false := by
            simp only [Bool.or_eq_true, not_or, Bool.not_eq_true] at eligible
            exact eligible.2
          have seeded := listed.trans
            (foldl_write env platform (fun flow workflow =>
              seedWorkflowAdoption_write env platform workflow flow) losers read)
          have seededRead := foldl_write env platform (fun flow workflow =>
              seedWorkflowAdoption_write env platform workflow flow) losers read
          refine .after seeded.moves (adoptWinner_part env platform ?_ ?_ ?_ ?_ ?_)
          · rw [seededRead.idents]
            exact List.mem_map_of_mem (mem_of_pendingWorkflows pending)
          · rw [seededRead.specs]
            exact List.mem_map_of_mem (mem_of_pendingWorkflows pending)
          · rw [seeded.node]
            exact running
          · rw [seeded.node]
            exact unoccupied
          · rw [seededRead.node]
            exact unmounted

/-! ## Driving -/

theorem condition_moves (status : ConditionStatus) (reason : WorkflowReason) (message : String)
    (flow : Flow ε) :
    Moves env platform flow (flow.mapNode (setWorkflowInProgress status reason message)) :=
  (quiet_mapNode flow (setWorkflowInProgress status reason message) (.refl _)).moves

theorem parkFailed_moves (flow : Flow ε) : Moves env platform flow flow.parkFailed :=
  condition_moves env platform _ _ _ flow

theorem release_part {flow : Flow ε} (message : String)
    (pointer : flow.ctx.node.status.adoptedWorkflow = some adopted)
    (cause : Releases flow.workflows adopted) :
    WorkflowPart env platform flow (flow.mapNode (releasePointer message), .resume) :=
  .of_resume (.single (.released flow message adopted pointer cause)) rfl

theorem finalizeWorkflow_part {flow : Flow ε} (member : workflow ∈ flow.workflows)
    (deleting : workflow.deletionTimestamp.isSome)
    (pointer : flow.ctx.node.status.adoptedWorkflow = some adopted)
    (sameUid : workflow.uid = adopted.uid) :
    WorkflowPart env platform flow (flow.finalizeWorkflow env workflow) := by
  unfold finalizeWorkflow
  split
  · exact release_part env platform _ pointer (.inr ⟨workflow, member, sameUid, .inl deleting⟩)
  · split
    · exact .of_occupied (condition_moves env platform _ _ _ flow)
    next forced =>
      have force : workflow.forceDelete = true := by simpa using forced
      rcases patchWorkflowFinalizer_cases env workflow false flow with
        ⟨_, same⟩ | ⟨state, err, same⟩ | ⟨state, same⟩
      · rw [same]
        exact release_part env platform _ pointer (.inr ⟨workflow, member, sameUid, .inl deleting⟩)
      · rw [same]
        exact .of_error (quiet_env flow state).moves
      · rw [same]
        refine .after (.single (.unheld flow state workflow member (.inr (.inr (.inl
          ⟨deleting, force⟩))))) (release_part env platform _ pointer (.inr ⟨_,
            List.mem_map_of_mem member, ?_⟩))
        rw [if_pos rfl]
        exact ⟨sameUid, .inl deleting⟩

theorem releaseCompletedWorkflow_part {flow : Flow ε} {stored : Workflow}
    (member : stored ∈ flow.workflows) (same : stored.uid = workflow.uid)
    (complete : stored.planPhase = some .complete)
    (pointer : flow.ctx.node.status.adoptedWorkflow = some adopted)
    (sameUid : workflow.uid = adopted.uid) :
    WorkflowPart env platform flow (flow.releaseCompletedWorkflow env workflow) := by
  have storedUid := same.trans sameUid
  unfold releaseCompletedWorkflow
  rcases patchWorkflowFinalizer_cases env workflow false flow with
    ⟨_, patched⟩ | ⟨state, err, patched⟩ | ⟨state, patched⟩
  · rw [patched]
    exact release_part env platform _ pointer (.inr ⟨stored, member, storedUid, .inr complete⟩)
  · rw [patched]
    exact .of_error (quiet_env flow state).moves
  · rw [patched, ← same]
    refine .after (.single (.unheld flow state stored member (.inr (.inl complete))))
      (release_part env platform _ pointer (.inr ⟨_, List.mem_map_of_mem member, ?_⟩))
    rw [if_pos rfl]
    exact ⟨storedUid, .inr complete⟩

theorem executeWorkflow_part {flow : Flow ε} {plan : TaskPlan} (member : workflow ∈ flow.workflows)
    (finalizer : workflow.finalizer = true) (alive : workflow.deletionTimestamp = none)
    (carried : workflow.status.plan = some plan) (active : plan.phase = .active)
    (pointer : flow.ctx.node.status.adoptedWorkflow = some adopted)
    (sameUid : workflow.uid = adopted.uid) :
    WorkflowPart env platform flow (flow.executeWorkflow env platform workflow plan) := by
  unfold executeWorkflow
  split
  next next ctx executed =>
  have pointed : flow.ctx.node.status.adoptedWorkflow = some ⟨adopted.name, workflow.uid⟩ := by
    rw [pointer, sameUid]
  have pointerAfter : ctx.node.status.adoptedWorkflow = some adopted := by
    have body := executePlan_body env platform .workflow (.workflow workflow.uid) plan flow.ctx
    rw [executed] at body
    exact (congrArg (fun node => node.status.adoptedWorkflow) body).trans pointer
  have drove (state : ε) (workflows : List Workflow)
      (written : workflows = flow.workflows ∨ workflows = updateWorkflow workflow.uid
        (Workflow.withStatus (executedStatus next)) flow.workflows) :
      Moves env platform flow ((flow.withCtx ctx).withWorkflows state workflows) :=
    .single (.drove flow workflow member finalizer alive adopted.name pointed plan carried active
      next ctx executed state workflows written)
  rcases patchWorkflowStatus_cases env workflow (executedStatus next) (flow.withCtx ctx) with
    ⟨unchanged, same⟩ | ⟨state, err, same⟩ | ⟨state, same⟩
  · rw [same]
    have driven : Moves env platform flow (flow.withCtx ctx) := drove ctx.env flow.workflows (.inl rfl)
    dsimp only
    split
    next complete =>
      -- a plan that was active has not become complete without changing
      have samePlan : some next = workflow.status.plan := congrArg WorkflowStatus.plan unchanged
      rw [carried] at samePlan
      cases samePlan
      rw [active] at complete
      cases complete
    · exact .of_occupied (driven.trans (parkFailed_moves env platform _))
    · exact .of_occupied driven
  · rw [same]
    exact .of_error (drove state flow.workflows (.inl rfl))
  · rw [same]
    have driven := drove state _ (.inr rfl)
    dsimp only
    split
    next complete =>
      refine .after driven (releaseCompletedWorkflow_part env platform
        (List.mem_map_of_mem member) ?_ ?_ pointerAfter sameUid)
      · rw [if_pos rfl]
        rfl
      · rw [if_pos rfl]
        exact congrArg some complete
    · exact .of_occupied (driven.trans (parkFailed_moves env platform _))
    · exact .of_occupied driven

theorem mem_withFinalizer {workflows : List Workflow} (member : workflow ∈ workflows)
    (finalizer : Bool) :
    workflow.withFinalizer finalizer ∈
      updateWorkflow workflow.uid (Workflow.withFinalizer finalizer) workflows := by
  have mapped := List.mem_map_of_mem
    (f := fun other => if other.uid = workflow.uid then other.withFinalizer finalizer else other)
    member
  rw [if_pos rfl] at mapped
  exact mapped

theorem driveWorkflow_part {flow : Flow ε} (member : workflow ∈ flow.workflows)
    (alive : workflow.deletionTimestamp = none) (name : workflow.name = adopted.name)
    (pointer : flow.ctx.node.status.adoptedWorkflow = some adopted)
    (sameUid : workflow.uid = adopted.uid) :
    WorkflowPart env platform flow (flow.driveWorkflow env platform workflow) := by
  unfold driveWorkflow
  split
  next carried =>
    refine releaseCompletedWorkflow_part env platform member rfl ?_ pointer sameUid
    unfold Workflow.planPhase
    rw [carried]
    rfl
  · exact .of_occupied (parkFailed_moves env platform flow)
  next plan incomplete unfailed =>
    dsimp only
    generalize driving : flow.mapNode _ = conditioned
    have first : Moves env platform flow conditioned :=
      driving ▸ condition_moves env platform _ _ _ flow
    have member' : workflow ∈ conditioned.workflows := driving ▸ member
    have pointer' : conditioned.ctx.node.status.adoptedWorkflow = some adopted := by
      rw [← driving]
      exact pointer
    -- the workflow as it is stored once its gate is on
    have gate : ∃ gated err, conditioned.patchWorkflowFinalizer env workflow true = (gated, err) ∧
        Moves env platform conditioned gated ∧ gated.ctx.node = conditioned.ctx.node ∧
        (err = none → workflow.withFinalizer true ∈ gated.workflows) := by
      have written := hold_write env platform workflow conditioned
      rcases patchWorkflowFinalizer_cases env workflow true conditioned with
        ⟨on, same⟩ | ⟨state, err, same⟩ | ⟨state, same⟩
      · refine ⟨_, _, same, .refl, rfl, fun _ => ?_⟩
        have stored : workflow.withFinalizer true = workflow := by
          unfold Workflow.withFinalizer
          rw [← on]
        rw [stored]
        exact member'
      · rw [same] at written
        exact ⟨_, _, same, written.moves, written.node, fun never => by cases never⟩
      · rw [same] at written
        exact ⟨_, _, same, written.moves, written.node, fun _ => mem_withFinalizer member' true⟩
    obtain ⟨gated, err, same, moved, node, stored⟩ := gate
    rw [same]
    have sofar := first.trans moved
    have gatedPointer : gated.ctx.node.status.adoptedWorkflow = some adopted := by
      rw [node]
      exact pointer'
    cases err with
    | some err => exact .of_error sofar
    | none =>
      dsimp only
      split
      next plan carried =>
        refine .after sofar (executeWorkflow_part env platform (stored rfl) rfl alive carried ?_
          gatedPointer sameUid)
        cases phase : plan.phase with
        | active => rfl
        | complete =>
          exact absurd (by rw [carried, ← phase]) (incomplete plan.id plan.tasks plan.targetPhase
            plan.configValuesHash plan.failedPhase plan.failedTaskIndex plan.failedTaskDetail)
        | failed =>
          exact absurd (by rw [carried, ← phase]) (unfailed plan.id plan.tasks plan.targetPhase
            plan.configValuesHash plan.failedPhase plan.failedTaskIndex plan.failedTaskDetail)
      · generalize (env.newUUID gated.ctx.env).1 = state
        have drawn : Moves env platform gated (gated.withCtx { gated.ctx with env := state }) :=
          (quiet_env gated state).moves
        split
        · exact .of_occupied ((sofar.trans drawn).trans (failWorkflow_write env platform _ _).moves)
        next plan built =>
          have named : some adopted = some ⟨workflow.name, workflow.uid⟩ := by rw [name, sameUid]
          have stamped : (gated.withCtx { gated.ctx with env := state }).ctx.node.status.adoptedWorkflow
              = some ⟨(workflow.withFinalizer true).name, (workflow.withFinalizer true).uid⟩ :=
            gatedPointer.trans named
          have persisted := persistWorkflowPlan_moves env platform stamped built rfl
            (List.mem_map_of_mem (stored rfl))
          refine ⟨(sofar.trans drawn).trans persisted, fun never => by cases never⟩

theorem driveAdoptedWorkflow_part {flow : Flow ε}
    (pointer : flow.ctx.node.status.adoptedWorkflow = some adopted) :
    WorkflowPart env platform flow (flow.driveAdoptedWorkflow env platform adopted) := by
  have read := readWorkflows_write env platform flow
  unfold driveAdoptedWorkflow
  split
  next answer =>
    rw [answer] at read
    exact .of_error read.moves
  next listed answer =>
    rw [answer] at read
    have pointer' : listed.ctx.node.status.adoptedWorkflow = some adopted := by
      rw [read.node]
      exact pointer
    refine .after read.moves ?_
    split
    next absent =>
      exact release_part env platform _ pointer' (.inl fun workflow found => by
        rw [absent] at found
        cases found)
    next workflow found =>
      have member := List.mem_of_find?_eq_some found
      have named : workflow.name = adopted.name := by simpa using List.find?_some found
      split
      next other =>
        refine release_part env platform _ pointer' (.inl fun workflow' found' => ?_)
        cases found.symm.trans found'
        exact other
      next same =>
        have sameUid : workflow.uid = adopted.uid := by simpa using same
        split
        next deleting => exact finalizeWorkflow_part env platform member deleting pointer' sameUid
        next alive =>
          exact driveWorkflow_part env platform member (by simpa using alive) named pointer' sameUid

theorem reconcileWorkflow_part (flow : Flow ε) :
    WorkflowPart env platform flow (flow.reconcileWorkflow env platform) := by
  unfold reconcileWorkflow
  split
  next adopted pointer => exact driveAdoptedWorkflow_part env platform pointer
  next unoccupied =>
    split
    · exact .of_resume .refl unoccupied
    next running =>
      have phase : flow.ctx.node.status.phase = .running := by simpa using running
      have seeded : SameCore flow.ctx.node (seedWorkflowInProgress flow.ctx.node) := by
        unfold seedWorkflowInProgress
        split <;> rfl
      refine .after (quiet_mapNode flow _ seeded).moves (maybeAdoptWorkflow_part env platform ?_ ?_)
      · exact seeded.phase.symm.trans phase
      · exact seeded.pointer.symm.trans unoccupied

/-! ## The stages around planning -/

variable {env} in
theorem claimed_moves (flow : Flow ε) {state : ε} {claims : List PersistentVolumeClaim}
    {err : Option String}
    (served : env.claimCall flow.ctx.env flow.ctx.claims = (state, claims, err)) :
    Moves env platform flow (flow.withClaims state claims) := by
  have made : Move env platform flow _ := .claimed flow
  rw [served] at made
  exact .single made

variable {env} in
theorem claimed_twice {flow : Flow ε} {state state' : ε} {claims claims' : List PersistentVolumeClaim}
    {err err' : Option String}
    (looked : env.claimCall flow.ctx.env flow.ctx.claims = (state, claims, err))
    (served : env.claimCall state claims = (state', claims', err')) :
    Moves env platform flow (flow.withClaims state' claims') :=
  (claimed_moves platform flow looked).trans
    (claimed_moves platform (flow.withClaims state claims) served)

theorem growDataPVC_moves (flow : Flow ε) : Moves env platform flow (flow.growDataPVC env) := by
  unfold growDataPVC
  split
  · exact .refl
  next want size =>
    split
    next looked => exact claimed_moves platform flow looked
    next state claims looked =>
      have read := claimed_moves platform flow looked
      split
      · exact read
      next seen found =>
        have named : seen.name = dataPVCName flow.ctx.node := by simpa using List.find?_some found
        split
        · exact read
        next eligible =>
          simp only [Bool.or_eq_true, Bool.not_eq_true', decide_eq_true_eq, not_or,
            Bool.not_eq_false, Nat.not_le] at eligible
          split
          next refused => exact claimed_twice platform looked refused
          next served =>
            have patched := claimed_twice platform looked served
            split
            · exact patched.tail (.grew (flow.withClaims _ _) seen want size named eligible.1.1
                eligible.2)
            · exact patched

theorem reconcilePeers_moves (flow : Flow ε) :
    Moves env platform flow (flow.reconcilePeers env).1 := by
  unfold reconcilePeers
  split
  · exact (quiet_env flow _).moves
  · exact .single (.quiet ⟨rfl, rfl, rfl, rfl, rfl, rfl, rfl⟩)

theorem backfillNodeIsolation_quiet (flow : Flow ε) : Quiet flow (flow.backfillNodeIsolation env).1 := by
  unfold backfillNodeIsolation
  dsimp only
  split
  · exact .refl flow
  · split
    · exact quiet_env flow _
    · exact ⟨rfl, rfl, rfl, rfl, rfl, rfl, rfl⟩

theorem driftSlot_env (ctx : Ctx ε) :
    ∃ state, (driftSlot env platform ctx).1 = { ctx with env := state } := by
  unfold driftSlot
  split
  · exact ⟨_, rfl⟩
  · split <;> exact ⟨_, rfl⟩

theorem pinnedToRunning_env (ctx : Ctx ε) :
    ∃ state, (pinnedToRunning env ctx).1 = { ctx with env := state } := by
  unfold pinnedToRunning
  dsimp only
  split
  · exact ⟨_, rfl⟩
  · split <;> exact ⟨_, rfl⟩

theorem driftRenderNode_frame (ctx : Ctx ε) :
    ∃ state node, (driftRenderNode env platform ctx).1 = { ctx with env := state, node } ∧
      SameCore ctx.node node := by
  obtain ⟨state, slot⟩ := driftSlot_env env platform ctx
  unfold driftRenderNode
  split
  · exact ⟨_, _, rfl, rfl⟩
  · split
    next answer => rw [answer] at slot; exact ⟨state, ctx.node, slot, rfl⟩
    next answer => rw [answer] at slot; exact ⟨state, ctx.node, slot, rfl⟩
    next slotted refusal answer =>
      rw [answer] at slot
      cases slot
      obtain ⟨later, pinned⟩ := pinnedToRunning_env env
        { ctx with
          env := state
          node := setNodeUpdateCondition .conditionFalse .updateDeferred refusal ctx.node }
      dsimp only at pinned ⊢
      split
      next answer => rw [answer] at pinned; exact ⟨later, _, pinned, rfl⟩
      next answer => rw [answer] at pinned; exact ⟨later, _, pinned, rfl⟩

theorem applyStatefulSet_moves (flow : Flow ε) :
    Moves env platform flow (flow.applyStatefulSet env platform).1 := by
  obtain ⟨state, node, render, core⟩ := driftRenderNode_frame env platform flow.ctx
  have same : Quiet flow (flow.withCtx { flow.ctx with env := state, node }) :=
    quiet_withCtx rfl rfl core
  have rendered : Moves env platform flow _ := same.moves
  unfold applyStatefulSet
  dsimp only
  split
  next answer =>
    rw [answer] at render
    subst render
    exact rendered
  next answer =>
    rw [answer] at render
    subst render
    split
    · exact rendered
    · split
      · exact rendered.trans (quiet_env _ _).moves
      · exact rendered.tail (.quiet ⟨rfl, rfl, rfl, rfl, rfl, rfl, rfl⟩)

/-! ## Planning -/

theorem probeSidecar_frame (ctx : Ctx ε) :
    ∃ state node, probeSidecar env ctx = { ctx with env := state, node } ∧ SameCore ctx.node node := by
  unfold probeSidecar
  split
  · exact ⟨_, _, rfl, rfl⟩
  · split
    · exact ⟨_, _, rfl, rfl⟩
    · dsimp only
      generalize (env.healthz _).2 = answer
      refine ⟨_, _, rfl, ?_⟩
      match answer with
      | .error _ => rfl
      | .ok true => rfl
      | .ok false => rfl

theorem observeTerminal_sameCore (plan : TaskPlan) (node : SeiNode) :
    SameCore node (observeTerminalUpdate plan (observeTerminalDataResetPlan plan node)) := by
  have reset : SameCore node (observeTerminalDataResetPlan plan node) := by
    unfold observeTerminalDataResetPlan
    repeat' split
    all_goals rfl
  refine reset.trans ?_
  unfold observeTerminalUpdate
  repeat' split
  all_goals rfl

theorem handleTerminalPlan_sameCore {node : SeiNode} (inactive : node.planActive = false) :
    SameCore (clearPlan node) (handleTerminalPlan node) := by
  unfold handleTerminalPlan
  split
  next unplanned =>
    unfold clearPlan SameCore
    rw [← unplanned]
  next plan carried =>
    have ended : plan.phase ≠ .active := by
      intro active
      simp [SeiNode.planActive, carried, active] at inactive
    dsimp only
    rw [if_neg ended]
    have same := observeTerminal_sameCore plan node
    exact congrArg clearPlan same

theorem sameCore_explainUnobservedConfig (node : SeiNode) :
    SameCore node (explainUnobservedConfig node) := by
  unfold explainUnobservedConfig
  split <;> rfl

theorem sameCore_assembleUpdatePlan (planID : String) (prog : List TaskType)
    (reason : NodeUpdateReason) (message : String) (node : SeiNode) :
    SameCore node (assembleUpdatePlan platform planID prog reason message node).1 := by
  unfold assembleUpdatePlan
  split <;> rfl

theorem sameCore_modeBuildPlan (planID : String) (mode : ModePlanner) (node : SeiNode) :
    SameCore node (mode.buildPlan platform planID node).1 := by
  unfold ModePlanner.buildPlan
  split
  · unfold buildRunningUpdate
    split
    · exact sameCore_assembleUpdatePlan platform _ _ _ _ node
    · split
      · exact sameCore_assembleUpdatePlan platform _ _ _ _ node
      · split <;> rfl
  · rfl

theorem sameCore_buildStaticRunningPlan (planID : String) (node : SeiNode) :
    SameCore node (buildStaticRunningPlan platform planID node).1 := by
  unfold buildStaticRunningPlan
  split
  · split
    · rfl
    · unfold markDataResetStarted
      split <;> rfl
  · split
    · rfl
    · split
      · rfl
      · split <;> rfl

/-- A builder only reports on conditions. -/
theorem sameCore_buildPlan (planID : String) (mode : ModePlanner) (node : SeiNode) :
    SameCore node (buildPlan platform planID mode node).1 := by
  unfold buildPlan
  split
  · unfold buildStaticPlan
    split
    · exact sameCore_buildStaticRunningPlan platform planID node
    · have built := sameCore_modeBuildPlan platform planID mode node
      split
      next answer =>
        rw [answer] at built
        split <;> exact built
      · exact built
  · exact sameCore_modeBuildPlan platform planID mode node

def Unplanned (ctx after : Ctx ε) : Prop :=
  SameCore ctx.node after.node ∧ after.log = ctx.log ∧ after.claims = ctx.claims

def Planned (ctx after : Ctx ε) : Prop :=
  ∃ planID mode node plan state,
    buildPlan platform planID mode ctx.node = (node, .ok (some plan)) ∧
      mountedConfigWriterInPlan node plan = none ∧
      after = storePlan plan { ctx with env := state, node } ∧
      plannerForMode ctx.node = .ok mode

theorem admitPlan_cases (plan : TaskPlan) (ctx : Ctx ε) :
    Unplanned ctx (admitPlan env platform plan ctx).1 ∨
      mountedConfigWriterInPlan ctx.node plan = none ∧
        ∃ state, (admitPlan env platform plan ctx).1 = storePlan plan { ctx with env := state } := by
  obtain ⟨state, slot⟩ := driftSlot_env env platform ctx
  unfold admitPlan
  split
  · exact .inl ⟨rfl, rfl, rfl⟩
  next writable =>
    split
    · split
      next answer => rw [answer] at slot; cases slot; exact .inl ⟨rfl, rfl, rfl⟩
      next answer => rw [answer] at slot; cases slot; exact .inl ⟨rfl, rfl, rfl⟩
      next answer => rw [answer] at slot; cases slot; exact .inr ⟨writable, state, rfl⟩
    · exact .inr ⟨writable, ctx.env, rfl⟩

theorem planNext_cases (ctx : Ctx ε) :
    Unplanned ctx (planNext env platform ctx).1 ∨
      Planned platform ctx (planNext env platform ctx).1 := by
  unfold planNext
  split
  · exact .inl ⟨rfl, rfl, rfl⟩
  next mode chosen =>
    split
    · exact .inl ⟨rfl, rfl, rfl⟩
    · split
      next state planID drawn =>
      have same := sameCore_buildPlan platform planID mode ctx.node
      split
      next answer =>
        rw [answer] at same
        exact .inl ⟨same, rfl, rfl⟩
      next answer =>
        rw [answer] at same
        exact .inl ⟨same.trans (sameCore_explainUnobservedConfig _), rfl, rfl⟩
      next node plan answer =>
        rw [answer] at same
        rcases admitPlan_cases env platform plan { ctx with env := state, node } with
          unplanned | ⟨writable, later, stored⟩
        · exact .inl ⟨same.trans unplanned.1, unplanned.2⟩
        · exact .inr ⟨planID, mode, node, plan, later, answer, writable, stored, chosen⟩

theorem resolveDriftPlan_ending {flow : Flow ε} (unpaused : flow.ctx.node.spec.paused = false)
    (unfailed : flow.ctx.node.status.phase ≠ .failed)
    (unoccupied : flow.ctx.node.status.adoptedWorkflow = none) :
    Ending env platform flow (flow.resolveDriftPlan env platform).1 := by
  obtain ⟨state, node, probed, core⟩ := probeSidecar_frame env flow.ctx
  unfold resolveDriftPlan
  dsimp only
  cases active : flow.ctx.node.planActive with
  | true =>
    have probedActive : node.planActive = true := core.planActive.symm.trans active
    have resolved : resolvePlan env platform flow.ctx =
        ({ flow.ctx with env := state, node }, none) := by
      unfold resolvePlan
      rw [probed]
      dsimp only
      rw [if_pos probedActive]
    rw [resolved]
    dsimp only
    split
    next unplanned =>
      simp [SeiNode.planActive, unplanned] at probedActive
    next plan carried =>
      have phase : plan.phase = .active := by
        simpa [SeiNode.planActive, carried] using probedActive
      rw [if_pos ⟨rfl, phase⟩]
      exact .executed flow _ (flow.withCtx { flow.ctx with env := state, node })
        (quiet_withCtx rfl rfl core) unpaused unoccupied plan (core.plan.trans carried) phase rfl
  | false =>
    have inactive : node.planActive = false := core.planActive.symm.trans active
    have clearedCore : SameCore (clearPlan flow.ctx.node) (handleTerminalPlan node) :=
      (show SameCore (clearPlan flow.ctx.node) (clearPlan node) from
        congrArg clearPlan core).trans (handleTerminalPlan_sameCore inactive)
    have unplanned {ctx : Ctx ε} (same : SameCore (clearPlan flow.ctx.node) ctx.node)
        (logged : ctx.log = flow.ctx.log) (claims : ctx.claims = flow.ctx.claims) :
        Ending env platform flow (flow.withCtx ctx) :=
      .cleared flow _ unoccupied active ⟨logged, claims, same, rfl, rfl, rfl, rfl⟩
    have next : Ending env platform flow
        (flow.withCtx (resolvePlan env platform flow.ctx).1) := by
      unfold resolvePlan
      rw [probed]
      dsimp only
      rw [if_neg (by rw [inactive]; exact Bool.false_ne_true)]
      split
      · exact unplanned clearedCore rfl rfl
      next unblocked =>
        split
        · exact unplanned clearedCore rfl rfl
        · rcases planNext_cases env platform
            { flow.ctx with env := state, node := handleTerminalPlan node } with
            same | ⟨planID, mode, after, plan, later, built, writable, stored, chosen⟩
          · exact unplanned (clearedCore.trans same.1) same.2.1 same.2.2
          · rw [stored]
            exact .stored flow _ unpaused unfailed unoccupied active _ after clearedCore planID mode
              plan built writable later rfl chosen (by simpa using unblocked)
    generalize resolvePlan env platform flow.ctx = result at next
    obtain ⟨ctx, err⟩ := result
    cases err with
    | some err => exact next
    | none =>
      dsimp only
      split
      · exact next
      · rw [if_neg (by simp)]
        exact next

/-! ## The reconcile -/

theorem Move.spec {flow next : Flow ε} (move : Move env platform flow next) :
    next.ctx.node.spec = flow.ctx.node.spec := by
  cases move with
  | quiet same => exact same.node.spec.symm
  | drove workflow _ _ _ _ _ plan _ _ _ _ executed =>
    have body := executePlan_body env platform .workflow (.workflow workflow.uid) plan flow.ctx
    rw [executed] at body
    have spec := congrArg SeiNode.spec body
    exact spec
  | _ => rfl

theorem Moves.spec {flow next : Flow ε} (moves : Moves env platform flow next) :
    next.ctx.node.spec = flow.ctx.node.spec := by
  induction moves with
  | refl => rfl
  | tail _ move ih => exact (Move.spec env platform move).trans ih

theorem executePlan_workflow_phase (uid : String) {plan : TaskPlan} (active : plan.phase = .active)
    (ctx : Ctx ε) :
    (executePlan env platform .workflow (.workflow uid) plan ctx).2.node.status.phase =
      ctx.node.status.phase := by
  obtain ⟨mid, run, -, ended⟩ := executePlan_end env platform .workflow (.workflow uid) active ctx
  exact ended.workflow_phase.trans run.frame.phase.symm

/-- Only a deletion changes the phase outside of planning. -/
theorem Move.phase {flow next : Flow ε} (move : Move env platform flow next)
    (alive : flow.ctx.node.deletionTimestamp = none) :
    next.ctx.node.status.phase = flow.ctx.node.status.phase ∧
      next.ctx.node.deletionTimestamp = none := by
  cases move with
  | quiet same => exact ⟨same.node.phase.symm, same.node.deletion.symm.trans alive⟩
  | terminating deleting => simp [alive] at deleting
  | drove workflow _ _ _ _ _ plan _ active _ _ executed =>
    have body := executePlan_body env platform .workflow (.workflow workflow.uid) plan flow.ctx
    have phase := executePlan_workflow_phase env platform workflow.uid active flow.ctx
    rw [executed] at body phase
    have deletion := congrArg SeiNode.deletionTimestamp body
    exact ⟨phase, deletion.trans alive⟩
  | _ => exact ⟨rfl, alive⟩

theorem Moves.phase {flow next : Flow ε} (moves : Moves env platform flow next)
    (alive : flow.ctx.node.deletionTimestamp = none) :
    next.ctx.node.status.phase = flow.ctx.node.status.phase ∧
      next.ctx.node.deletionTimestamp = none := by
  induction moves with
  | refl => exact ⟨rfl, alive⟩
  | tail _ move ih =>
    have last := Move.phase env platform move ih.2
    exact ⟨last.1.trans ih.1, last.2⟩

/-- The part of a reconcile that plans, from the node whose conditions are resolved. -/
def PlansAndFlushes (flow next : Flow ε) : Prop :=
  ∃ planned ended, Moves env platform flow planned ∧ Ending env platform planned ended ∧
    Moves env platform ended next

variable {env platform} in
theorem PlansAndFlushes.of_moves {flow next : Flow ε} (moves : Moves env platform flow next) :
    PlansAndFlushes env platform flow next :=
  ⟨next, next, moves, .idle next, .refl⟩

variable {env platform} in
theorem PlansAndFlushes.before {flow mid next : Flow ε} (first : Moves env platform flow mid)
    (second : PlansAndFlushes env platform mid next) : PlansAndFlushes env platform flow next := by
  obtain ⟨planned, ended, moves, ending, flush⟩ := second
  exact ⟨planned, ended, first.trans moves, ending, flush⟩

theorem reconcileDrift_plans {flow : Flow ε} (unpaused : flow.ctx.node.spec.paused = false)
    (unfailed : flow.ctx.node.status.phase ≠ .failed)
    (unoccupied : flow.ctx.node.status.adoptedWorkflow = none) :
    PlansAndFlushes env platform flow (flow.reconcileDrift env platform).1 := by
  have backfilled := backfillNodeIsolation_quiet env flow
  unfold reconcileDrift
  split
  next answer =>
    rw [answer] at backfilled
    exact .of_moves backfilled.moves
  next observed answer =>
    rw [answer] at backfilled
    have ending : Ending env platform observed (observed.resolveDriftPlan env platform).1 :=
      resolveDriftPlan_ending env platform
        (by rw [← backfilled.node.spec]; exact unpaused)
        (by rw [← backfilled.node.phase]; exact unfailed)
        (by rw [← backfilled.node.pointer]; exact unoccupied)
    split
    next answer =>
      rw [answer] at ending
      exact ⟨observed, _, backfilled.moves, ending, .refl⟩
    next resolved answer =>
      rw [answer] at ending
      exact ⟨observed, resolved, backfilled.moves, ending, flushAs_moves env platform _ resolved⟩

theorem reconcileActive_plans {flow : Flow ε} (unpaused : flow.ctx.node.spec.paused = false)
    (unfailed : flow.ctx.node.status.phase ≠ .failed)
    (alive : flow.ctx.node.deletionTimestamp = none) :
    PlansAndFlushes env platform flow (flow.reconcileActive env platform).1 := by
  have peers := (growDataPVC_moves env platform flow).trans
    (reconcilePeers_moves env platform (flow.growDataPVC env))
  unfold reconcileActive
  split
  next answer =>
    rw [answer] at peers
    exact .of_moves peers
  next peered answer =>
    rw [answer] at peers
    have part := reconcileWorkflow_part env platform peered
    split
    next answer =>
      rw [answer] at part
      exact .of_moves (peers.trans part.moves)
    next answer =>
      rw [answer] at part
      exact .of_moves (peers.trans part.moves)
    next occupied answer =>
      rw [answer] at part
      exact .of_moves ((peers.trans part.moves).trans (flushAs_moves env platform _ occupied))
    next resumed answer =>
      rw [answer] at part
      have sofar := peers.trans part.moves
      refine .before sofar (reconcileDrift_plans env platform ?_ ?_ (part.unoccupied rfl rfl rfl))
      · rw [Moves.spec env platform sofar]
        exact unpaused
      · rw [(Moves.phase env platform sofar alive).1]
        exact unfailed

def setGate (condition : Condition StateSyncReason) (syncers : List String) (node : SeiNode) :
    SeiNode :=
  { node with
    status := { node.status with stateSyncReady := some condition, resolvedStateSyncers := syncers } }

theorem syncersFromRegistry_eq (node : SeiNode) (answer : Except String (List String)) :
    ∃ condition syncers, syncersFromRegistry node answer = setGate condition syncers node ∧
      (syncers = [] ∧ condition.status ≠ .conditionTrue ∨
        minCanonicalSyncers ≤ syncers.length ∧ answer = .ok syncers) := by
  unfold syncersFromRegistry
  split
  · exact ⟨_, _, rfl, .inl ⟨rfl, by simp⟩⟩
  · split
    · exact ⟨_, _, rfl, .inl ⟨rfl, by simp⟩⟩
    next enough => exact ⟨_, _, rfl, .inr ⟨Nat.le_of_not_lt enough, rfl⟩⟩

/-- The gate resolves the condition and the witnesses, and never one without the other: no
witness on a condition that is not True, and otherwise as many as the floor asks, from the
spec or from the registry. -/
theorem reconcileStateSyncGate_eq (flow : Flow ε) :
    ∃ state condition syncers,
      flow.reconcileStateSyncGate env =
        (flow.withCtx { flow.ctx with env := state }).mapNode (setGate condition syncers) ∧
      (syncers = [] ∧ condition.status ≠ .conditionTrue ∨
        minCanonicalSyncers ≤ syncers.length ∧
          ((∃ servers, syncers = sortedUnique servers) ∨
            (env.canonicalSyncers flow.ctx.env).2 = .ok syncers)) := by
  unfold reconcileStateSyncGate
  split
  · exact ⟨flow.ctx.env, _, _, rfl, .inl ⟨rfl, by simp⟩⟩
  next snap _ =>
    dsimp only
    split
    next enough =>
      exact ⟨flow.ctx.env, _, _, rfl, .inr ⟨enough, .inl ⟨snap.rpcServers, rfl⟩⟩⟩
    · obtain ⟨condition, syncers, same, resolved⟩ :=
        syncersFromRegistry_eq flow.ctx.node (env.canonicalSyncers flow.ctx.env).2
      refine ⟨(env.canonicalSyncers flow.ctx.env).1, condition, syncers, ?_, ?_⟩
      · unfold mapNode
        dsimp only [withCtx]
        rw [same]
      · rcases resolved with few | ⟨enough, registered⟩
        · exact .inl few
        · exact .inr ⟨enough, .inr registered⟩

theorem resolveDataReset_cases (node : SeiNode) :
    SameCore (catchUpDataReset node) (resolveDataReset node) ∨ SameCore node (resolveDataReset node) := by
  unfold resolveDataReset
  split
  · exact .inr rfl
  · refine .inl ?_
    dsimp only
    repeat' split
    all_goals rfl

theorem resolveMaintenance_cases (node : SeiNode) :
    ∃ condition, resolveMaintenance node =
      { node with status := { node.status with maintenanceInProgress := some condition } } := by
  unfold resolveMaintenance
  dsimp only
  repeat' split
  all_goals exact ⟨_, rfl⟩

theorem resolveConditions_object (flow : Flow ε) :
    (flow.resolveConditions env).ctx.node.object = flow.ctx.node.object := by
  have caughtUp (node : SeiNode) : (catchUpDataReset node).object = node.object := by
    unfold catchUpDataReset
    split <;> rfl
  obtain ⟨state, condition, syncers, same, -⟩ := reconcileStateSyncGate_eq env flow
  unfold resolveConditions
  rw [same]
  generalize gate : setGate condition syncers flow.ctx.node = gated
  have gatedObject : gated.object = flow.ctx.node.object := by
    rw [← gate]
    rfl
  show (resolveMaintenance (resolveDataReset (setGate condition syncers flow.ctx.node))).object = _
  rw [gate, ← gatedObject]
  obtain ⟨maintenance, maintained⟩ := resolveMaintenance_cases (resolveDataReset gated)
  rw [maintained]
  show (resolveDataReset gated).object = _
  rcases resolveDataReset_cases gated with same | same
  · exact (congrArg SeiNode.object same).symm.trans (caughtUp gated)
  · exact (congrArg SeiNode.object same).symm

theorem reconcileBody_plans {flow : Flow ε} (alive : flow.ctx.node.deletionTimestamp = none) :
    PlansAndFlushes env platform (flow.resolveConditions env)
      (flow.reconcileBody env platform).1 := by
  have resolvedAlive := (object_congr (resolveConditions_object env flow) SeiNode.deletionTimestamp
    fun _ => rfl).trans alive
  unfold reconcileBody
  dsimp only
  generalize flow.resolveConditions env = resolved at resolvedAlive
  have applied := applyStatefulSet_moves env platform resolved
  split
  · exact .of_moves (flushAs_moves env platform _ resolved)
  next unfailed =>
    split
    next answer =>
      rw [answer] at applied
      exact .of_moves applied
    next rendered answer =>
      rw [answer] at applied
      split
      · exact .of_moves (applied.trans (flushAs_moves env platform _ rendered))
      next paused =>
        have same := Moves.phase env platform applied resolvedAlive
        exact .before applied (reconcileActive_plans env platform (by simpa using paused)
          (by rw [same.1]; exact unfailed) same.2)

theorem deleteNodeDataPVC_moves {flow : Flow ε} (deleting : flow.ctx.node.deletionTimestamp.isSome) :
    Moves env platform flow (flow.deleteNodeDataPVC env).1 ∧
      (flow.deleteNodeDataPVC env).1.ctx.node = flow.ctx.node := by
  unfold deleteNodeDataPVC
  split
  · exact ⟨.refl, rfl⟩
  next own =>
    have unimported : flow.ctx.node.importedPVCName = none := by simpa using own
    split
    next looked => exact ⟨claimed_moves platform flow looked, rfl⟩
    next state claims looked =>
      split
      · exact ⟨claimed_moves platform flow looked, rfl⟩
      · split
        next refused => exact ⟨claimed_twice platform looked refused, rfl⟩
        next served =>
          have called := claimed_twice platform looked served
          split
          · exact ⟨called, rfl⟩
          next claim found =>
            exact ⟨called.tail (.deletedClaim (flow.withClaims _ _) claim deleting
              unimported found), rfl⟩

theorem releaseWorkflowFinalizersForNode_write {flow : Flow ε}
    (deleting : flow.ctx.node.deletionTimestamp.isSome) :
    WorkflowWrite env platform flow (flow.releaseWorkflowFinalizersForNode env).1 := by
  have first := readWorkflows_write env platform flow
  unfold releaseWorkflowFinalizersForNode
  split
  next answer => rw [answer] at first; exact first
  next read answer =>
    rw [answer] at first
    refine first.trans (stripFinalizers_write env platform _ read fun workflow member => ?_)
    exact ⟨workflow, member, rfl, .inr (.inr (.inr (by rw [first.node]; exact deleting)))⟩

theorem handleNodeDeletion_moves {flow : Flow ε}
    (deleting : flow.ctx.node.deletionTimestamp.isSome) :
    Moves env platform flow (flow.handleNodeDeletion env).1 := by
  unfold handleNodeDeletion
  split
  · exact .refl
  · have first : Moves env platform flow (flow.mapNode (setPhase .terminating)) :=
      .single (.terminating flow deleting)
    have stored := store_moves env platform (flow.mapNode (setPhase .terminating))
    have storedNode := store_node env (flow.mapNode (setPhase .terminating))
    split
    next answer =>
      rw [answer] at stored
      exact first.trans stored
    next marked answer =>
      rw [answer] at stored storedNode
      have deleting' : marked.ctx.node.deletionTimestamp.isSome := by
        rw [storedNode]
        exact deleting
      obtain ⟨removed, removedNode⟩ := deleteNodeDataPVC_moves env platform deleting'
      split
      next answer =>
        rw [answer] at removed
        exact (first.trans stored).trans removed
      next cleaned answer =>
        rw [answer] at removed removedNode
        have released := releaseWorkflowFinalizersForNode_write env platform
          (show cleaned.ctx.node.deletionTimestamp.isSome by rw [removedNode]; exact deleting')
        split
        next answer =>
          rw [answer] at released
          exact ((first.trans stored).trans removed).trans released.moves
        next freed answer =>
          rw [answer] at released
          have last : freed.ctx.node.deletionTimestamp.isSome := by
            rw [released.node, removedNode]
            exact deleting'
          exact (((first.trans stored).trans removed).trans released.moves).trans
            (.head (.unfinalized freed last) (store_moves env platform _))

theorem ensureNodeFinalizer_moves (flow : Flow ε) :
    Moves env platform flow (flow.ensureNodeFinalizer env).1 := by
  unfold ensureNodeFinalizer
  split
  · exact .refl
  · exact .head (.finalized flow) (store_moves env platform _)

theorem ensureNodeFinalizer_status (flow : Flow ε) :
    (flow.ensureNodeFinalizer env).1.ctx.node.status = flow.ctx.node.status := by
  unfold ensureNodeFinalizer
  split
  · rfl
  · rw [store_node]
    rfl

theorem reconcile_reconciled (flow : Flow ε) :
    Reconciled env platform flow (flow.reconcile env platform).1 := by
  unfold reconcile
  split
  next deleting => exact .outside (handleNodeDeletion_moves env platform deleting)
  next alive =>
    have finalizer := ensureNodeFinalizer_moves env platform flow
    have unchanged := ensureNodeFinalizer_status env flow
    split
    next answer =>
      rw [answer] at finalizer
      exact .outside finalizer
    next ready answer =>
      rw [answer] at finalizer unchanged
      have alive : flow.ctx.node.deletionTimestamp = none := by simpa using alive
      obtain ⟨planned, ended, prelude, ending, flush⟩ := reconcileBody_plans env platform
        (Moves.phase env platform finalizer alive).2
      exact .body alive ready planned ended finalizer unchanged prelude ending
        (flush.trans (flushOnExit_moves env platform _))

end Flow

end

end SeiController
