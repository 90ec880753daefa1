import SeiController.Controller.Mounted
import SeiController.Lib.Compact
import SeiController.Planner.WitnessedPlans

/-!
# The witness floor over runs

The gate resolves a condition and a list of servers at the start of a reconcile, the planner
reads the one and puts the other into the plan, and a workflow's planner reads the list from
a status some earlier reconcile stored.  What links them is that the list is empty or meets
the floor on every version there is, and that the condition is True on no empty list.
-/

set_option autoImplicit false

namespace SeiController

/-! ## The syncer file -/

def isSyncerSeparator (char : Char) : Bool :=
  char = '\n' || char = '\r' || char = ',' || char = ' ' || char = '\t'

/-- The non-empty fields between separators, sorted and without repetitions. -/
def parseSyncerList (raw : String) : List String :=
  compactNames (((raw.toList.splitOnP isSyncerSeparator).filter fun field => field ≠ []).map
    String.ofList)

section

variable {ε : Type}

/-- The registry is a file, read anew at every reconcile: `entries` is the chain's list in it,
or why the file could not be read or decoded. -/
def Env.withSyncerFile (env : Env ε) (entries : ε → ε × Except String (List String)) : Env ε :=
  { env with
    canonicalSyncers := fun state =>
      match entries state with
      | (state, .error err) => (state, .error err)
      | (state, .ok listed) => (state, .ok (parseSyncerList ("\n".intercalate listed))) }

theorem canonicalSyncers_distinct {env : Env ε} {entries : ε → ε × Except String (List String)}
    {state : ε} {syncers : List String}
    (read : ((env.withSyncerFile entries).canonicalSyncers state).2 = .ok syncers) :
    syncers.Nodup := by
  unfold Env.withSyncerFile at read
  dsimp only at read
  split at read
  · cases read
  · cases read
    exact compactNames_nodup _

end

/-! ## What holds of every version -/

/-- What only the gate and the planning step change. -/
def SeiNode.steady (node : SeiNode) :
    SeiNodeSpec × Option TaskPlan × Option (Condition StateSyncReason) × List String :=
  (node.spec, node.status.plan, node.status.stateSyncReady, node.status.resolvedStateSyncers)

structure SeiNode.Floored (node : SeiNode) : Prop where
  admitted : node.spec.oneMode
  plan : ∀ plan, node.status.plan = some plan → plan.Witnessed
  resolved : node.status.resolvedStateSyncers = [] ∨ Witnesses node.status.resolvedStateSyncers

structure SeiNode.Gated (node : SeiNode) : Prop where
  resolved : node.status.resolvedStateSyncers = [] ∨ Witnesses node.status.resolvedStateSyncers
  ready : ∃ condition, node.status.stateSyncReady = some condition ∧
    (condition.status = .conditionTrue → Witnesses node.status.resolvedStateSyncers)

theorem SeiNode.Floored.congr {node next : SeiNode} (floored : node.Floored)
    (same : next.steady = node.steady) : next.Floored := by
  simp only [SeiNode.steady, Prod.mk.injEq] at same
  obtain ⟨spec, plan, -, resolved⟩ := same
  exact ⟨spec ▸ floored.admitted, plan ▸ floored.plan, resolved ▸ floored.resolved⟩

theorem SeiNode.Gated.congr {node next : SeiNode} (gated : node.Gated)
    (ready : next.status.stateSyncReady = node.status.stateSyncReady)
    (resolved : next.status.resolvedStateSyncers = node.status.resolvedStateSyncers) :
    next.Gated := by
  refine ⟨resolved ▸ gated.resolved, ?_⟩
  rw [ready, resolved]
  exact gated.ready

structure Workflow.Floored (workflow : Workflow) : Prop where
  plan : ∀ plan, workflow.status.plan = some plan → plan.Witnessed
  recipe : ∀ recipe, workflow.spec.stateSync = some recipe → recipe.rpcServers.Nodup

theorem floored_updateWorkflow {uid : String} {f : Workflow → Workflow} {workflows : List Workflow}
    (each : ∀ workflow ∈ workflows, workflow.uid = uid → workflow.Floored → (f workflow).Floored)
    (all : ∀ workflow ∈ workflows, workflow.Floored) :
    ∀ workflow ∈ updateWorkflow uid f workflows, workflow.Floored := by
  intro workflow member
  obtain ⟨old, listed, rfl⟩ := List.mem_map.mp member
  split
  next same => exact each old listed (by simpa using same) (all old listed)
  · exact all old listed

section

variable {ε : Type}

structure Flow.Floored (flow : Flow ε) : Prop where
  node : flow.ctx.node.Floored
  written : ∀ version ∈ flow.written, version.Floored
  workflows : ∀ workflow ∈ flow.workflows, workflow.Floored

theorem Flow.Floored.quiet {flow next : Flow ε} (floored : flow.Floored) (same : Quiet flow next) :
    next.Floored where
  node := floored.node.congr (same.node.symm.congr SeiNode.steady fun _ => rfl)
  written := same.written ▸ floored.written
  workflows := same.workflows ▸ floored.workflows

/-! ## Moves -/

variable {env : Env ε} {platform : Platform}

variable (env platform) in
theorem executePlan_steady (owner : PlanOwner) (origin : TaskPlan → Origin) (plan : TaskPlan)
    (ctx : Ctx ε) :
    (executePlan env platform owner origin plan ctx).2.node.steady = ctx.node.steady := by
  have steady := congrArg SeiNode.steady (executePlan_body env platform owner origin plan ctx)
  exact steady

theorem Move.steady {flow next : Flow ε} (move : Move env platform flow next) :
    next.ctx.node.steady = flow.ctx.node.steady := by
  cases move with
  | quiet same => exact same.node.symm.congr SeiNode.steady fun _ => rfl
  | drove workflow _ _ _ _ _ plan _ _ _ _ executed =>
    have same := executePlan_steady env platform .workflow (.workflow workflow.uid) plan flow.ctx
    rw [executed] at same
    exact same
  | _ => rfl

theorem Moves.gated {flow next : Flow ε} (moves : Moves env platform flow next)
    (gated : flow.ctx.node.Gated) : next.ctx.node.Gated := by
  induction moves with
  | refl => exact gated
  | tail _ move ih =>
    have same := move.steady
    simp only [SeiNode.steady, Prod.mk.injEq] at same
    exact ih.congr same.2.2.1 same.2.2.2

theorem Flow.Floored.withWorkflows {flow : Flow ε} (floored : flow.Floored) (state : ε)
    {uid : String} {f : Workflow → Workflow}
    (each : ∀ workflow ∈ flow.workflows, workflow.uid = uid → workflow.Floored →
      (f workflow).Floored) :
    (flow.withWorkflows state (updateWorkflow uid f flow.workflows)).Floored :=
  ⟨floored.node, floored.written, floored_updateWorkflow each floored.workflows⟩

theorem Move.floored {flow next : Flow ε} (move : Move env platform flow next)
    (floored : flow.Floored) : next.Floored := by
  have node : next.ctx.node.Floored := floored.node.congr move.steady
  cases move with
  | quiet same => exact floored.quiet same
  | persisted =>
    exact ⟨node, List.forall_mem_cons.mpr ⟨floored.node, floored.written⟩, floored.workflows⟩
  | restated state uid f plan phase =>
    refine floored.withWorkflows state fun workflow _ _ held => ⟨fun stored carried => ?_, held.recipe⟩
    exact held.plan stored ((plan workflow.status).symm.trans carried)
  | held state uid | unheld state =>
    exact floored.withWorkflows state fun _ _ _ held => ⟨held.plan, held.recipe⟩
  | planned state workflow plan pointer planID seen built syncers listed =>
    obtain ⟨same, member, spec⟩ := List.mem_map.mp listed
    have witnessed : plan.Witnessed := by
      refine witnessed_of_workflowPlan (syncers ▸ floored.node.resolved) ?_ built
      rw [← spec]
      exact (floored.workflows same member).recipe
    refine floored.withWorkflows state fun _ _ _ held => ⟨fun stored carried => ?_, held.recipe⟩
    cases carried
    exact witnessed
  | drove workflow member _ _ _ _ plan carried _ driven ctx executed state workflows written =>
    refine ⟨node, floored.written, ?_⟩
    rcases written with rfl | rfl
    · exact floored.workflows
    · have evolves : PlanEvolves plan driven := by
        have evolved : PlanEvolves plan
            (executePlan env platform .workflow (.workflow workflow.uid) plan flow.ctx).1 :=
          executePlan_evolves .workflow (.workflow workflow.uid) plan flow.ctx
        rw [executed] at evolved
        exact evolved
      have witnessed := (floored.workflows workflow member).plan plan carried
      refine floored_updateWorkflow (fun _ _ _ held => ⟨fun stored same => ?_, held.recipe⟩)
        floored.workflows
      cases same
      exact witnessed.evolves evolves
  | _ => exact ⟨node, floored.written, floored.workflows⟩

theorem Moves.floored {flow next : Flow ε} (moves : Moves env platform flow next)
    (floored : flow.Floored) : next.Floored := by
  induction moves with
  | refl => exact floored
  | tail _ move ih => exact move.floored ih

/-! ## The gate -/

variable {entries : ε → ε × Except String (List String)}

theorem setGate_gated {condition : Condition StateSyncReason} {syncers : List String}
    (node : SeiNode)
    (resolved : syncers = [] ∧ condition.status ≠ .conditionTrue ∨ Witnesses syncers) :
    (Flow.setGate condition syncers node).Gated := by
  rcases resolved with ⟨few, refused⟩ | witnesses
  · exact ⟨.inl few, condition, rfl, fun true_ => absurd true_ refused⟩
  · exact ⟨.inr witnesses, condition, rfl, fun _ => witnesses⟩

theorem gate_resolveDataReset (node : SeiNode) :
    (resolveMaintenance (resolveDataReset node)).status.stateSyncReady = node.status.stateSyncReady ∧
      (resolveMaintenance (resolveDataReset node)).status.resolvedStateSyncers =
        node.status.resolvedStateSyncers := by
  obtain ⟨condition, maintained⟩ := Flow.resolveMaintenance_cases (resolveDataReset node)
  rw [maintained]
  have caught : (catchUpDataReset node).status.stateSyncReady = node.status.stateSyncReady ∧
      (catchUpDataReset node).status.resolvedStateSyncers = node.status.resolvedStateSyncers := by
    rcases catchUpDataReset_cases node with same | ⟨-, -, same⟩
    · rw [same]
      exact ⟨rfl, rfl⟩
    · rw [same]
      exact ⟨rfl, rfl⟩
  rcases Flow.resolveDataReset_cases node with same | same
  · exact ⟨(same.congr (fun seen => seen.status.stateSyncReady) fun _ => rfl).symm.trans caught.1,
      (same.congr (fun seen => seen.status.resolvedStateSyncers) fun _ => rfl).symm.trans caught.2⟩
  · exact ⟨(same.congr (fun seen => seen.status.stateSyncReady) fun _ => rfl).symm,
      (same.congr (fun seen => seen.status.resolvedStateSyncers) fun _ => rfl).symm⟩

theorem resolveConditions_gated (flow : Flow ε) :
    (flow.resolveConditions (env.withSyncerFile entries)).ctx.node.Gated := by
  obtain ⟨state, condition, syncers, same, resolved⟩ :=
    Flow.reconcileStateSyncGate_eq (env.withSyncerFile entries) flow
  have gated : (Flow.setGate condition syncers flow.ctx.node).Gated := by
    refine setGate_gated _ ?_
    rcases resolved with few | ⟨enough, ⟨servers, rfl⟩ | registered⟩
    · exact .inl few
    · exact .inr ⟨enough, compactNames_nodup servers⟩
    · exact .inr ⟨enough, canonicalSyncers_distinct registered⟩
  unfold Flow.resolveConditions
  rw [same]
  have kept := gate_resolveDataReset (Flow.setGate condition syncers flow.ctx.node)
  exact gated.congr kept.1 kept.2

theorem resolveConditions_floored {flow : Flow ε} (floored : flow.Floored) :
    (flow.resolveConditions (env.withSyncerFile entries)).Floored := by
  obtain ⟨-, written, -, workflows, -⟩ := resolveConditions_frame (env.withSyncerFile entries) flow
  have kept := resolveConditions_resolved (env.withSyncerFile entries) flow
  refine ⟨⟨?_, ?_, (resolveConditions_gated flow).resolved⟩, written ▸ floored.written,
    workflows ▸ floored.workflows⟩
  · rw [kept.spec]
    exact floored.node.admitted
  · rw [kept.plan]
    exact floored.node.plan

/-! ## The planning step -/

theorem Ending.floored {flow next : Flow ε} (ending : Ending env platform flow next)
    (floored : flow.Floored) (gated : flow.ctx.node.Gated) : next.Floored := by
  cases ending with
  | idle => exact floored
  | cleared _ _ _ same =>
    have cleared : (flow.mapNode clearPlan).Floored := by
      refine ⟨⟨floored.node.admitted, ?_, floored.node.resolved⟩, floored.written,
        floored.workflows⟩
      intro plan never
      cases never
    exact cleared.quiet same
  | stored _ _ _ _ _ before after same planID mode plan built _ state is chosen unblocked =>
    have later : SameCore before after := by
      have core := Flow.sameCore_buildPlan platform planID mode before
      rw [built] at core
      exact core
    have gate : (before.status.stateSyncReady, before.status.resolvedStateSyncers) =
        (flow.ctx.node.status.stateSyncReady, flow.ctx.node.status.resolvedStateSyncers) :=
      (same.congr (fun seen => (seen.status.stateSyncReady, seen.status.resolvedStateSyncers))
        fun _ => rfl).symm
    rw [Prod.mk.injEq] at gate
    have admitted : before.spec.oneMode := by
      rw [← same.spec]
      exact floored.node.admitted
    have witnessed : plan.Witnessed :=
      witnessed_of_plan admitted chosen unblocked (gated.congr gate.1 gate.2).ready built
    subst is
    refine ⟨⟨?_, ?_, ?_⟩, floored.written, floored.workflows⟩
    · exact later.spec ▸ admitted
    · intro own carried
      cases carried
      exact witnessed
    · have kept := later.congr (fun seen => seen.status.resolvedStateSyncers) fun _ => rfl
      exact kept ▸ (gated.congr gate.1 gate.2).resolved
  | executed _ probed same _ _ plan carried active is =>
    have probedFloored := floored.quiet same
    have witnessed : plan.Witnessed := floored.node.plan plan carried
    have evolves : PlanEvolves plan (executePlan env platform .seiNode .nodePlan plan probed.ctx).1 :=
      executePlan_evolves .seiNode .nodePlan plan probed.ctx
    have driven := probedFloored.node.congr
      (executePlan_steady env platform .seiNode .nodePlan plan probed.ctx)
    subst is
    refine ⟨⟨driven.admitted, ?_, driven.resolved⟩, probedFloored.written, probedFloored.workflows⟩
    intro own stored
    cases stored
    exact witnessed.evolves evolves

theorem Reconciled.floored {flow next : Flow ε}
    (reconciled : Reconciled (env.withSyncerFile entries) platform flow next)
    (floored : flow.Floored) : next.Floored := by
  cases reconciled with
  | outside moves => exact moves.floored floored
  | body _ ready planned ended finalizer _ prelude ending flush =>
    have resolved : (ready.resolveConditions (env.withSyncerFile entries)).Floored :=
      resolveConditions_floored (finalizer.floored floored)
    have gated := prelude.gated (resolveConditions_gated ready)
    exact flush.floored (ending.floored (prelude.floored resolved) gated)

/-! ## Runs -/

structure World.Floored (world : World ε) : Prop where
  versions : ∀ version ∈ world.versions, version.Floored
  workflows : ∀ workflow ∈ world.workflows, workflow.Floored

/-- What the CRDs admit: one mode sub-spec on a node, and no server twice in a recipe. -/
def Action.Admissible : Action → Prop
  | .edit node => node.spec.oneMode
  | .createWorkflow workflow =>
    ∀ recipe, workflow.spec.stateSync = some recipe → recipe.rpcServers.Nodup
  | _ => True

theorem World.Floored.step {world next : World ε} {action : Action} (floored : world.Floored)
    (admissible : action.Admissible)
    (move : World.Step (env.withSyncerFile entries) platform world action next) : next.Floored := by
  obtain ⟨versions, workflows⟩ := floored
  cases move with
  | edit node admitted =>
    refine ⟨List.forall_mem_cons.mpr ⟨⟨admissible, ?_, ?_⟩, versions⟩, workflows⟩
    · rw [admitted.status]
      exact (versions world.latest List.mem_cons_self).plan
    · rw [admitted.status]
      exact (versions world.latest List.mem_cons_self).resolved
  | reconcile _ read fresh newer stale cached _ flow ran written listed =>
    have member : read ∈ world.versions := by simp [cached]
    have held : flow.Floored := by
      rw [ran]
      exact (Flow.reconcile_reconciled _ platform _).floored ⟨versions read member, by simp [Flow.start],
        workflows⟩
    refine ⟨fun version listed => ?_, listed ▸ held.workflows⟩
    rw [written] at listed
    simp only [List.append_assoc, List.mem_append, List.mem_singleton] at listed
    rcases listed with stored | kept | rfl
    · exact held.written version stored
    · exact versions version (by rw [cached]; exact List.mem_append_left _ kept)
    · exact versions version member
  | createTask | reconcileTask | outside => exact ⟨versions, workflows⟩
  | createWorkflow workflow created =>
    refine ⟨versions, List.forall_mem_cons.mpr ⟨⟨?_, admissible⟩, workflows⟩⟩
    intro plan carried
    rw [created.status] at carried
    cases carried
  | deleteWorkflow | forceWorkflow =>
    exact ⟨versions, floored_updateWorkflow (fun _ _ _ held => ⟨held.plan, held.recipe⟩) workflows⟩
  | collectWorkflow =>
    exact ⟨versions, fun workflow member => workflows workflow (List.mem_of_mem_filter member)⟩

/-- In every run, whatever the syncer file holds and however its reads end, every stored plan
that configures state sync carries at least two servers, each of them once. -/
theorem stored_plans_meet_witness_floor (env : Env ε) (platform : Platform)
    (entries : ε → ε × Except String (List String)) {world : World ε}
    (reached : World.Reached (env.withSyncerFile entries) platform
      (fun world => world.latest.spec.oneMode) (fun _ action => action.Admissible) world) :
    (∀ version ∈ world.versions, ∀ plan, version.status.plan = some plan → plan.Witnessed) ∧
      ∀ workflow ∈ world.workflows, ∀ plan, workflow.status.plan = some plan → plan.Witnessed := by
  have floored : world.Floored := by
    refine reached.invariant ?_ ?_
    · rintro world ⟨initial, admitted⟩
      refine ⟨?_, by simp [initial.workflows]⟩
      rw [World.versions, initial.older]
      refine List.forall_mem_singleton.mpr ⟨admitted, ?_, ?_⟩
      · rw [initial.status]
        exact fun plan never => by cases never
      · rw [initial.status]
        exact .inl rfl
    · rintro world next inv ⟨action, admissible, move⟩
      exact inv.step admissible move
  exact ⟨fun version member => (floored.versions version member).plan,
    fun workflow member => (floored.workflows workflow member).plan⟩

end

/-! ## A workflow that brings its own witnesses -/

instance (uid : String) (event : Event) : Decidable (event.ofWorkflow uid) :=
  match event with
  | .submitted (.workflow owner _) _ _ _ => inferInstanceAs (Decidable (owner = uid))
  | .observed (.workflow owner _) _ _ => inferInstanceAs (Decidable (owner = uid))
  | .executed (.workflow owner _) _ _ _ => inferInstanceAs (Decidable (owner = uid))
  | .forced owner => inferInstanceAs (Decidable (owner = uid))
  | .submitted (.nodePlan _) _ _ _ | .submitted (.nodeTask _) _ _ _
  | .observed (.nodePlan _) _ _ | .observed (.nodeTask _) _ _
  | .executed (.nodePlan _) _ _ _ | .executed (.nodeTask _) _ _ _
  | .stored _ _ | .persisted _ | .claimCreated _ _ | .claimPatched _ _ _ | .claimDeleted _ _ =>
    .isFalse id

/-- What varies around the controller: whether the next writes land, and the chain's
canonical syncers. -/
structure Supply where
  lands : List Bool
  syncers : List String

/-- Everything else succeeds. -/
def supplyEnv : Env Supply :=
  { quietEnv with
    healthz state := (state, .ok true)
    getStatefulSet state _ := (state, .ok ⟨1, 1, some 1, 1, "", ""⟩)
    canonicalSyncers state := (state, .ok state.syncers)
    write
      | ⟨[], syncers⟩ => (⟨[], syncers⟩, none)
      | ⟨true :: rest, syncers⟩ => (⟨rest, syncers⟩, none)
      | ⟨false :: rest, syncers⟩ => (⟨rest, syncers⟩, some "timeout") }

def witnesses : List String := ["a:26657", "b:26657"]

def syncingNode : SeiNode :=
  { name := "node", spec := { fullNode := some ⟨some ⟨none, true, "", [], 0⟩, none, none⟩ } }

def resync : Workflow where
  name := "resync"
  uid := "uid"
  creationTimestamp := 0
  deletionTimestamp := none
  finalizer := false
  forceDelete := false
  spec := ⟨.stateSync, .running, none, some ⟨none, []⟩⟩
  status := ⟨.empty, none, none⟩

def fileEnv : Env Supply :=
  supplyEnv.withSyncerFile fun state => (state, .ok state.syncers)

def World.supplied (world : World Supply) : World Supply :=
  world.afterReconcile fileEnv samplePlatform

def settledWorld : World Supply :=
  (World.mk { syncingNode with spec := { fullNode := some ⟨none, none, none⟩ } } [] [] [] []
    ⟨[], []⟩ []).supplied.supplied.supplied

def resyncFromRecipe : Workflow :=
  { resync with spec := ⟨.stateSync, .running, none, some ⟨none, witnesses⟩⟩ }

def resyncingWorld : World Supply :=
  World.supplied { settledWorld with workflows := resyncFromRecipe :: settledWorld.workflows }

theorem reached_resyncingWorld :
    World.Reached fileEnv samplePlatform (fun world => world.latest.spec.oneMode)
      (fun _ action => action.Admissible) resyncingWorld := by
  have next {world : World Supply}
      (reached : World.Reached fileEnv samplePlatform (fun world => world.latest.spec.oneMode)
        (fun _ action => action.Admissible) world) :
      World.Reached fileEnv samplePlatform (fun world => world.latest.spec.oneMode)
        (fun _ action => action.Admissible) world.supplied := by
    have admissible : (Action.reconcile world.latest true).Admissible := trivial
    exact reached.step fileEnv samplePlatform admissible (.afterReconcile fileEnv samplePlatform _)
  have settled : World.Reached fileEnv samplePlatform (fun world => world.latest.spec.oneMode)
      (fun _ action => action.Admissible) settledWorld :=
    next (next (next (.start ⟨⟨rfl, rfl, rfl, rfl, rfl, rfl, rfl⟩, by decide⟩)))
  obtain ⟨empty, unpointed, unlogged⟩ : settledWorld.workflows = [] ∧
      (∀ version ∈ settledWorld.versions, version.status.adoptedWorkflow = none) ∧
      ∀ event ∈ settledWorld.log, ¬ event.ofWorkflow resyncFromRecipe.uid := by
    decide +kernel
  refine next (settled.step fileEnv samplePlatform ?_
    (.createWorkflow settledWorld resyncFromRecipe ⟨rfl, rfl, rfl, rfl⟩ ⟨?_, ?_, ?_, unlogged⟩))
  · intro recipe declared
    cases declared
    decide
  · rw [empty]
    exact fun _ member => absurd member List.not_mem_nil
  · rw [empty]
    exact fun _ member => absurd member List.not_mem_nil
  · intro version member adopted pointer
    rw [unpointed version member] at pointer
    cases pointer

theorem resyncing_plan_meets_floor :
    ∃ workflow ∈ resyncingWorld.workflows, ∃ plan, workflow.status.plan = some plan ∧
      .configureStateSync ∈ plan.types ∧ plan.Witnessed := by
  have listed : ∃ workflow ∈ resyncingWorld.workflows,
      (workflow.status.plan.map TaskPlan.types) =
        some [.markNotReady, .stopSeid, .resetData, .configureStateSync, .markReady] := by
    decide +kernel
  obtain ⟨workflow, member, types⟩ := listed
  obtain ⟨plan, carried, same⟩ := Option.map_eq_some_iff.mp types
  have witnessed := (stored_plans_meet_witness_floor supplyEnv samplePlatform
    (fun state => (state, .ok state.syncers)) reached_resyncingWorld).2 workflow member plan carried
  exact ⟨workflow, member, plan, carried, by rw [same]; decide, witnessed⟩

end SeiController
