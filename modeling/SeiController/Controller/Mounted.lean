import SeiController.Controller.Shape
import SeiController.Controller.World

/-!
# Reconciles of a node no workflow occupies

A node that mounts its configuration is never adopted by a workflow, so outside of the
planning step a reconcile only observes, stores the node and takes part in its deletion.
-/

set_option autoImplicit false

namespace SeiController

/-! ## What stays -/

/-- The nodes differ at most in observations, in the finalizer and in the phase a deletion
sets. -/
structure Kept (old new : SeiNode) : Prop where
  core : new.core =
    { old.core with
      finalizer := new.finalizer
      status := { old.core.status with phase := new.status.phase } }
  phase : new.status.phase = old.status.phase ∨
    new.status.phase = .terminating ∧ old.deletionTimestamp.isSome

namespace Kept

variable {old new third : SeiNode}

theorem of_sameCore (same : SameCore old new) : Kept old new where
  core := by
    have finalizer : new.finalizer = old.finalizer :=
      (same.congr SeiNode.finalizer fun _ => rfl).symm
    rw [finalizer, ← same.phase]
    exact same.symm
  phase := .inl same.phase.symm

theorem refl (node : SeiNode) : Kept node node := of_sameCore rfl

theorem read {α : Type} (kept : Kept old new) (get : SeiNode → α)
    (ignores : ∀ (node : SeiNode) (finalizer : Bool) (phase : SeiNodePhase),
      get { node.core with finalizer, status := { node.core.status with phase } } = get node) :
    get new = get old :=
  calc get new = get new.core := (ignores new new.finalizer new.status.phase).symm
    _ = _ := congrArg get kept.core
    _ = get old := ignores old new.finalizer new.status.phase

theorem spec (kept : Kept old new) : new.spec = old.spec :=
  kept.read SeiNode.spec fun _ _ _ => rfl

theorem plan (kept : Kept old new) : new.status.plan = old.status.plan :=
  kept.read (fun node => node.status.plan) fun _ _ _ => rfl

theorem pointer (kept : Kept old new) :
    new.status.adoptedWorkflow = old.status.adoptedWorkflow :=
  kept.read (fun node => node.status.adoptedWorkflow) fun _ _ _ => rfl

theorem generation (kept : Kept old new) :
    new.status.dataResetGeneration = old.status.dataResetGeneration :=
  kept.read (fun node => node.status.dataResetGeneration) fun _ _ _ => rfl

theorem hold (kept : Kept old new) : new.status.maintenanceHold = old.status.maintenanceHold :=
  kept.read (fun node => node.status.maintenanceHold) fun _ _ _ => rfl

theorem deletion (kept : Kept old new) : new.deletionTimestamp = old.deletionTimestamp :=
  kept.read SeiNode.deletionTimestamp fun _ _ _ => rfl

theorem trans (first : Kept old new) (second : Kept new third) : Kept old third where
  core := by rw [second.core, first.core]
  phase := by
    rcases second.phase with same | ⟨terminating, deleting⟩
    · rw [same]
      exact first.phase
    · exact .inr ⟨terminating, by rw [← first.deletion]; exact deleting⟩

end Kept

def Event.persisted? : Event → Option SeiNode
  | .persisted node => some node
  | _ => none

/-- The object as the API server last stored it for the controller. -/
def lastPersisted (log : List Event) : Option SeiNode :=
  Log.last? Event.persisted? log

inductive StillEvent (node : SeiNode) : Event → Prop
  | persisted (stored : SeiNode) (kept : Kept node stored) : StillEvent node (.persisted stored)
  | claimPatched (seen : SeiNode) (read : PersistentVolumeClaim) (want : Nat)
      (owned : read.controlledBy seen = true) (larger : read.request < want) :
      StillEvent node (.claimPatched seen read (read.grown want))
  | claimDeleted (seen : SeiNode) (claim : PersistentVolumeClaim)
      (deleting : node.deletionTimestamp.isSome) : StillEvent node (.claimDeleted seen claim)

theorem StillEvent.mono {earlier node : SeiNode} (kept : Kept earlier node) {event : Event}
    (still : StillEvent node event) : StillEvent earlier event := by
  cases still with
  | persisted stored kept' => exact .persisted stored (kept.trans kept')
  | claimPatched seen read want owned larger => exact .claimPatched seen read want owned larger
  | claimDeleted seen claim deleting =>
    exact .claimDeleted seen claim (by rw [← kept.deletion]; exact deleting)

section

variable {ε : Type}

structure Still (flow next : Flow ε) : Prop where
  node : Kept flow.ctx.node next.ctx.node
  log : Log.Extends (StillEvent flow.ctx.node) flow.ctx.log next.ctx.log
  fresh : next.fresh = flow.fresh
  /-- The stores, newest first, all of the node as it is. -/
  written : ∃ stored, next.written = stored ++ flow.written ∧
    (∀ version ∈ stored, Kept flow.ctx.node version) ∧ (stored ≠ [] → flow.fresh = true) ∧
    lastPersisted next.ctx.log = stored.head?.or (lastPersisted flow.ctx.log)

theorem Still.of_silent {flow next : Flow ε} (node : Kept flow.ctx.node next.ctx.node)
    (log : Log.Extends (fun event => StillEvent flow.ctx.node event ∧ event.persisted? = none)
      flow.ctx.log next.ctx.log)
    (fresh : next.fresh = flow.fresh) (written : next.written = flow.written) : Still flow next where
  node := node
  log := log.mono fun _ both => both.1
  fresh := fresh
  written := ⟨[], written, by simp, by simp, by
    simpa [lastPersisted] using Log.last?_extends (log.mono fun _ both => both.2)⟩

theorem Still.refl (flow : Flow ε) : Still flow flow :=
  .of_silent (.refl _) (.refl _) rfl rfl

theorem Still.trans {a b c : Flow ε} (first : Still a b) (second : Still b c) : Still a c where
  node := first.node.trans second.node
  log := first.log.trans (second.log.mono fun _ still => still.mono first.node)
  fresh := second.fresh.trans first.fresh
  written := by
    obtain ⟨older, sameOlder, keptOlder, freshOlder, lastOlder⟩ := first.written
    obtain ⟨newer, sameNewer, keptNewer, freshNewer, lastNewer⟩ := second.written
    refine ⟨newer ++ older, by rw [sameNewer, sameOlder, List.append_assoc], ?_, ?_, ?_⟩
    · intro version member
      rcases List.mem_append.mp member with new | old
      · exact first.node.trans (keptNewer version new)
      · exact keptOlder version old
    · intro nonempty
      cases newer with
      | nil => exact freshOlder (by simpa using nonempty)
      | cons => rw [← first.fresh]; exact freshNewer (by simp)
    · rw [lastNewer, lastOlder]
      cases newer <;> simp

variable {env : Env ε} {platform : Platform}

theorem Move.still {flow next : Flow ε} (move : Move env platform flow next)
    (mounted : flow.ctx.node.mountsNodeConfig = true)
    (unoccupied : flow.ctx.node.status.adoptedWorkflow = none) : Still flow next := by
  cases move with
  | quiet same =>
    exact .of_silent (.of_sameCore same.node) (by rw [same.log]; exact .refl _) same.fresh
      same.written
  | persisted state fresh =>
    have stored : StillEvent flow.ctx.node (.persisted flow.ctx.node) := .persisted _ (.refl _)
    refine ⟨.refl _, .cons stored _, rfl, [flow.ctx.node], rfl, ?_, fun _ => fresh, ?_⟩
    · simpa using Kept.refl flow.ctx.node
    · rfl
  | finalized => exact .of_silent ⟨rfl, .inl rfl⟩ (.refl _) rfl rfl
  | terminating deleting => exact .of_silent ⟨rfl, .inr ⟨rfl, deleting⟩⟩ (.refl _) rfl rfl
  | unfinalized => exact .of_silent ⟨rfl, .inl rfl⟩ (.refl _) rfl rfl
  | claimed => exact .of_silent (.refl _) (.refl _) rfl rfl
  | grew read want size named owned larger =>
    exact .of_silent (.refl _) (.cons ⟨.claimPatched _ _ _ owned larger, rfl⟩ _) rfl rfl
  | deletedClaim claim deleting =>
    exact .of_silent (.refl _) (.cons ⟨.claimDeleted _ _ deleting, rfl⟩ _) rfl rfl
  | restated | held | unheld => exact .of_silent (.refl _) (.refl _) rfl rfl
  | planned _ _ _ pointer => rw [unoccupied] at pointer; cases pointer
  | adopted _ _ _ _ _ _ _ unmounted => rw [mounted] at unmounted; cases unmounted
  | released _ _ pointer => rw [unoccupied] at pointer; cases pointer
  | drove _ _ _ _ _ pointer => rw [unoccupied] at pointer; cases pointer

theorem Moves.still {flow next : Flow ε} (moves : Moves env platform flow next)
    (mounted : flow.ctx.node.mountsNodeConfig = true)
    (unoccupied : flow.ctx.node.status.adoptedWorkflow = none) : Still flow next := by
  induction moves with
  | refl => exact .refl flow
  | tail _ move ih =>
    refine ih.trans (move.still ?_ ?_)
    · unfold SeiNode.mountsNodeConfig
      rw [ih.node.spec]
      exact mounted
    · rw [ih.node.pointer]
      exact unoccupied

/-! ## The conditions resolved first -/

/-- What resolving the conditions does to a node: observations, the two conditions of the
reset and the hold, and the counter of a node that is not Running. -/
structure Resolved (old new : SeiNode) : Prop where
  spec : new.spec = old.spec
  phase : new.status.phase = old.status.phase
  plan : new.status.plan = old.status.plan
  pointer : new.status.adoptedWorkflow = old.status.adoptedWorkflow
  hold : new.status.maintenanceHold = old.status.maintenanceHold
  deletion : new.deletionTimestamp = old.deletionTimestamp
  generation : new.status.dataResetGeneration = old.status.dataResetGeneration ∨
    old.status.phase ≠ .running ∧
      old.status.dataResetGeneration < new.status.dataResetGeneration ∧
      new.status.dataResetGeneration = old.spec.dataResetGeneration
  maintenance : ∃ seen : SeiNode, seen.spec = old.spec ∧ seen.status.plan = old.status.plan ∧
    seen.status.maintenanceHold = old.status.maintenanceHold ∧
    seen.status.sidecarReady = old.status.sidecarReady ∧
    new.status.maintenanceInProgress = (resolveMaintenance seen).status.maintenanceInProgress

theorem catchUpDataReset_cases (node : SeiNode) :
    catchUpDataReset node = node ∨
      node.status.phase ≠ .running ∧
        node.status.dataResetGeneration < node.spec.dataResetGeneration ∧
        catchUpDataReset node =
          { node with
            status := { node.status with dataResetGeneration := node.spec.dataResetGeneration } } := by
  unfold catchUpDataReset
  split
  next behind => exact .inr ⟨behind.1, behind.2, rfl⟩
  · exact .inl rfl

/-- `resolveDataReset` sets its condition, on the node or on the node that has caught up. -/
theorem resolveDataReset_shape (node : SeiNode) :
    ∃ caught condition, (caught = node ∨ caught = catchUpDataReset node) ∧
      resolveDataReset node =
        { caught with status := { caught.status with dataResetInProgress := condition } } := by
  unfold resolveDataReset
  split
  · exact ⟨node, _, .inl rfl, rfl⟩
  · dsimp only
    repeat' split
    all_goals exact ⟨catchUpDataReset node, _, .inr rfl, rfl⟩

theorem resolved_maintenance {node reset : SeiNode} (spec : reset.spec = node.spec)
    (rest : SameCore { reset with status := { reset.status with
      dataResetGeneration := node.status.dataResetGeneration } } node)
    (sidecar : reset.status.sidecarReady = node.status.sidecarReady)
    (generation : reset.status.dataResetGeneration = node.status.dataResetGeneration ∨
      node.status.phase ≠ .running ∧
        node.status.dataResetGeneration < reset.status.dataResetGeneration ∧
        reset.status.dataResetGeneration = node.spec.dataResetGeneration) :
    Resolved node (resolveMaintenance reset) := by
  obtain ⟨reason, maintained⟩ := Flow.resolveMaintenance_cases reset
  have read {α : Type} (get : SeiNode → α) (ignores : ∀ node : SeiNode, get { node with
      status := { node.status with maintenanceInProgress := some reason } } = get node) :
      get (resolveMaintenance reset) = get reset := by
    rw [maintained, ignores]
  exact
    { spec := (read SeiNode.spec fun _ => rfl).trans spec
      phase := (read (fun node => node.status.phase) fun _ => rfl).trans rest.phase
      plan := (read (fun node => node.status.plan) fun _ => rfl).trans rest.plan
      pointer := (read (fun node => node.status.adoptedWorkflow) fun _ => rfl).trans rest.pointer
      hold := (read (fun node => node.status.maintenanceHold) fun _ => rfl).trans rest.hold
      deletion := (read SeiNode.deletionTimestamp fun _ => rfl).trans rest.deletion
      generation := by
        rw [read (fun node => node.status.dataResetGeneration) fun _ => rfl]
        exact generation
      maintenance := ⟨reset, spec, rest.plan, rest.hold, sidecar, rfl⟩ }

theorem resolved_dataReset (node : SeiNode) :
    Resolved node (resolveMaintenance (resolveDataReset node)) := by
  obtain ⟨caught, condition, source, reset⟩ := resolveDataReset_shape node
  rw [reset]
  have kept (same : caught = node) : Resolved node (resolveMaintenance
      { caught with status := { caught.status with dataResetInProgress := condition } }) := by
    subst same
    exact resolved_maintenance rfl rfl rfl (.inl rfl)
  rcases source with same | same
  · exact kept same
  · rcases catchUpDataReset_cases node with same' | ⟨stopped, behind, same'⟩
    · exact kept (same.trans same')
    · rw [same, same']
      exact resolved_maintenance rfl rfl rfl (.inr ⟨stopped, behind, rfl⟩)

theorem resolved_of_gated {node new : SeiNode} {condition : Condition StateSyncReason}
    {syncers : List String} (resolved : Resolved (Flow.setGate condition syncers node) new) :
    Resolved node new :=
  ⟨resolved.spec, resolved.phase, resolved.plan, resolved.pointer, resolved.hold, resolved.deletion,
    resolved.generation, resolved.maintenance⟩

variable (env) in
theorem resolveConditions_resolved (flow : Flow ε) :
    Resolved flow.ctx.node (flow.resolveConditions env).ctx.node := by
  obtain ⟨state, condition, syncers, same, -⟩ := Flow.reconcileStateSyncGate_eq env flow
  unfold Flow.resolveConditions
  rw [same]
  exact resolved_of_gated (resolved_dataReset _)

variable (env) in
theorem resolveConditions_frame (flow : Flow ε) :
    (flow.resolveConditions env).ctx.log = flow.ctx.log ∧
      (flow.resolveConditions env).written = flow.written ∧
      (flow.resolveConditions env).fresh = flow.fresh ∧
      (flow.resolveConditions env).workflows = flow.workflows ∧
      (flow.resolveConditions env).ctx.claims = flow.ctx.claims := by
  obtain ⟨state, condition, syncers, same, -⟩ := Flow.reconcileStateSyncGate_eq env flow
  unfold Flow.resolveConditions
  rw [same]
  exact ⟨rfl, rfl, rfl, rfl, rfl⟩

variable (env) in
theorem resolveConditions_log (flow : Flow ε) :
    (flow.resolveConditions env).ctx.log = flow.ctx.log :=
  (resolveConditions_frame env flow).1

variable (env) in
theorem resolveConditions_written (flow : Flow ε) :
    (flow.resolveConditions env).written = flow.written :=
  (resolveConditions_frame env flow).2.1

variable (env) in
theorem resolveConditions_fresh (flow : Flow ε) :
    (flow.resolveConditions env).fresh = flow.fresh :=
  (resolveConditions_frame env flow).2.2.1

end

end SeiController
