import SeiController.Controller.Mounted
import SeiController.Controller.NodeTaskLog

/-!
# The claims a node writes

What a run does to the persistent volume claims.  Creating and growing a volume check who
controls the claim; deleting the node's claim does not, and takes whatever is stored under
the node's default name by then.
-/

set_option autoImplicit false

namespace SeiController

/-- A create is of the node's own claim; a patch is too, raises the request and leaves the rest;
a delete is one of `deletes`. -/
def Event.VolumeKept (deletes : SeiNode → PersistentVolumeClaim → Prop) : Event → Prop
  | .claimCreated node claim => node.OwnsClaim claim
  | .claimPatched node before after =>
    node.OwnsClaim before ∧ before.request < after.request ∧ after = before.grown after.request
  | .claimDeleted node claim => deletes node claim
  | _ => True

variable {node : SeiNode} {deletes : SeiNode → PersistentVolumeClaim → Prop}

theorem Event.VolumeKept.mono {looser : SeiNode → PersistentVolumeClaim → Prop}
    (weaken : ∀ node claim, deletes node claim → looser node claim) {event : Event}
    (kept : event.VolumeKept deletes) : event.VolumeKept looser := by
  cases event with
  | claimDeleted node claim => exact weaken node claim kept
  | _ => exact kept

theorem unimported_of_growable {want : Nat} (size : growableSize node = some want) :
    node.importedPVCName = none := by
  unfold growableSize at size
  split at size
  · cases size
  next own => simpa using own

theorem MadeBy.volumeKept {platform : Platform} {origin : Origin} {task : PlannedTask}
    {event : Event} (made : MadeBy platform origin task event) : event.VolumeKept deletes := by
  cases made with
  | claimCreated _ _ owned => exact owned
  | submitted | observed | executed => exact trivial

section

variable {ε : Type} {env : Env ε} {platform : Platform}

theorem executePlan_volumeKept (owner : PlanOwner) (origin : TaskPlan → Origin) (plan : TaskPlan)
    (ctx : Ctx ε) :
    Log.Extends (Event.VolumeKept deletes) ctx.log
      (executePlan env platform owner origin plan ctx).2.log := by
  refine (executePlan_log owner origin plan ctx).mono ?_
  rintro event ⟨done, task, rest, -, -, -, made⟩
  exact made.volumeKept

/-! ## A reconcile of a node that is not deleted -/

theorem Move.volumeKept {flow next : Flow ε} (move : Move env platform flow next)
    (alive : flow.ctx.node.deletionTimestamp = none) :
    Log.Extends (Event.VolumeKept deletes) flow.ctx.log next.ctx.log := by
  cases move with
  | quiet same =>
    rw [same.log]
    exact .refl _
  | persisted => exact .cons (by exact trivial) _
  | grew read want size named controlled smaller =>
    have unimported := unimported_of_growable size
    rw [dataPVCName_of_unimported unimported] at named
    refine .cons ?_ _
    exact ⟨⟨unimported, named, controlled⟩, smaller, rfl⟩
  | deletedClaim _ deleting => simp [alive] at deleting
  | drove workflow _ _ _ _ _ plan _ _ _ ctx executed =>
    have driven : Log.Extends (Event.VolumeKept deletes) flow.ctx.log
        (executePlan env platform .workflow (.workflow workflow.uid) plan flow.ctx).2.log :=
      executePlan_volumeKept _ _ _ _
    rw [executed] at driven
    exact driven
  | _ => exact .refl _

theorem Moves.volumeKept {flow next : Flow ε} (moves : Moves env platform flow next)
    (alive : flow.ctx.node.deletionTimestamp = none) :
    Log.Extends (Event.VolumeKept deletes) flow.ctx.log next.ctx.log := by
  induction moves with
  | refl => exact .refl _
  | tail earlier move ih =>
    exact ih.trans (move.volumeKept (Flow.Moves.phase env platform earlier alive).2)

theorem Ending.volumeKept {flow next : Flow ε} (ending : Ending env platform flow next) :
    Log.Extends (Event.VolumeKept deletes) flow.ctx.log next.ctx.log := by
  cases ending with
  | idle => exact .refl _
  | cleared _ _ _ same =>
    rw [same.log]
    exact .refl _
  | stored _ _ _ _ _ _ _ _ _ _ _ _ _ _ is =>
    subst is
    exact .cons (by exact trivial) _
  | executed _ probed same _ _ plan _ _ is =>
    subst is
    rw [← same.log]
    exact executePlan_volumeKept .seiNode .nodePlan plan probed.ctx

theorem Ending.alive {flow next : Flow ε} (ending : Ending env platform flow next)
    (alive : flow.ctx.node.deletionTimestamp = none) : next.ctx.node.deletionTimestamp = none := by
  cases ending with
  | idle => exact alive
  | cleared _ _ _ same => exact same.node.deletion.symm.trans alive
  | stored _ _ _ _ _ before after same planID mode plan built _ _ is =>
    have core := Flow.sameCore_buildPlan platform planID mode before
    rw [built] at core
    subst is
    exact (same.trans core).deletion.symm.trans alive
  | executed _ probed same _ _ plan _ _ is =>
    have body := executePlan_body env platform .seiNode .nodePlan plan probed.ctx
    subst is
    exact (congrArg SeiNode.deletionTimestamp body).trans (same.node.deletion.symm.trans alive)

theorem Reconciled.volumeKept {flow next : Flow ε} (shape : Reconciled env platform flow next)
    (alive : flow.ctx.node.deletionTimestamp = none) :
    Log.Extends (Event.VolumeKept deletes) flow.ctx.log next.ctx.log := by
  cases shape with
  | outside moves => exact moves.volumeKept alive
  | body _ ready planned ended finalizer _ prelude ending flush =>
    have readyAlive := (Flow.Moves.phase env platform finalizer alive).2
    have log := (resolveConditions_frame env ready).1
    have object := Flow.resolveConditions_object env ready
    have resolvedAlive : (ready.resolveConditions env).ctx.node.deletionTimestamp = none :=
      (object_congr object SeiNode.deletionTimestamp fun _ => rfl).trans readyAlive
    have plannedAlive := (Flow.Moves.phase env platform prelude resolvedAlive).2
    have first : Log.Extends (Event.VolumeKept deletes) flow.ctx.log ready.ctx.log :=
      finalizer.volumeKept alive
    have second : Log.Extends (Event.VolumeKept deletes) ready.ctx.log planned.ctx.log := by
      rw [← log]
      exact prelude.volumeKept resolvedAlive
    exact ((first.trans second).trans ending.volumeKept).trans
      (flush.volumeKept (ending.alive plannedAlive))

/-! ## The deletion of a node -/

namespace Flow

variable (env)

/-- The claims there are when the `Delete` of `handleNodeDeletion` is served. -/
def claimsAtDelete (flow : Flow ε) : List PersistentVolumeClaim :=
  let marked := ((flow.mapNode (setPhase .terminating)).store env).1
  let looked := env.claimCall marked.ctx.env marked.ctx.claims
  (env.claimCall looked.1 looked.2.1).2.1

/-- The claim is the one under the node's default name by then. -/
structure DeletesClaim (flow : Flow ε) (node : SeiNode) (claim : PersistentVolumeClaim) : Prop where
  same : node = setPhase .terminating flow.ctx.node
  deleting : node.deletionTimestamp.isSome
  unimported : node.importedPVCName = none
  stored : claim ∈ flow.claimsAtDelete env
  named : claim.name = "data-" ++ node.name

theorem store_volumeKept (flow : Flow ε) :
    Log.Extends (Event.VolumeKept deletes) flow.ctx.log (flow.store env).1.ctx.log := by
  unfold store
  split
  · exact .refl _
  · split
    · exact .refl _
    · exact .cons (by exact trivial) _

theorem deleteNodeDataPVC_volumeKept (flow : Flow ε)
    (may : flow.ctx.node.importedPVCName = none →
      ∀ claim ∈ (env.claimCall (env.claimCall flow.ctx.env flow.ctx.claims).1
          (env.claimCall flow.ctx.env flow.ctx.claims).2.1).2.1,
        claim.name = "data-" ++ flow.ctx.node.name → deletes flow.ctx.node claim) :
    Log.Extends (Event.VolumeKept deletes) flow.ctx.log
      (flow.deleteNodeDataPVC env).1.ctx.log := by
  unfold deleteNodeDataPVC
  split
  · exact .refl _
  next own =>
    have unimported : flow.ctx.node.importedPVCName = none := by simpa using own
    split
    · exact .refl _
    next looked =>
      split
      · exact .refl _
      · split
        · exact .refl _
        next served =>
          split
          · exact .refl _
          next claim found =>
            rw [looked, served] at may
            have named : claim.name = dataPVCName flow.ctx.node := by
              simpa using List.find?_some found
            rw [dataPVCName_of_unimported unimported] at named
            refine .cons ?_ _
            exact may unimported claim (List.mem_of_find?_eq_some found) named

theorem handleNodeDeletion_volumeKept (platform : Platform) {flow : Flow ε}
    (deleting : flow.ctx.node.deletionTimestamp.isSome) :
    Log.Extends (Event.VolumeKept (flow.DeletesClaim env)) flow.ctx.log
      (flow.handleNodeDeletion env).1.ctx.log := by
  unfold handleNodeDeletion
  split
  · exact .refl _
  · have stored : Log.Extends (Event.VolumeKept (flow.DeletesClaim env)) flow.ctx.log
        ((flow.mapNode (setPhase .terminating)).store env).1.ctx.log :=
      store_volumeKept env (flow.mapNode (setPhase .terminating))
    have node := store_node env (flow.mapNode (setPhase .terminating))
    split
    next answer =>
      rw [answer] at stored
      exact stored
    next marked answer =>
      have removed : Log.Extends (Event.VolumeKept (flow.DeletesClaim env)) marked.ctx.log
          (marked.deleteNodeDataPVC env).1.ctx.log := by
        refine deleteNodeDataPVC_volumeKept env marked fun unimported claim member named => ?_
        rw [answer] at node
        exact ⟨node, by rw [node]; exact deleting, unimported,
          by rw [claimsAtDelete, answer]; exact member, named⟩
      rw [answer] at stored node
      have sofar := stored.trans removed
      split
      next answer =>
        rw [answer] at sofar
        exact sofar
      next cleaned answer =>
        have cleanedNode := (deleteNodeDataPVC_moves env platform
          (show marked.ctx.node.deletionTimestamp.isSome by rw [node]; exact deleting)).2
        rw [answer] at sofar cleanedNode
        have released := releaseWorkflowFinalizersForNode_write env platform
          (show cleaned.ctx.node.deletionTimestamp.isSome by rw [cleanedNode, node]; exact deleting)
        split
        next answer =>
          rw [answer] at released
          rw [released.log]
          exact sofar
        next freed answer =>
          rw [answer] at released
          rw [← released.log] at sofar
          exact sofar.trans (store_volumeKept env (freed.mapNode (setFinalizer false)))

end Flow

/-! ## Runs -/

/-- The deletion of a claim that a step of the world can bring. -/
def World.DeletesClaim (env : Env ε) (world : World ε) :
    Action → SeiNode → PersistentVolumeClaim → Prop
  | .reconcile read fresh => (world.start read fresh).DeletesClaim env
  | _ => fun _ _ => False

theorem World.Step.volumeKept {world next : World ε} {action : Action}
    (step : World.Step env platform world action next) :
    Log.Extends (Event.VolumeKept (world.DeletesClaim env action)) world.log next.log := by
  cases step with
  | reconcile _ read fresh _ _ _ _ flow ran _ _ _ _ _ logged =>
    rw [logged, ran]
    cases deletion : read.deletionTimestamp with
    | none =>
      exact (Flow.reconcile_reconciled env platform (world.start read fresh)).volumeKept deletion
    | some at_ =>
      have deleting : (world.start read fresh).ctx.node.deletionTimestamp.isSome = true :=
        Option.isSome_of_eq_some deletion
      have handled := Flow.handleNodeDeletion_volumeKept env platform deleting
      have whole : (world.start read fresh).reconcile env platform
          = (world.start read fresh).handleNodeDeletion env := if_pos deleting
      rw [← whole] at handled
      exact handled
  | reconcileTask task _ target =>
    refine (SeiNodeTask.reconcile_log env platform task target _).mono ?_
    rintro event ⟨node, -, -, execution, type, params, -, -, made, -⟩
    exact made.volumeKept
  | forceWorkflow => exact .cons (by exact trivial) _
  | edit | createTask | createWorkflow | deleteWorkflow | collectWorkflow | outside => exact .refl _

/-- A reconcile that deletes a node without an imported volume finds no claim under its default
name that the node does not control. -/
def World.DeletesOwn (env : Env ε) (world : World ε) : Action → Prop
  | .reconcile read fresh =>
    read.deletionTimestamp.isSome → read.importedPVCName = none →
      ∀ claim ∈ (world.start read fresh).claimsAtDelete env,
        claim.name = "data-" ++ read.name → claim.controlledBy read = true
  | _ => True

theorem World.DeletesOwn.ownsClaim {world : World ε} {action : Action}
    (own : world.DeletesOwn env action) {claim : PersistentVolumeClaim}
    (deleted : world.DeletesClaim env action node claim) : node.OwnsClaim claim := by
  cases action with
  | reconcile read fresh =>
    obtain ⟨rfl, deleting, unimported, stored, named⟩ := deleted
    exact ⟨unimported, named, own deleting unimported claim stored named⟩
  | _ => exact deleted.elim

theorem World.Reached.volumeKept {allowed : World ε → Action → Prop}
    (each : ∀ world action node claim, allowed world action →
      world.DeletesClaim env action node claim → deletes node claim)
    {world : World ε} (reached : World.Reached env platform (fun _ => True) allowed world) :
    ∀ event ∈ world.log, event.VolumeKept deletes := by
  refine reached.invariant (I := fun world => ∀ event ∈ world.log, event.VolumeKept deletes) ?_ ?_
  · rintro world ⟨initial, -⟩
    simp [initial.log]
  · rintro world next kept ⟨action, may, step⟩
    refine (step.volumeKept.mono fun event made => made.mono ?_).forall kept
    exact fun node claim => each world action node claim may

/-- In every run the controller creates and patches only the node's own claim, and a patch only
raises its storage request; it deletes only what is stored under the default name of a deleted
node that imports no claim, which is the node's own in a run whose deletions find no claim of
another there. -/
theorem own_volume_only (env : Env ε) (platform : Platform) {world : World ε} :
    (World.Reached env platform (fun _ => True) (fun _ _ => True) world →
      (∀ node claim, Event.claimCreated node claim ∈ world.log → node.OwnsClaim claim) ∧
      (∀ node before after, Event.claimPatched node before after ∈ world.log →
        node.OwnsClaim before ∧ before.request < after.request ∧
          after = before.grown after.request) ∧
      ∀ node claim, Event.claimDeleted node claim ∈ world.log →
        node.deletionTimestamp.isSome ∧ node.importedPVCName = none ∧
          claim.name = "data-" ++ node.name) ∧
    (World.Reached env platform (fun _ => True) (World.DeletesOwn env) world →
      ∀ node claim, Event.claimDeleted node claim ∈ world.log → node.OwnsClaim claim) := by
  refine ⟨fun reached => ?_, fun reached node claim deleted => ?_⟩
  · have kept : ∀ event ∈ world.log, event.VolumeKept fun node claim =>
        node.deletionTimestamp.isSome ∧ node.importedPVCName = none ∧
          claim.name = "data-" ++ node.name := by
      refine reached.volumeKept ?_
      rintro world action node claim - deleted
      cases action with
      | reconcile => exact ⟨deleted.deleting, deleted.unimported, deleted.named⟩
      | _ => exact deleted.elim
    exact ⟨fun _ _ created => kept _ created, fun _ _ _ patched => kept _ patched,
      fun _ _ deleted => kept _ deleted⟩
  · have kept : ∀ event ∈ world.log, event.VolumeKept SeiNode.OwnsClaim :=
      reached.volumeKept fun _ _ _ _ own found => own.ownsClaim found
    exact kept _ deleted

end

/-! ### A volume of another, and the node's own -/

def World.quietly (world : World Unit) : World Unit :=
  world.afterReconcile quietEnv samplePlatform

def requestDeletion (node : SeiNode) : SeiNode :=
  { node with deletionTimestamp := some 0 }

theorem admitted_requestDeletion (alive : node.deletionTimestamp = none) :
    Admitted node (requestDeletion node) :=
  ⟨rfl, rfl, rfl, rfl, rfl, rfl, by simp [alive], rfl, Int.le_refl _⟩

/-- The claim an event wrote, and what the write left of it. -/
def Event.writtenClaim : Event → Option (PersistentVolumeClaim × Option PersistentVolumeClaim)
  | .claimPatched _ before after => some (before, some after)
  | .claimDeleted _ claim => some (claim, none)
  | _ => none

theorem patched_of_writtenClaim {log : List Event} {before after : PersistentVolumeClaim}
    (written : (before, some after) ∈ log.filterMap Event.writtenClaim) :
    ∃ node, Event.claimPatched node before after ∈ log := by
  obtain ⟨event, member, same⟩ := List.mem_filterMap.mp written
  cases event with
  | claimPatched node =>
    cases same
    exact ⟨node, member⟩
  | _ => cases same

theorem deleted_of_writtenClaim {log : List Event} {claim : PersistentVolumeClaim}
    (written : (claim, none) ∈ log.filterMap Event.writtenClaim) :
    ∃ node, Event.claimDeleted node claim ∈ log := by
  obtain ⟨event, member, same⟩ := List.mem_filterMap.mp written
  cases event with
  | claimDeleted node =>
    cases same
    exact ⟨node, member⟩
  | _ => cases same

def foreignClaim : PersistentVolumeClaim :=
  ⟨"data-node", "foreign", some "other", 10, true, 0⟩

def foreignWorld : World Unit :=
  ⟨{ name := "node", uid := "uid", spec := { fullNode := some ⟨none, none, none⟩ } },
    [], [], [], [foreignClaim], (), []⟩

def refusedWorld : World Unit := foreignWorld.quietly.quietly

def condemnedWorld : World Unit := refusedWorld.afterEdit (requestDeletion refusedWorld.latest)

/-- A claim that ensure-data-pvc refused is deleted with the Failed node. -/
theorem refused_claim_deleted_with_node :
    World.Reached quietEnv samplePlatform (fun _ => True) (fun _ _ => True)
        condemnedWorld.quietly ∧
      refusedWorld.latest.status.phase = .failed ∧ refusedWorld.claims = [foreignClaim] ∧
      foreignClaim.controlledBy condemnedWorld.latest = false ∧
      (∃ node, Event.claimDeleted node foreignClaim ∈ condemnedWorld.quietly.log) ∧
      condemnedWorld.quietly.claims = [] := by
  have reconciled {world : World Unit}
      (reached : World.Reached quietEnv samplePlatform (fun _ => True) (fun _ _ => True) world) :
      World.Reached quietEnv samplePlatform (fun _ => True) (fun _ _ => True) world.quietly :=
    reached.step quietEnv samplePlatform trivial (.afterReconcile quietEnv samplePlatform world)
  have started : World.Reached quietEnv samplePlatform (fun _ => True) (fun _ _ => True)
      foreignWorld := .start ⟨⟨rfl, rfl, rfl, rfl, rfl, rfl, rfl⟩, trivial⟩
  have refused : World.Reached quietEnv samplePlatform (fun _ => True) (fun _ _ => True)
      refusedWorld := reconciled (reconciled started)
  have alive : refusedWorld.latest.deletionTimestamp = none := by decide +kernel
  have condemned := refused.step quietEnv samplePlatform trivial
    (.edit refusedWorld _ (admitted_requestDeletion alive))
  refine ⟨reconciled condemned, ?_, ?_, ?_, ?_, ?_⟩
  · decide +kernel
  · decide +kernel
  · decide +kernel
  · exact deleted_of_writtenClaim (by decide +kernel)
  · decide +kernel

/-- A mounted node that asks for more storage than its claim is created with. -/
def growingWorld : World Unit :=
  ⟨{ name := "node", uid := "uid"
     spec :=
       { nodeConfig := some ⟨"config", "app"⟩, fullNode := some ⟨none, none, none⟩
         dataVolume := some ⟨none, some 5⟩ } },
    [], [], [], [], (), []⟩

def createdWorld : World Unit := growingWorld.quietly.quietly

def boundWorld : World Unit :=
  { createdWorld with claims := createdWorld.claims.map fun claim => { claim with bound := true } }

def grownWorld : World Unit := boundWorld.quietly

def retiredWorld : World Unit :=
  (grownWorld.afterEdit (requestDeletion grownWorld.latest)).quietly

abbrev World.OwnRun (world : World Unit) : Prop :=
  World.Reached quietEnv samplePlatform (fun _ => True) (World.DeletesOwn quietEnv) world

theorem World.OwnRun.quietly {world : World Unit} (run : world.OwnRun)
    (own : world.DeletesOwn quietEnv (.reconcile world.latest true)) : world.quietly.OwnRun :=
  run.step quietEnv samplePlatform own (.afterReconcile quietEnv samplePlatform world)

theorem World.deletesOwn_of_alive {world : World Unit}
    (alive : world.latest.deletionTimestamp = none) :
    world.DeletesOwn quietEnv (.reconcile world.latest true) := by
  intro deleting
  simp [alive] at deleting

theorem ownRun_grownWorld : grownWorld.OwnRun := by
  have started : growingWorld.OwnRun := .start ⟨⟨rfl, rfl, rfl, rfl, rfl, rfl, rfl⟩, trivial⟩
  have created : createdWorld.OwnRun :=
    (started.quietly (World.deletesOwn_of_alive (by decide +kernel))).quietly
      (World.deletesOwn_of_alive (by decide +kernel))
  have bound : boundWorld.OwnRun :=
    .next created ⟨.outside, trivial, .outside createdWorld () boundWorld.claims⟩
  exact bound.quietly (World.deletesOwn_of_alive (by decide +kernel))

/-- The claim is created, grown and deleted with its node. -/
theorem own_claim_grown_and_deleted :
    (∃ node before after, Event.claimPatched node before after ∈ retiredWorld.log ∧
      node.OwnsClaim before ∧ before.request < after.request) ∧
      ∃ node claim, Event.claimDeleted node claim ∈ retiredWorld.log ∧ node.OwnsClaim claim := by
  have alive : grownWorld.latest.deletionTimestamp = none := by decide +kernel
  have condemned : (grownWorld.afterEdit (requestDeletion grownWorld.latest)).OwnRun :=
    .next ownRun_grownWorld
      ⟨.edit _, trivial, .edit grownWorld _ (admitted_requestDeletion alive)⟩
  have retired : retiredWorld.OwnRun := condemned.quietly fun _ _ => by decide +kernel
  have any : World.Reached quietEnv samplePlatform (fun _ => True) (fun _ _ => True) retiredWorld :=
    retired.mono (fun _ initial => initial) fun _ _ ⟨action, _, step⟩ => ⟨action, trivial, step⟩
  have everyRun := (own_volume_only quietEnv samplePlatform).1 any
  have ownRun := (own_volume_only quietEnv samplePlatform).2 retired
  have writes : retiredWorld.log.filterMap Event.writtenClaim =
      [(⟨"data-node", "uuid", some "uid", 5, true, 1⟩, none),
        (⟨"data-node", "uuid", some "uid", 0, true, 0⟩,
          some ⟨"data-node", "uuid", some "uid", 5, true, 1⟩)] := by
    decide +kernel
  obtain ⟨patcher, patched⟩ := patched_of_writtenClaim (by rw [writes]; exact .tail _ (.head _))
  obtain ⟨deleter, deleted⟩ := deleted_of_writtenClaim (by rw [writes]; exact .head _)
  have raised := everyRun.2.1 _ _ _ patched
  exact ⟨⟨_, _, _, patched, raised.1, raised.2.1⟩, _, _, deleted, ownRun _ _ deleted⟩

end SeiController
