import SeiController.Controller.Node
import SeiController.Controller.NodeTask
import SeiController.Lib.System

/-!
# Runs of the two controllers

The API server's objects around one SeiNode, and the steps that change them: edits of the
spec, reconciles of the node and of the SeiNodeTasks aimed at it, and everything else that
happens around them.  A controller reads the node through a cache: a reconcile may see any
version that is not older than what an earlier reconcile saw, and only the reconcile that
saw the latest version can write.  A spec edit made during a reconcile is an edit before
it: the reconcile then worked on a version that was no longer the latest.
-/

set_option autoImplicit false

namespace SeiController

structure World (ε : Type) where
  latest : SeiNode
  /-- The earlier versions a cached read may still return, newest first. -/
  older : List SeiNode
  workflows : List Workflow
  /-- Every stored version of a SeiNodeTask aimed at the node. -/
  tasks : List SeiNodeTask
  claims : List PersistentVolumeClaim
  env : ε
  log : List Event

def World.versions {ε : Type} (world : World ε) : List SeiNode :=
  world.latest :: world.older

/-- What the API server admits as an update of the spec or the metadata. -/
structure Admitted (old new : SeiNode) : Prop where
  status : new.status = old.status
  name : new.name = old.name
  nameSpace : new.nameSpace = old.nameSpace
  uid : new.uid = old.uid
  creationTimestamp : new.creationTimestamp = old.creationTimestamp
  finalizer : new.finalizer = old.finalizer
  deletion : old.deletionTimestamp.isSome → new.deletionTimestamp = old.deletionTimestamp
  nodeConfig : new.spec.nodeConfig.isSome = old.spec.nodeConfig.isSome
  generation : old.spec.dataResetGeneration ≤ new.spec.dataResetGeneration

inductive Action
  | edit (node : SeiNode)
  | reconcile (read : SeiNode) (fresh : Bool)
  | createTask (task : SeiNodeTask)
  | reconcileTask (task : SeiNodeTask) (target : Except KubeError SeiNode)
  | createWorkflow (workflow : Workflow)
  | deleteWorkflow (uid : String) (at_ : Nat)
  | forceWorkflow (uid : String)
  | collectWorkflow (uid : String)
  | outside

structure SeiNodeTask.Created (task : SeiNodeTask) : Prop where
  phase : task.phase = .empty
  unstarted : task.task = none

structure Workflow.Created (workflow : Workflow) : Prop where
  status : workflow.status = ⟨.empty, none, none⟩
  alive : workflow.deletionTimestamp = none
  finalizer : workflow.finalizer = false
  unforced : workflow.forceDelete = false

def Event.ofWorkflow (uid : String) : Event → Prop
  | .submitted (.workflow owner _) _ _ _ => owner = uid
  | .observed (.workflow owner _) _ _ => owner = uid
  | .executed (.workflow owner _) _ _ _ => owner = uid
  | .forced owner => owner = uid
  | _ => False

/-- Nothing has ever carried the UID, and no workflow has the name. -/
structure World.Unused {ε : Type} (world : World ε) (name uid : String) : Prop where
  names : ∀ workflow ∈ world.workflows, workflow.name ≠ name
  uids : ∀ workflow ∈ world.workflows, workflow.uid ≠ uid
  pointers : ∀ version ∈ world.versions, ∀ adopted, version.status.adoptedWorkflow = some adopted →
    adopted.uid ≠ uid
  events : ∀ event ∈ world.log, ¬ event.ofWorkflow uid

section

variable {ε : Type} (env : Env ε) (platform : Platform)

def World.start (world : World ε) (read : SeiNode) (fresh : Bool) : Flow ε :=
  .start read fresh world.claims world.workflows world.env world.log

def World.reconcile (world : World ε) (read : SeiNode) (fresh : Bool) : Flow ε :=
  ((Flow.start read fresh world.claims world.workflows world.env world.log).reconcile env platform).1

def World.reconcileTask (world : World ε) (task : SeiNodeTask) (target : Except KubeError SeiNode) :
    SeiNodeTask × Ctx ε :=
  let result := task.reconcile env platform target
    { node := world.latest, claims := world.claims, env := world.env, log := world.log }
  (result.1, result.2.1)

inductive World.Step : World ε → Action → World ε → Prop
  | edit (world : World ε) (node : SeiNode) (admitted : Admitted world.latest node) :
      Step world (.edit node) { world with latest := node, older := world.versions }
  | reconcile (world next : World ε) (read : SeiNode) (fresh : Bool) (newer stale : List SeiNode)
      (cached : world.versions = newer ++ read :: stale) (upToDate : fresh = true → newer = [])
      (flow : Flow ε) (ran : flow = world.reconcile env platform read fresh)
      (versions : next.versions = flow.written ++ newer ++ [read])
      (workflows : next.workflows = flow.workflows) (tasks : next.tasks = world.tasks)
      (claims : next.claims = flow.ctx.claims) (state : next.env = flow.ctx.env)
      (log : next.log = flow.ctx.log) :
      Step world (.reconcile read fresh) next
  | createTask (world : World ε) (task : SeiNodeTask) (created : task.Created) :
      Step world (.createTask task) { world with tasks := task :: world.tasks }
  | reconcileTask (world : World ε) (task : SeiNodeTask) (stored : task ∈ world.tasks)
      (target : Except KubeError SeiNode)
      (cached : ∀ node, target = .ok node → node ∈ world.versions) (tasks : List SeiNodeTask)
      (written : tasks = world.tasks ∨
        tasks = (world.reconcileTask env platform task target).1 :: world.tasks) :
      Step world (.reconcileTask task target)
        { world with
          tasks
          claims := (world.reconcileTask env platform task target).2.claims
          env := (world.reconcileTask env platform task target).2.env
          log := (world.reconcileTask env platform task target).2.log }
  | createWorkflow (world : World ε) (workflow : Workflow) (created : workflow.Created)
      (unused : world.Unused workflow.name workflow.uid) :
      Step world (.createWorkflow workflow)
        { world with workflows := workflow :: world.workflows }
  | deleteWorkflow (world : World ε) (uid : String) (at_ : Nat) :
      Step world (.deleteWorkflow uid at_)
        { world with
          workflows := updateWorkflow uid
            (fun workflow => { workflow with deletionTimestamp := some at_ }) world.workflows }
  | forceWorkflow (world : World ε) (uid : String) :
      Step world (.forceWorkflow uid)
        { world with
          workflows := updateWorkflow uid (fun workflow => { workflow with forceDelete := true })
            world.workflows
          log := .forced uid :: world.log }
  | collectWorkflow (world : World ε) (uid : String)
      (released : ∀ workflow ∈ world.workflows, workflow.uid = uid →
        workflow.deletionTimestamp.isSome ∧ workflow.finalizer = false) :
      Step world (.collectWorkflow uid)
        { world with workflows := world.workflows.filter fun workflow => workflow.uid ≠ uid }
  | outside (world : World ε) (state : ε) (claims : List PersistentVolumeClaim) :
      Step world .outside { world with env := state, claims }

def World.afterReconcile (world : World ε) : World ε :=
  let flow := world.reconcile env platform world.latest true
  { world with
    latest := flow.written.headD world.latest
    older := (flow.written ++ [world.latest]).tail
    workflows := flow.workflows
    claims := flow.ctx.claims
    env := flow.ctx.env
    log := flow.ctx.log }

theorem World.Step.afterReconcile (world : World ε) :
    World.Step env platform world (.reconcile world.latest true)
      (world.afterReconcile env platform) := by
  refine .reconcile world _ world.latest true [] world.older rfl (fun _ => rfl)
    (world.reconcile env platform world.latest true) rfl ?_ rfl rfl rfl rfl rfl
  show (world.reconcile env platform world.latest true).written.headD world.latest
    :: ((world.reconcile env platform world.latest true).written ++ [world.latest]).tail = _
  cases (world.reconcile env platform world.latest true).written with
  | nil => rfl
  | cons version written => simp

def World.afterEdit (world : World ε) (node : SeiNode) : World ε :=
  { world with latest := node, older := world.versions }

structure World.Initial (world : World ε) : Prop where
  status : world.latest.status = {}
  alive : world.latest.deletionTimestamp = none
  finalizer : world.latest.finalizer = false
  older : world.older = []
  workflows : world.workflows = []
  tasks : world.tasks = []
  log : world.log = []

/-- The worlds reached when every action is allowed where it happens. -/
def World.Reached (init : World ε → Prop) (allowed : World ε → Action → Prop) : World ε → Prop :=
  Reachable (fun world => world.Initial ∧ init world)
    fun world next => ∃ action, allowed world action ∧ World.Step env platform world action next

theorem World.Reached.step {init : World ε → Prop} {allowed : World ε → Action → Prop}
    {world next : World ε} {action : Action} (reached : World.Reached env platform init allowed world)
    (may : allowed world action) (move : World.Step env platform world action next) :
    World.Reached env platform init allowed next :=
  .next reached ⟨action, may, move⟩

def World.Mounted (world : World ε) : Prop :=
  world.latest.mountsNodeConfig = true

end

end SeiController
