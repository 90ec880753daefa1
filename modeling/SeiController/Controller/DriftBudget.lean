import Mathlib.Data.Set.Finite.Lemmas
import SeiController.Controller.Node
import SeiController.Lib.Rank

/-!
# Who gets a roll slot

The order `driftSlot` ranks a namespace in is computed from names, conditions and drift
alone.  Whether a node that is granted a slot would use it is a question to its whole
reconcile: a workflow may occupy the node, or its plan may not build.
-/

set_option autoImplicit false

namespace SeiController

def runningUnpaused (node : SeiNode) : Bool :=
  node.status.phase == .running && !node.spec.paused

def updatingNodes (nodes : List SeiNode) : List SeiNode :=
  (nodes.filter runningUnpaused).filter hasNodeUpdateCondition

def waitingNodes (platform : Platform) (nodes : List SeiNode) : List SeiNode :=
  (nodes.filter runningUnpaused).filter fun node =>
    !hasNodeUpdateCondition node && podTemplateDrifted platform node

theorem slotOrder_eq (platform : Platform) (nodes : List SeiNode) :
    slotOrder platform nodes =
      sortNames ((updatingNodes nodes).map SeiNode.name)
        ++ sortNames ((waitingNodes platform nodes).map SeiNode.name) :=
  rfl

variable {nodes : List SeiNode}

/-- A node in the order is granted a slot exactly if its place is below the number of slots. -/
theorem slotRefusal_of_listed {platform : Platform} {node : SeiNode}
    (member : node.name ∈ slotOrder platform nodes) :
    slotRefusal platform node nodes = none ↔
      (slotOrder platform nodes).idxOf node.name < slotCount platform nodes := by
  unfold slotRefusal
  dsimp only
  rw [List.idxOf?_eq_some_idxOf member]
  dsimp only
  split
  next place => simpa using place
  next place => simpa using place

/-- With nobody updating, a waiting node's place is the number of waiting nodes of a smaller
name. -/
theorem idxOf_waiting {platform : Platform} {node : SeiNode} (idle : updatingNodes nodes = [])
    (waiting : node ∈ waitingNodes platform nodes) :
    node.name ∈ slotOrder platform nodes ∧
      (slotOrder platform nodes).idxOf node.name =
        (waitingNodes platform nodes).countP fun other => other.name < node.name := by
  have order : slotOrder platform nodes =
      sortNames ((waitingNodes platform nodes).map SeiNode.name) := by
    rw [slotOrder_eq, idle, List.map_nil, sortNames_nil, List.nil_append]
  have permuted := sortNames_perm ((waitingNodes platform nodes).map SeiNode.name)
  have member : node.name ∈ sortNames ((waitingNodes platform nodes).map SeiNode.name) :=
    permuted.mem_iff.mpr (List.mem_map_of_mem waiting)
  rw [order]
  refine ⟨member, ?_⟩
  calc (sortNames ((waitingNodes platform nodes).map SeiNode.name)).idxOf node.name
      = (sortNames ((waitingNodes platform nodes).map SeiNode.name)).countP
          (· < node.name) := List.idxOf_eq_countP_lt (sortNames_sorted _) member
    _ = ((waitingNodes platform nodes).map SeiNode.name).countP (· < node.name) :=
        permuted.countP_eq _
    _ = (waitingNodes platform nodes).countP fun other => other.name < node.name :=
        List.countP_map

section

variable {ε : Type} (env : Env ε) (platform : Platform)

/-- The environment in which every list of the namespace answers `nodes`. -/
def Env.listing (nodes : List SeiNode) : Env ε :=
  { env with listSeiNodes := fun state => ((env.listSeiNodes state).1, .ok nodes) }

theorem driftSlot_listing (positive : 0 < platform.driftUpdateBudgetPercent)
    (nodes : List SeiNode) (ctx : Ctx ε) :
    (driftSlot (env.listing nodes) platform ctx).2 = .ok (slotRefusal platform ctx.node nodes) := by
  unfold driftSlot
  rw [if_neg (not_le.mpr positive)]
  rfl

structure Around (ε : Type) where
  claims : List PersistentVolumeClaim
  workflows : List Workflow
  state : ε

def Around.flow (around : Around ε) (node : SeiNode) : Flow ε :=
  .start node true around.claims around.workflows around.state []

def Event.storesDriftUpdate : Event → Bool
  | .stored node plan => isDriftUpdatePlan platform node plan
  | _ => false

/-- The node's next reconcile stores a drift update if every question for a slot is
answered with a free one: an empty namespace has a slot left. -/
def wouldStart (around : Around ε) (node : SeiNode) : Bool :=
  ((around.flow node).reconcile (env.listing []) platform).1.ctx.log.any
    (Event.storesDriftUpdate platform)

/-- The waiting nodes that sort before `node` and would not use a slot. -/
def idleAhead (around : SeiNode → Around ε) (nodes : List SeiNode) (node : SeiNode) : Nat :=
  (waitingNodes platform nodes).countP fun other =>
    other.name < node.name && !wouldStart env platform (around other) other

variable {env platform}

/-- Of the waiting nodes that would start, one has no other such node before it. -/
theorem exists_first_starter {around : SeiNode → Around ε} {node : SeiNode}
    (waiting : node ∈ waitingNodes platform nodes)
    (starts : wouldStart env platform (around node) node = true) :
    ∃ first ∈ waitingNodes platform nodes,
      wouldStart env platform (around first) first = true ∧ first.name ≤ node.name ∧
      ∀ other ∈ waitingNodes platform nodes,
        wouldStart env platform (around other) other = true → first.name ≤ other.name := by
  generalize waitingNodes platform nodes = queue at waiting ⊢
  have starters : ∃ first ∈ queue, wouldStart env platform (around first) first = true ∧
      ∀ other ∈ queue,
        wouldStart env platform (around other) other = true → first.name ≤ other.name := by
    have bounded := Set.exists_min_image
      { other | other ∈ queue ∧ wouldStart env platform (around other) other = true }
      SeiNode.name ((List.finite_toSet queue).subset fun _ found => found.1)
      ⟨node, waiting, starts⟩
    obtain ⟨first, ⟨member, begins⟩, least⟩ := bounded
    exact ⟨first, member, begins, fun other inside runs => least other ⟨inside, runs⟩⟩
  obtain ⟨first, member, begins, least⟩ := starters
  exact ⟨first, member, begins, least node waiting starts, least⟩

theorem ahead_le_idleAhead {around : SeiNode → Around ε} {first node : SeiNode}
    (order : first.name ≤ node.name)
    (least : ∀ other ∈ waitingNodes platform nodes,
      wouldStart env platform (around other) other = true → first.name ≤ other.name) :
    (waitingNodes platform nodes).countP (fun other => other.name < first.name) ≤
      idleAhead env platform around nodes node := by
  refine List.countP_mono_left fun other member ahead => ?_
  have before : other.name < first.name := of_decide_eq_true ahead
  rw [Bool.and_eq_true, decide_eq_true_eq, Bool.not_eq_true']
  refine ⟨lt_of_lt_of_le before order, ?_⟩
  by_contra starts
  rw [Bool.not_eq_false] at starts
  exact absurd before (not_lt.mpr (least other member starts))

/-- With nobody updating, a waiting node is granted a slot exactly if fewer waiting nodes of a
smaller name than slots are there. -/
theorem driftSlot_waiting_iff (positive : 0 < platform.driftUpdateBudgetPercent) {ctx : Ctx ε}
    (idle : updatingNodes nodes = []) (waiting : ctx.node ∈ waitingNodes platform nodes) :
    (driftSlot (env.listing nodes) platform ctx).2 = .ok none ↔
      (waitingNodes platform nodes).countP (fun other => other.name < ctx.node.name)
        < slotCount platform nodes := by
  obtain ⟨listed, place⟩ := idxOf_waiting idle waiting
  rw [driftSlot_listing env platform positive, ← place, ← slotRefusal_of_listed listed,
    Except.ok.injEq]

end

/-- A slot is granted to a node that would use it exactly if fewer nodes than there are slots
stand idle ahead of such a node. -/
theorem starter_granted_iff {ε : Type} (env : Env ε) (platform : Platform)
    (positive : 0 < platform.driftUpdateBudgetPercent) (nodes : List SeiNode)
    (around : SeiNode → Around ε) (idle : updatingNodes nodes = []) :
    (∃ granted ∈ waitingNodes platform nodes,
      wouldStart env platform (around granted) granted = true ∧
      ∀ ctx : Ctx ε, ctx.node = granted →
        (driftSlot (env.listing nodes) platform ctx).2 = .ok none) ↔
    ∃ node ∈ waitingNodes platform nodes,
      wouldStart env platform (around node) node = true ∧
      idleAhead env platform around nodes node < slotCount platform nodes := by
  constructor
  · rintro ⟨granted, member, starts, free⟩
    refine ⟨granted, member, starts, ?_⟩
    have place := (driftSlot_waiting_iff positive idle member).mp
      (free ⟨granted, [], (around granted).state, []⟩ rfl)
    refine lt_of_le_of_lt (List.countP_mono_left fun other _ ahead => ?_) place
    exact (Bool.and_eq_true _ _ ▸ ahead).1
  · rintro ⟨node, waiting, starts, room⟩
    obtain ⟨first, member, begins, order, least⟩ := exists_first_starter waiting starts
    refine ⟨first, member, begins, fun ctx same => ?_⟩
    subst same
    exact (driftSlot_waiting_iff positive idle member).mpr
      (lt_of_le_of_lt (ahead_le_idleAhead order least) room)

section Samples

def budgetPlatform : Platform :=
  { samplePlatform with driftUpdateBudgetPercent := 10 }

def driftedNode (name : String) : SeiNode :=
  { name
    spec := { image := "seid:2", fullNode := some ⟨none, none, none⟩ }
    status := { phase := .running, currentImage := "seid:1" } }

def parkedNode (name : String) : SeiNode :=
  let node := driftedNode name
  { node with status := { node.status with adoptedWorkflow := some ⟨"resync", "uid"⟩ } }

def failedResync : Workflow :=
  { name := "resync", uid := "uid", creationTimestamp := 0, deletionTimestamp := none
    finalizer := true, forceDelete := false, spec := ⟨.stateSync, .running, none, none⟩
    status := ⟨.failed, none, some ⟨"plan", .failed, [], .running, "", .empty, none, none⟩⟩ }

def quietAround : Around Unit := ⟨[], [], ()⟩

def parkedAround : Around Unit := ⟨[], [failedResync], ()⟩

theorem lone_starter_granted_slot :
    ∃ granted ∈ waitingNodes budgetPlatform [driftedNode "a", driftedNode "b"],
      wouldStart quietEnv budgetPlatform quietAround granted = true ∧
      ∀ ctx : Ctx Unit, ctx.node = granted →
        (driftSlot (quietEnv.listing [driftedNode "a", driftedNode "b"]) budgetPlatform ctx).2 =
          .ok none := by
  refine (starter_granted_iff quietEnv budgetPlatform (by decide) _ (fun _ => quietAround) rfl).mpr
    ⟨driftedNode "a", ?_, by decide +kernel, by decide +kernel⟩
  exact List.mem_cons_self

/-- The only slot goes to a node whose failed workflow never lets it update, and the other
node waits behind it. -/
theorem parked_node_takes_only_slot :
    updatingNodes [parkedNode "a", driftedNode "b"] = [] ∧
      wouldStart quietEnv budgetPlatform quietAround (driftedNode "b") = true ∧
      wouldStart quietEnv budgetPlatform parkedAround (parkedNode "a") = false ∧
      ∀ ctx : Ctx Unit, ctx.node = driftedNode "b" →
        (driftSlot (quietEnv.listing [parkedNode "a", driftedNode "b"]) budgetPlatform ctx).2 ≠
          .ok none := by
  refine ⟨rfl, by decide +kernel, by decide +kernel, fun ctx same => ?_⟩
  have order : slotOrder budgetPlatform [parkedNode "a", driftedNode "b"] = ["a", "b"] := by
    have sorted : sortNames ["a", "b"] = ["a", "b"] := sortNames_of_sorted (by decide)
    exact congrArg₂ (· ++ ·) sortNames_nil sorted
  rw [driftSlot_listing _ _ (by decide), same]
  unfold slotRefusal
  rw [order]
  decide +kernel

end Samples

end SeiController
