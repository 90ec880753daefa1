import SeiController.Controller.DriftBudget

/-!
# Waking the nodes that wait for a roll slot

A node that `driftSlot` refuses asks again on its poll, or as soon as an event on another
node of the namespace passes `slotReleased`.  A slot is granted when fewer nodes than there
are slots stand ahead, so what an event frees is decided by what it does to that number.
-/

set_option autoImplicit false

namespace SeiController

/-! ## The watch -/

inductive WatchEvent
  | created (node : SeiNode)
  | updated (old new : SeiNode)
  | deleted (node : SeiNode)
  | generic (node : SeiNode)

def nodeUpdating (node : SeiNode) : Bool :=
  hasNodeUpdateCondition node

def slotReleased : WatchEvent → Bool
  | .created _ => false
  | .updated old new =>
    (nodeUpdating old && !nodeUpdating new) || old.spec.paused != new.spec.paused
      || old.status.phase != new.status.phase
  | .deleted _ => true
  | .generic _ => false

def reportsDeferred (node : SeiNode) : Bool :=
  match node.status.nodeUpdateInProgress with
  | some condition => condition.reason == .updateDeferred
  | none => false

/-- The requests an event that passes is mapped to, from a list of its namespace. -/
def deferredPeers : Except String (List SeiNode) → List (String × String)
  | .error _ => []
  | .ok nodes =>
    (nodes.filter reportsDeferred).map fun node => (node.nameSpace, node.name)

/-! ## Places -/

def isUpdating (node : SeiNode) : Bool :=
  runningUnpaused node && hasNodeUpdateCondition node

def isWaiting (platform : Platform) (node : SeiNode) : Bool :=
  runningUnpaused node && (!hasNodeUpdateCondition node && podTemplateDrifted platform node)

/-- Whether `other` comes before `node` in the order of slots.  A node that is not in the
order comes after all that are. -/
def standsAhead (platform : Platform) (node other : SeiNode) : Bool :=
  if isUpdating node then isUpdating other && decide (other.name < node.name)
  else if isWaiting platform node then
    isUpdating other || (isWaiting platform other && decide (other.name < node.name))
  else isUpdating other || isWaiting platform other

theorem updatingNodes_eq (nodes : List SeiNode) : updatingNodes nodes = nodes.filter isUpdating := by
  rw [updatingNodes, List.filter_filter]
  refine List.filter_congr fun node _ => ?_
  rw [isUpdating, Bool.and_comm]

theorem waitingNodes_eq (platform : Platform) (nodes : List SeiNode) :
    waitingNodes platform nodes = nodes.filter (isWaiting platform) := by
  rw [waitingNodes, List.filter_filter]
  refine List.filter_congr fun node _ => ?_
  rw [isWaiting, Bool.and_comm]

variable {node old new : SeiNode} {nodes : List SeiNode}

theorem not_waiting_of_updating {platform : Platform} (updating : isUpdating node = true) :
    isWaiting platform node = false := by
  simp only [isUpdating, Bool.and_eq_true] at updating
  simp [isWaiting, updating.2]

structure Namespace where
  nodes : List SeiNode
  unique : (nodes.map SeiNode.name).Nodup

theorem Namespace.eq_of_name (space : Namespace) {one other : SeiNode} (first : one ∈ space.nodes)
    (second : other ∈ space.nodes) (name : one.name = other.name) : one = other :=
  List.inj_on_of_nodup_map space.unique first second name

section

variable {platform : Platform}

theorem idxOf_sortNames {name : String} (member : name ∈ nodes.map SeiNode.name) :
    (sortNames (nodes.map SeiNode.name)).idxOf name =
      nodes.countP fun other => decide (other.name < name) := by
  have permuted := sortNames_perm (nodes.map SeiNode.name)
  rw [List.idxOf_eq_countP_lt (sortNames_sorted _) (permuted.mem_iff.mpr member),
    permuted.countP_eq, List.countP_map]
  rfl

theorem mem_order_updating {name : String} :
    name ∈ sortNames ((updatingNodes nodes).map SeiNode.name) ↔
      ∃ other ∈ nodes, isUpdating other = true ∧ other.name = name := by
  rw [(sortNames_perm _).mem_iff, updatingNodes_eq, List.mem_map]
  simp only [List.mem_filter, and_assoc]

theorem mem_order_waiting {name : String} :
    name ∈ sortNames ((waitingNodes platform nodes).map SeiNode.name) ↔
      ∃ other ∈ nodes, isWaiting platform other = true ∧ other.name = name := by
  rw [(sortNames_perm _).mem_iff, waitingNodes_eq, List.mem_map]
  simp only [List.mem_filter, and_assoc]

theorem length_order_updating (nodes : List SeiNode) :
    (sortNames ((updatingNodes nodes).map SeiNode.name)).length = nodes.countP isUpdating := by
  rw [(sortNames_perm _).length_eq, List.length_map, updatingNodes_eq, List.countP_eq_length_filter]

theorem length_order_waiting (nodes : List SeiNode) :
    (sortNames ((waitingNodes platform nodes).map SeiNode.name)).length =
      nodes.countP (isWaiting platform) := by
  rw [(sortNames_perm _).length_eq, List.length_map, waitingNodes_eq, List.countP_eq_length_filter]

/-- The place of a node in the order, the end of it for one that is not in the order. -/
theorem idxOf_slotOrder (space : Namespace) (member : node ∈ space.nodes) :
    (slotOrder platform space.nodes).idxOf node.name =
      space.nodes.countP (standsAhead platform node) := by
  have ahead : standsAhead platform node = fun other => standsAhead platform node other := rfl
  rw [slotOrder_eq, List.idxOf_append, ahead]
  unfold standsAhead
  cases updating : isUpdating node with
  | true =>
    have listed : node.name ∈ (updatingNodes space.nodes).map SeiNode.name := by
      rw [updatingNodes_eq]
      exact List.mem_map_of_mem (List.mem_filter.mpr ⟨member, updating⟩)
    rw [if_pos ((sortNames_perm _).mem_iff.mpr listed), idxOf_sortNames listed, updatingNodes_eq,
      List.countP_filter]
    simp [Bool.and_comm]
  | false =>
    have unlisted : node.name ∉ sortNames ((updatingNodes space.nodes).map SeiNode.name) := by
      intro listed
      obtain ⟨other, found, busy, name⟩ := mem_order_updating.mp listed
      rw [space.eq_of_name found member name, updating] at busy
      cases busy
    rw [if_neg unlisted, length_order_updating]
    cases waiting : isWaiting platform node with
    | true =>
      have listed : node.name ∈ (waitingNodes platform space.nodes).map SeiNode.name := by
        rw [waitingNodes_eq]
        exact List.mem_map_of_mem (List.mem_filter.mpr ⟨member, waiting⟩)
      have apart : ∀ other ∈ space.nodes, isUpdating other = true →
          (isWaiting platform other && decide (other.name < node.name)) = false := by
        intro other _ busy
        rw [not_waiting_of_updating busy, Bool.false_and]
      rw [idxOf_sortNames listed, waitingNodes_eq, List.countP_filter]
      simp only [Bool.false_eq_true, if_false, if_true]
      rw [List.countP_or apart, Nat.add_comm]
      simp only [Bool.and_comm]
    | false =>
      have absent : node.name ∉ sortNames ((waitingNodes platform space.nodes).map SeiNode.name) := by
        intro listed
        obtain ⟨other, found, waits, name⟩ := mem_order_waiting.mp listed
        rw [space.eq_of_name found member name, waiting] at waits
        cases waits
      have apart : ∀ other ∈ space.nodes, isUpdating other = true →
          isWaiting platform other = false := fun _ _ => not_waiting_of_updating
      rw [List.idxOf_eq_length absent, length_order_waiting]
      simp only [Bool.false_eq_true, if_false]
      rw [List.countP_or apart, Nat.add_comm]

/-- A node is granted a slot when fewer nodes than there are slots stand ahead of it. -/
theorem slotRefusal_eq_none_iff (space : Namespace) (member : node ∈ space.nodes) :
    slotRefusal platform node space.nodes = none ↔
      space.nodes.countP (standsAhead platform node) < slotCount platform space.nodes := by
  rw [← idxOf_slotOrder space member]
  by_cases listed : node.name ∈ slotOrder platform space.nodes
  · exact slotRefusal_of_listed listed
  · unfold slotRefusal
    dsimp only
    rw [List.idxOf?_eq_none_iff.mpr listed, List.idxOf_eq_length listed]
    simp

/-! ## One event -/

inductive Namespace.Change (space next : Namespace) : WatchEvent → Prop
  | updated (old new : SeiNode) (name : new.name = old.name) (front back : List SeiNode)
      (before : space.nodes = front ++ old :: back) (after : next.nodes = front ++ new :: back) :
      Change space next (.updated old new)
  | deleted (node : SeiNode) (front back : List SeiNode)
      (before : space.nodes = front ++ node :: back) (after : next.nodes = front ++ back) :
      Change space next (.deleted node)

def WatchEvent.name : WatchEvent → String
  | .created node | .updated node _ | .deleted node | .generic node => node.name

/-- An update that leaves the phase and the pause of a waiting node, does not start its roll,
and takes its drift away. -/
structure Undrifts (platform : Platform) (old new : SeiNode) : Prop where
  waiting : isWaiting platform old = true
  paused : old.spec.paused = new.spec.paused
  phase : old.status.phase = new.status.phase
  idle : nodeUpdating new = false
  settled : podTemplateDrifted platform new = false

/-- The event takes the drift from a node ahead of `node`, which is the first one without a
slot. -/
def SkipsWakeUp (platform : Platform) (nodes : List SeiNode) (node : SeiNode) : WatchEvent → Prop
  | .updated old new =>
    0 < platform.driftUpdateBudgetPercent ∧ Undrifts platform old new ∧
      standsAhead platform node old = true ∧
      nodes.countP (standsAhead platform node) = slotCount platform nodes
  | _ => False

theorem runningUnpaused_congr (paused : old.spec.paused = new.spec.paused)
    (phase : old.status.phase = new.status.phase) : runningUnpaused new = runningUnpaused old := by
  rw [runningUnpaused, runningUnpaused, paused, phase]

theorem slotReleased_updated (missed : slotReleased (.updated old new) = false) :
    (nodeUpdating old = true → nodeUpdating new = true) ∧ old.spec.paused = new.spec.paused ∧
      old.status.phase = new.status.phase := by
  unfold slotReleased at missed
  simp only [Bool.or_eq_false_iff, bne_eq_false_iff_eq] at missed
  obtain ⟨⟨kept, paused⟩, phase⟩ := missed
  refine ⟨fun updating => ?_, paused, phase⟩
  simpa [updating] using kept

/-- An update that is not reported moves nobody out of a node's way but by taking its drift. -/
theorem undrifts_of_missed (name : new.name = old.name)
    (missed : slotReleased (.updated old new) = false)
    (before : standsAhead platform node old = true) (after : standsAhead platform node new = false) :
    Undrifts platform old new := by
  obtain ⟨kept, paused, phase⟩ := slotReleased_updated missed
  have running := runningUnpaused_congr paused phase
  -- a node that updates still does, in the same place
  have updates : isUpdating old = true → isUpdating new = true := by
    simp only [isUpdating, Bool.and_eq_true, running]
    exact fun both => ⟨both.1, kept both.2⟩
  unfold standsAhead at before after
  rw [name] at after
  cases updating : isUpdating node with
  | true =>
    rw [updating, if_pos rfl, Bool.and_eq_true] at before
    rw [updating, if_pos rfl, updates before.1, before.2] at after
    cases after
  | false =>
    rw [updating, if_neg Bool.false_ne_true] at before after
    have calm : isUpdating new = false := by
      cases busy : isUpdating new with
      | false => rfl
      | true =>
        rw [busy] at after
        split at after <;> cases after
    have waits : isWaiting platform old = true ∧ isWaiting platform new = false := by
      have idle : isUpdating old = false := by
        rw [← Bool.not_eq_true]
        exact fun busy => by rw [updates busy] at calm; cases calm
      rw [calm] at after
      rw [idle] at before
      cases line : isWaiting platform node with
      | true =>
        rw [line, if_pos rfl, Bool.false_or] at before after
        rw [Bool.and_eq_true] at before
        rw [before.2, Bool.and_true] at after
        exact ⟨before.1, after⟩
      | false =>
        rw [line, if_neg Bool.false_ne_true, Bool.false_or] at before after
        exact ⟨before, after⟩
    obtain ⟨waiting, settled⟩ := waits
    have active : runningUnpaused new = true := by
      rw [running]
      simp only [isWaiting, Bool.and_eq_true] at waiting
      exact waiting.1
    have idle : nodeUpdating new = false := by
      unfold isUpdating at calm
      rwa [active, Bool.true_and] at calm
    refine ⟨waiting, paused, phase, idle, ?_⟩
    unfold isWaiting at settled
    unfold nodeUpdating at idle
    rwa [active, idle, Bool.not_false, Bool.true_and, Bool.true_and] at settled

theorem not_ahead_of_undrifts (node : SeiNode) (undrifts : Undrifts platform old new) :
    slotReleased (.updated old new) = false ∧ standsAhead platform node new = false := by
  obtain ⟨waiting, paused, phase, idle, settled⟩ := undrifts
  have quiet : nodeUpdating old = false := by
    simp only [isWaiting, Bool.and_eq_true, Bool.not_eq_true'] at waiting
    exact waiting.2.1
  refine ⟨by simp [slotReleased, quiet, paused, phase], ?_⟩
  have unranked : isUpdating new = false ∧ isWaiting platform new = false := by
    unfold nodeUpdating at idle
    simp [isUpdating, isWaiting, idle, settled]
  unfold standsAhead
  rw [unranked.1, unranked.2]
  repeat' split
  all_goals rfl

/-- The number of nodes ahead and the number of slots after an update that is not reported. -/
theorem ahead_after_missed (platform : Platform) {space next : Namespace} (node : SeiNode)
    {front back : List SeiNode} (before : space.nodes = front ++ old :: back)
    (after : next.nodes = front ++ new :: back) (missed : slotReleased (.updated old new) = false) :
    slotCount platform next.nodes = slotCount platform space.nodes ∧
      next.nodes.countP (standsAhead platform node) + (standsAhead platform node old).toNat =
        space.nodes.countP (standsAhead platform node) + (standsAhead platform node new).toNat := by
  obtain ⟨-, paused, phase⟩ := slotReleased_updated missed
  constructor
  · have same : (next.nodes.filter runningUnpaused).length =
        (space.nodes.filter runningUnpaused).length := by
      rw [before, after, List.filter_append, List.filter_append, List.filter_cons, List.filter_cons,
        runningUnpaused_congr paused phase]
      split <;> simp
    show max 1 ((next.nodes.filter runningUnpaused).length * _ / 100) =
      max 1 ((space.nodes.filter runningUnpaused).length * _ / 100)
    rw [same]
  · rw [before, after, List.countP_append, List.countP_append, List.countP_cons, List.countP_cons]
    cases standsAhead platform node old <;> cases standsAhead platform node new <;> simp <;> omega

theorem mem_deferredPeers (member : node ∈ nodes) (deferred : reportsDeferred node = true) :
    (node.nameSpace, node.name) ∈ deferredPeers (.ok nodes) :=
  List.mem_map.mpr ⟨node, List.mem_filter.mpr ⟨member, deferred⟩, rfl⟩

theorem Namespace.Change.mem {space next : Namespace} {event : WatchEvent}
    (change : space.Change next event) (member : node ∈ space.nodes)
    (other : event.name ≠ node.name) : node ∈ next.nodes := by
  cases change with
  | updated old new name front back before after =>
    rw [before] at member
    rw [after]
    rcases List.mem_append.mp member with early | late
    · exact List.mem_append_left _ early
    · rcases List.mem_cons.mp late with rfl | late
      · exact absurd rfl other
      · exact List.mem_append_right _ (List.mem_cons_of_mem _ late)
  | deleted gone front back before after =>
    rw [before] at member
    rw [after]
    rcases List.mem_append.mp member with early | late
    · exact List.mem_append_left _ early
    · rcases List.mem_cons.mp late with rfl | late
      · exact absurd rfl other
      · exact List.mem_append_right _ late

theorem driftSlot_granted_iff {ε : Type} (env : Env ε) (space : Namespace) {ctx : Ctx ε}
    (member : ctx.node ∈ space.nodes) :
    (driftSlot (env.listing space.nodes) platform ctx).2 = .ok none ↔
      (0 < platform.driftUpdateBudgetPercent →
        space.nodes.countP (standsAhead platform ctx.node) < slotCount platform space.nodes) := by
  by_cases positive : 0 < platform.driftUpdateBudgetPercent
  · rw [driftSlot_listing env platform positive, Except.ok.injEq, slotRefusal_eq_none_iff space member]
    exact ⟨fun granted _ => granted, fun granted => granted positive⟩
  · unfold driftSlot
    rw [if_pos (not_lt.mp positive)]
    exact ⟨fun _ positive' => absurd positive' positive, fun _ => rfl⟩

end

/-- An event on another node that turns a refusal into a grant wakes the waiting node, unless
it is an update that takes the drift from a node ahead of the first node without a slot, and
leaves that node's phase, pause and condition. -/
theorem freed_slot_wakes_iff {ε : Type} (env : Env ε) (platform : Platform) {space next : Namespace}
    {event : WatchEvent} (change : space.Change next event) (ctx : Ctx ε)
    (member : ctx.node ∈ space.nodes) (other : event.name ≠ ctx.node.name)
    (deferred : reportsDeferred ctx.node = true) :
    ((driftSlot (env.listing space.nodes) platform ctx).2 ≠ .ok none →
      (driftSlot (env.listing next.nodes) platform ctx).2 = .ok none →
      slotReleased event = true ∧
        (ctx.node.nameSpace, ctx.node.name) ∈ deferredPeers (.ok next.nodes)) ↔
      ¬ SkipsWakeUp platform space.nodes ctx.node event := by
  have stays := change.mem member other
  have enqueued := mem_deferredPeers stays deferred
  rw [ne_eq, driftSlot_granted_iff env space member, driftSlot_granted_iff env next stays]
  cases released : slotReleased event with
  | true =>
    refine ⟨fun _ skips => ?_, fun _ _ _ => ⟨rfl, enqueued⟩⟩
    cases event with
    | updated old new =>
      rw [(not_ahead_of_undrifts ctx.node skips.2.1).1] at released
      cases released
    | created | deleted | generic => exact skips
  | false =>
    cases change with
    | deleted => cases released
    | updated old new name front back before after =>
      obtain ⟨slots, counts⟩ := ahead_after_missed platform ctx.node before after released
      constructor
      · rintro wakes ⟨positive, undrifts, ahead, full⟩
        rw [ahead, (not_ahead_of_undrifts ctx.node undrifts).2] at counts
        simp only [Bool.toNat_true, Bool.toNat_false] at counts
        have woken := wakes (fun granted => by have below := granted positive; omega)
          (fun _ => by omega)
        cases woken.1
      · intro unskipped refused granted
        rw [Classical.not_imp] at refused
        obtain ⟨positive, refused⟩ := refused
        have fits := granted positive
        -- the update took a node out of the way
        have moved : standsAhead platform ctx.node old = true ∧
            standsAhead platform ctx.node new = false := by
          revert counts
          cases standsAhead platform ctx.node old <;> cases standsAhead platform ctx.node new <;>
            simp <;> omega
        rw [moved.1, moved.2] at counts
        simp only [Bool.toNat_true, Bool.toNat_false] at counts
        exact absurd ⟨positive, undrifts_of_missed name released moved.1 moved.2, moved.1, by omega⟩
          unskipped

section Samples

def deferredNode (name : String) : SeiNode :=
  let node := driftedNode name
  { node with
    status :=
      { node.status with
        nodeUpdateInProgress := some ⟨.conditionFalse, .updateDeferred, "waits for a roll slot"⟩ } }

def revertedNode (name : String) : SeiNode :=
  let node := driftedNode name
  { node with spec := { node.spec with image := "seid:1" } }

def waitingSpace : Namespace := ⟨[driftedNode "a", deferredNode "b"], by decide⟩

def revertedSpace : Namespace := ⟨[revertedNode "a", deferredNode "b"], by decide⟩

def emptiedSpace : Namespace := ⟨[deferredNode "b"], by decide⟩

def deferredCtx : Ctx Unit := ⟨deferredNode "b", [], (), []⟩

theorem waitingSpace_refuses :
    (driftSlot (quietEnv.listing waitingSpace.nodes) budgetPlatform deferredCtx).2 ≠ .ok none := by
  have listed : deferredCtx.node ∈ waitingSpace.nodes := List.mem_cons_of_mem _ List.mem_cons_self
  rw [ne_eq, driftSlot_granted_iff quietEnv waitingSpace listed]
  decide +kernel

theorem deleted_node_wakes_next :
    (driftSlot (quietEnv.listing emptiedSpace.nodes) budgetPlatform deferredCtx).2 = .ok none ∧
      slotReleased (.deleted (driftedNode "a")) = true ∧
      (deferredCtx.node.nameSpace, deferredCtx.node.name) ∈ deferredPeers (.ok emptiedSpace.nodes) := by
  have granted : (driftSlot (quietEnv.listing emptiedSpace.nodes) budgetPlatform deferredCtx).2 =
      .ok none :=
    (driftSlot_granted_iff quietEnv emptiedSpace List.mem_cons_self).mpr (by decide +kernel)
  refine ⟨granted, ?_⟩
  have change : waitingSpace.Change emptiedSpace (.deleted (driftedNode "a")) :=
    .deleted (driftedNode "a") [] [deferredNode "b"] rfl rfl
  exact (freed_slot_wakes_iff quietEnv budgetPlatform change deferredCtx
    (List.mem_cons_of_mem _ List.mem_cons_self) (by decide) rfl).mpr id waitingSpace_refuses granted

/-- The only slot was taken by a node whose drift is edited away; the next in line is granted
it, and nothing wakes that node. -/
theorem reverted_drift_wakes_nobody :
    waitingSpace.Change revertedSpace (.updated (driftedNode "a") (revertedNode "a")) ∧
      reportsDeferred deferredCtx.node = true ∧
      (driftSlot (quietEnv.listing waitingSpace.nodes) budgetPlatform deferredCtx).2 ≠ .ok none ∧
      (driftSlot (quietEnv.listing revertedSpace.nodes) budgetPlatform deferredCtx).2 = .ok none ∧
      slotReleased (.updated (driftedNode "a") (revertedNode "a")) = false := by
  refine ⟨.updated (driftedNode "a") (revertedNode "a") rfl [] [deferredNode "b"] rfl rfl, rfl,
    waitingSpace_refuses, ?_, by decide +kernel⟩
  exact (driftSlot_granted_iff quietEnv revertedSpace
    (List.mem_cons_of_mem _ List.mem_cons_self)).mpr (by decide +kernel)

end Samples

end SeiController
