import SeiController.Planner.Resolve
import SeiController.Rollout.StatefulSet
import SeiController.Task.Execution

/-!
# Pinning a node to what its pod runs

Four inputs of the pod template change by a rollout: the two images, the isolation and the
requested pool.  The renderer reads them through their defaults, so two nodes with the same
effective values render alike, and a node pinned to its observed values renders what they
were observed from.
-/

set_option autoImplicit false

namespace SeiController

/-! ## Effective values -/

namespace SeiNode

/-- The node without the inputs a rollout changes, and without its status. -/
def withoutRollout (node : SeiNode) : SeiNode :=
  { node with
    dedicatedAnnotation := false
    spec :=
      { node.spec with
        image := ""
        sidecar := some { node.spec.sidecar.getD {} with image := "" }
        scheduling := none }
    status := {} }

def withRollout (node : SeiNode) (image sidecarImage : String) (isolation : NodeIsolation)
    (pool : String) : SeiNode :=
  { node with
    spec :=
      { node.spec with
        image
        sidecar := some { node.spec.sidecar.getD {} with image := sidecarImage }
        scheduling := some ⟨isolation, pool⟩ } }

def effective (platform : Platform) (node : SeiNode) : SeiNode :=
  node.withoutRollout.withRollout node.spec.image (effectiveSidecarImage platform node)
    node.effectiveNodeIsolation node.requestedNodePool

theorem effectiveNodeIsolation_ne_unset (node : SeiNode) : node.effectiveNodeIsolation ≠ .unset := by
  unfold effectiveNodeIsolation
  split
  · simp
  · simp
  · split <;> simp

section Rollout

variable (node : SeiNode) (image sidecarImage : String) (isolation : NodeIsolation) (pool : String)

@[simp] theorem withoutRollout_withRollout :
    (node.withRollout image sidecarImage isolation pool).withoutRollout = node.withoutRollout :=
  rfl

theorem effectiveNodeIsolation_withRollout (set : isolation ≠ .unset) :
    (node.withRollout image sidecarImage isolation pool).effectiveNodeIsolation = isolation := by
  cases isolation with
  | unset => contradiction
  | shared => rfl
  | dedicated => rfl

theorem effectiveSidecarImage_withRollout (platform : Platform) :
    effectiveSidecarImage platform (node.withRollout image sidecarImage isolation pool)
      = if sidecarImage ≠ "" then sidecarImage else platform.sidecarImage :=
  rfl

end Rollout

end SeiNode

section Reads

variable (platform : Platform) (node : SeiNode)

theorem effectiveNodeIsolation_effective :
    (node.effective platform).effectiveNodeIsolation = node.effectiveNodeIsolation :=
  SeiNode.effectiveNodeIsolation_withRollout _ _ _ _ _ node.effectiveNodeIsolation_ne_unset

theorem platform_sidecarImage_of_effective_empty {platform : Platform} {node : SeiNode}
    (empty : effectiveSidecarImage platform node = "") : platform.sidecarImage = "" := by
  unfold effectiveSidecarImage at empty
  split at empty
  · split at empty
    · contradiction
    · exact empty
  · exact empty

theorem effectiveSidecarImage_effective :
    effectiveSidecarImage platform (node.effective platform) = effectiveSidecarImage platform node := by
  rw [SeiNode.effective, SeiNode.effectiveSidecarImage_withRollout]
  by_cases empty : effectiveSidecarImage platform node = ""
  · rw [if_neg (by simpa using empty), platform_sidecarImage_of_effective_empty empty, empty]
  · rw [if_pos empty]

theorem sidecarPort_effective :
    sidecarPort platform (node.effective platform) = sidecarPort platform node := by
  cases declared : node.spec.sidecar with
  | none => simp [sidecarPort, SeiNode.effective, SeiNode.withRollout, SeiNode.withoutRollout, declared]
  | some sidecar =>
    simp [sidecarPort, SeiNode.effective, SeiNode.withRollout, SeiNode.withoutRollout, declared]

theorem sidecarResources_effective :
    sidecarResources (node.effective platform) = sidecarResources node := by
  cases declared : node.spec.sidecar with
  | none =>
    simp [sidecarResources, SeiNode.effective, SeiNode.withRollout, SeiNode.withoutRollout, declared]
  | some sidecar =>
    simp [sidecarResources, SeiNode.effective, SeiNode.withRollout, SeiNode.withoutRollout, declared]

theorem isDedicatedNode_effective :
    isDedicatedNode (node.effective platform) = isDedicatedNode node := by
  rw [isDedicatedNode, effectiveNodeIsolation_effective]
  rfl

theorem resourceLabels_effective :
    resourceLabels (node.effective platform) = resourceLabels node := by
  unfold resourceLabels
  rw [isDedicatedNode_effective]
  rfl

theorem buildSidecarContainer_effective :
    buildSidecarContainer platform (node.effective platform)
      = buildSidecarContainer platform node := by
  unfold buildSidecarContainer sidecarEnv
  rw [effectiveSidecarImage_effective, sidecarPort_effective, sidecarResources_effective]
  rfl

theorem buildRBACProxyContainer_effective :
    buildRBACProxyContainer platform (node.effective platform)
      = buildRBACProxyContainer platform node := by
  unfold buildRBACProxyContainer
  rw [sidecarPort_effective]

theorem buildSidecarMainContainer_effective :
    buildSidecarMainContainer platform (node.effective platform)
      = buildSidecarMainContainer platform node := by
  unfold buildSidecarMainContainer sidecarWaitCommand
  rw [sidecarPort_effective]
  rfl

end Reads

/-! ## Rendering reads the effective values -/

section Congruence

variable {platform : Platform} {a b : SeiNode}

theorem effective_congr {α : Type} {f : SeiNode → α}
    (reads : ∀ node : SeiNode, f (node.effective platform) = f node)
    (same : a.effective platform = b.effective platform) : f a = f b := by
  rw [← reads a, ← reads b, same]

theorem buildNodePodSpec_congr (same : a.effective platform = b.effective platform)
    (pools : nodepoolFor platform a (isDedicatedNode a)
      = nodepoolFor platform b (isDedicatedNode b)) :
    buildNodePodSpec platform a = buildNodePodSpec platform b := by
  have dedicated := effective_congr (isDedicatedNode_effective platform) same
  have seid := effective_congr (buildSidecarMainContainer_effective platform) same
  have probes : validateSeedProbes platform a = validateSeedProbes platform b :=
    effective_congr (fun _ => rfl) same
  have volumes : buildNodeVolumes a = buildNodeVolumes b := effective_congr (fun _ => rfl) same
  have seidInit : buildSeidInitContainer a = buildSeidInitContainer b :=
    effective_congr (fun _ => rfl) same
  have sidecar := effective_congr (buildSidecarContainer_effective platform) same
  have proxy := effective_congr (buildRBACProxyContainer_effective platform) same
  have exporter : cosmosExporterContainers platform a = cosmosExporterContainers platform b :=
    effective_congr (fun _ => rfl) same
  unfold buildNodePodSpec
  dsimp only
  rw [pools, seid, probes, volumes, seidInit, sidecar, proxy, exporter, dedicated]

theorem generateStatefulSet_congr (same : a.effective platform = b.effective platform)
    (pools : nodepoolFor platform a (isDedicatedNode a)
      = nodepoolFor platform b (isDedicatedNode b)) :
    generateStatefulSet platform a = generateStatefulSet platform b := by
  have serves : servesSeidRPC a = servesSeidRPC b := effective_congr (fun _ => rfl) same
  have labels := effective_congr (resourceLabels_effective platform) same
  have name : a.name = b.name := effective_congr (fun _ => rfl) same
  have nameSpace : a.nameSpace = b.nameSpace := effective_congr (fun _ => rfl) same
  have selector : selectorLabels a = selectorLabels b := effective_congr (fun _ => rfl) same
  have policy : podManagementPolicy a = podManagementPolicy b := effective_congr (fun _ => rfl) same
  have strategy : updateStrategy a = updateStrategy b := effective_congr (fun _ => rfl) same
  have contained : assertOperatorKeyringContainment a = assertOperatorKeyringContainment b :=
    effective_congr (fun _ => rfl) same
  unfold generateStatefulSet
  rw [buildNodePodSpec_congr same pools, serves, labels, name, nameSpace, selector, policy, strategy,
    contained]

end Congruence

/-! ## The pinned copy -/

/-- What `observe-image` stamps for one node is what the other's status holds. -/
structure SeiNode.Observes (platform : Platform) (node origin : SeiNode) : Prop where
  image : node.status.currentImage = (stampRollout platform origin).status.currentImage
  sidecarImage :
    node.status.currentSidecarImage = (stampRollout platform origin).status.currentSidecarImage
  isolation :
    node.status.currentNodeIsolation = (stampRollout platform origin).status.currentNodeIsolation
  pool : node.status.currentNodePool = (stampRollout platform origin).status.currentNodePool

/-- Once all four values are observed, pinning puts them into the spec. -/
theorem pinTo_eq_withRollout {node : SeiNode} {seidImage sidecarImage : String}
    (named : sidecarImage ≠ "") (isolated : node.status.currentNodeIsolation ≠ .unset)
    (observed : node.status.currentImage ≠ "") :
    pinTo node seidImage sidecarImage
      = node.withRollout seidImage sidecarImage node.status.currentNodeIsolation
          node.status.currentNodePool := by
  unfold pinTo SeiNode.withRollout
  dsimp only
  rw [if_pos named, if_pos isolated]
  by_cases moved : node.requestedNodePool = node.status.currentNodePool
  · rw [if_neg fun both => both.2 moved, ← moved]
    cases scheduled : node.spec.scheduling with
    | none => simp [SeiNode.requestedNodePool, scheduled]
    | some scheduling => simp [SeiNode.requestedNodePool, scheduled]
  · rw [if_pos ⟨observed, moved⟩]
    rfl

section Pinned

variable {platform : Platform} {a b : SeiNode}

theorem effective_withRollout (same : b.withoutRollout = a.withoutRollout)
    (named : effectiveSidecarImage platform a ≠ "") :
    (b.withRollout a.spec.image (effectiveSidecarImage platform a) a.effectiveNodeIsolation
        a.requestedNodePool).effective platform
      = a.effective platform := by
  rw [SeiNode.effective, SeiNode.withoutRollout_withRollout, same,
    SeiNode.effectiveSidecarImage_withRollout, if_pos named,
    SeiNode.effectiveNodeIsolation_withRollout _ _ _ _ _ a.effectiveNodeIsolation_ne_unset]
  rfl

/-- The pool the pod runs on is admitted whether or not it is selectable. -/
theorem nodepoolFor_running (running : b.requestedNodePool = b.status.currentNodePool)
    (dedicated : Bool) :
    nodepoolFor platform b dedicated
      = .ok (if b.requestedNodePool ≠ "" then b.requestedNodePool
          else nodepoolForMode platform (nodeMode b) dedicated) := by
  unfold nodepoolFor
  dsimp only
  by_cases requested : b.requestedNodePool ≠ ""
  · rw [if_pos requested, if_pos requested, if_neg fun refused => refused.2 running]
  · rw [if_neg requested, if_neg requested]

theorem nodepoolFor_of_ok {pool : String} {dedicated : Bool}
    (admitted : nodepoolFor platform a dedicated = .ok pool) :
    pool = if a.requestedNodePool ≠ "" then a.requestedNodePool
      else nodepoolForMode platform (nodeMode a) dedicated := by
  unfold nodepoolFor at admitted
  dsimp only at admitted
  split at admitted
  next requested =>
    split at admitted
    · cases admitted
    · cases admitted
      exact (if_pos requested).symm
  next none =>
    cases admitted
    exact (if_neg none).symm

theorem nodepoolFor_of_generated {desired : DesiredStatefulSet}
    (rendered : generateStatefulSet platform a = .ok desired) :
    ∃ pool, nodepoolFor platform a (isDedicatedNode a) = .ok pool := by
  cases pools : nodepoolFor platform a (isDedicatedNode a) with
  | ok pool => exact ⟨pool, rfl⟩
  | error err =>
    have failed : buildNodePodSpec platform a = .error err := by
      unfold buildNodePodSpec
      dsimp only
      rw [pools]
      rfl
    unfold generateStatefulSet at rendered
    rw [failed] at rendered
    split at rendered
    · cases rendered
    · split at rendered <;> cases rendered

theorem nodepoolFor_congr (same : b.effective platform = a.effective platform)
    (running : b.requestedNodePool = b.status.currentNodePool) {pool : String}
    (admitted : nodepoolFor platform a (isDedicatedNode a) = .ok pool) :
    nodepoolFor platform b (isDedicatedNode b) = nodepoolFor platform a (isDedicatedNode a) := by
  have requested : b.requestedNodePool = a.requestedNodePool :=
    effective_congr (fun _ => rfl) same
  have mode : nodeMode b = nodeMode a := effective_congr (fun _ => rfl) same
  have dedicated := effective_congr (isDedicatedNode_effective platform) same
  rw [nodepoolFor_running running, admitted, nodepoolFor_of_ok admitted, requested, mode, dedicated]

theorem podTemplateDrifted_withRollout (observes : b.Observes platform a)
    (sidecarImage : effectiveSidecarImage platform a ≠ "") :
    podTemplateDrifted platform
      (b.withRollout a.spec.image (effectiveSidecarImage platform a) a.effectiveNodeIsolation
        a.requestedNodePool) = false := by
  have image : b.status.currentImage = a.spec.image := observes.image
  have sidecar : b.status.currentSidecarImage = effectiveSidecarImage platform a :=
    observes.sidecarImage
  have isolation : b.status.currentNodeIsolation = a.effectiveNodeIsolation := observes.isolation
  have pool : b.status.currentNodePool = a.requestedNodePool := observes.pool
  have placed := SeiNode.effectiveNodeIsolation_withRollout b a.spec.image
    (effectiveSidecarImage platform a) a.effectiveNodeIsolation a.requestedNodePool
    a.effectiveNodeIsolation_ne_unset
  unfold podTemplateDrifted imageDrifted sidecarImageDrifted nodeIsolationDrifted nodePoolDrifted
  rw [SeiNode.effectiveSidecarImage_withRollout, if_pos sidecarImage, placed]
  simp [SeiNode.withRollout, SeiNode.requestedNodePool, image, sidecar, isolation, pool]

theorem pinnedToRunning_observed {ε : Type} (env : Env ε) {ctx : Ctx ε}
    (observes : ctx.node.Observes platform a) (image : a.spec.image ≠ "")
    (sidecarImage : effectiveSidecarImage platform a ≠ "") :
    pinnedToRunning env ctx =
      (ctx, .ok (some (ctx.node.withRollout a.spec.image (effectiveSidecarImage platform a)
        a.effectiveNodeIsolation a.requestedNodePool))) := by
  have currentImage : ctx.node.status.currentImage = a.spec.image := observes.image
  have currentSidecar : ctx.node.status.currentSidecarImage = effectiveSidecarImage platform a :=
    observes.sidecarImage
  have currentIsolation : ctx.node.status.currentNodeIsolation = a.effectiveNodeIsolation :=
    observes.isolation
  have currentPool : ctx.node.status.currentNodePool = a.requestedNodePool := observes.pool
  have observed : ctx.node.status.currentImage ≠ "" := currentImage ▸ image
  have isolated : ctx.node.status.currentNodeIsolation ≠ .unset :=
    currentIsolation ▸ a.effectiveNodeIsolation_ne_unset
  unfold pinnedToRunning
  dsimp only
  rw [currentSidecar, if_pos ⟨observed, sidecarImage⟩,
    pinTo_eq_withRollout sidecarImage isolated observed, currentImage, currentIsolation, currentPool]

/-- Pinning holds the pod: whatever a node's spec was changed to since, the copy pinned to
what the rollout of the other node was observed as has no drift, and the StatefulSet
rendered from it is the one rendered from the other node. -/
theorem pinned_renders_observed {ε : Type} (env : Env ε) (platform : Platform) {ctx : Ctx ε}
    {a : SeiNode} (same : ctx.node.withoutRollout = a.withoutRollout)
    (observes : ctx.node.Observes platform a) (image : a.spec.image ≠ "")
    (sidecarImage : effectiveSidecarImage platform a ≠ "") :
    ∃ pinned, pinnedToRunning env ctx = (ctx, .ok (some pinned)) ∧
      podTemplateDrifted platform pinned = false ∧
      (∀ desired, generateStatefulSet platform a = .ok desired →
        generateStatefulSet platform pinned = .ok desired) ∧
      (a.status.currentNodePool = ctx.node.status.currentNodePool →
        generateStatefulSet platform pinned = generateStatefulSet platform a) := by
  have spelled := effective_withRollout same sidecarImage
  have pool : ctx.node.status.currentNodePool = a.requestedNodePool := observes.pool
  refine ⟨_, pinnedToRunning_observed env observes image sidecarImage,
    podTemplateDrifted_withRollout observes sidecarImage, fun desired rendered => ?_, fun equal => ?_⟩
  · obtain ⟨admittedPool, admitted⟩ := nodepoolFor_of_generated rendered
    rw [generateStatefulSet_congr spelled (nodepoolFor_congr spelled pool.symm admitted), rendered]
  · have running : nodepoolFor platform a (isDedicatedNode a) = _ :=
      nodepoolFor_running (equal.trans pool).symm _
    exact generateStatefulSet_congr spelled (nodepoolFor_congr spelled pool.symm running)

end Pinned

section Samples

def renderPlatform : Platform :=
  { samplePlatform with
    kubeRBACProxyImage := "proxy:1"
    nodepoolName := "rpc"
    selectableNodepools := ["gold"]
    ports := { rpc := 26657, grpc := 9090, p2p := 26656, evmHTTP := 8545, sidecar := 7777 } }

def observedNode : SeiNode :=
  { name := "node-0"
    nameSpace := "sei"
    dedicatedAnnotation := true
    spec :=
      { chainID := "sei"
        image := "seid:1"
        nodeConfig := some ⟨"config", "app"⟩
        scheduling := some ⟨.unset, "gold"⟩
        fullNode := some ⟨none, none, none⟩ } }

def editedNode : SeiNode :=
  let node := stampRollout renderPlatform observedNode
  { node with
    spec :=
      { node.spec with
        image := "seid:2"
        sidecar := some { image := "sidecar:9" }
        scheduling := some ⟨.shared, ""⟩ } }

theorem edited_node_pinned :
    (generateStatefulSet renderPlatform observedNode).isOk = true ∧
      podTemplateDrifted renderPlatform editedNode = true ∧
      ∃ pinned, pinnedToRunning quietEnv ⟨editedNode, [], (), []⟩
          = (⟨editedNode, [], (), []⟩, .ok (some pinned)) ∧
        podTemplateDrifted renderPlatform pinned = false ∧
        (∀ desired, generateStatefulSet renderPlatform observedNode = .ok desired →
          generateStatefulSet renderPlatform pinned = .ok desired) ∧
        (observedNode.status.currentNodePool = editedNode.status.currentNodePool →
          generateStatefulSet renderPlatform pinned
            = generateStatefulSet renderPlatform observedNode) :=
  ⟨by decide +kernel, by decide +kernel,
    pinned_renders_observed quietEnv renderPlatform rfl ⟨rfl, rfl, rfl, rfl⟩ (by decide) (by decide)⟩

end Samples

end SeiController
