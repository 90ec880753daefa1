import SeiController.Rollout.Pod

/-!
# The StatefulSet of a node

`GenerateStatefulSet` with its guards: a seid container behind the start gate carries no
probe that a held seid fails, a node without RPC is asked nothing over RPC, and the
operator keyring reaches its own containers only.
-/

set_option autoImplicit false

namespace SeiController

structure Toleration where
  key : String
  value : String
  /-- `NoSchedule`; other effects are not used. -/
  noSchedule : Bool
deriving DecidableEq

structure PodSpec where
  automountServiceAccountToken : Bool
  serviceAccountName : String
  tolerations : List Toleration
  /-- The required node selector's expressions. -/
  nodeAffinity : List SelectorRequirement
  podAntiAffinity : List PodAffinityTerm
  volumes : List Volume
  shareProcessNamespace : Bool
  fsGroup : Nat
  fsGroupChangeOnRootMismatch : Bool
  initContainers : List Container
  containers : List Container
deriving DecidableEq

structure PodTemplateSpec where
  labels : List (String × String)
  annotations : List (String × String)
  spec : PodSpec
deriving DecidableEq

inductive PodManagementPolicy
  | unset | parallel
deriving DecidableEq

inductive UpdateStrategy
  | rollingUpdate | onDelete
deriving DecidableEq

structure StatefulSetSpec where
  replicas : Nat
  serviceName : String
  selector : List (String × String)
  podManagementPolicy : PodManagementPolicy
  updateStrategy : UpdateStrategy
  template : PodTemplateSpec
deriving DecidableEq

structure DesiredStatefulSet where
  name : String
  nameSpace : String
  labels : List (String × String)
  spec : StatefulSetSpec
deriving DecidableEq

/-! ## Guards -/

def Probe.port (probe : Probe) : Int :=
  match probe.handler with
  | .httpGet _ port | .tcpSocket port => port

def probeTargetsSeidRPC (platform : Platform) (probe : Option Probe) : Bool :=
  probe.any fun probe => probe.port == platform.ports.rpc || probe.port == platform.ports.grpc

def validateGatedSeidProbes (platform : Platform) (container : Container) : Except String Unit :=
  if container.livenessProbe.isSome then
    .error ("gated seid container \"" ++ container.name ++ "\" must not carry a liveness probe")
  else if probeTargetsSeidRPC platform container.startupProbe then
    .error ("gated seid container \"" ++ container.name
      ++ "\" startup probe must not target seid's RPC/gRPC port")
  else
    .ok ()

def seedProbeError (container : Container) (probe : String) : String :=
  "seed seid container \"" ++ container.name ++ "\" " ++ probe
    ++ " probe must not target seid's RPC/gRPC port; seed mode binds neither"

def validateSeedProbes (platform : Platform) (node : SeiNode) (container : Container) :
    Except String Unit :=
  if servesSeidRPC node then .ok ()
  else if probeTargetsSeidRPC platform container.readinessProbe then
    .error (seedProbeError container "readiness")
  else if probeTargetsSeidRPC platform container.livenessProbe then
    .error (seedProbeError container "liveness")
  else if probeTargetsSeidRPC platform container.startupProbe then
    .error (seedProbeError container "startup")
  else
    .ok ()

/-- What one container outside the permitted ones must not hold. -/
def checkKeyringContainment (node : SeiNode) (passphraseSecretName : String)
    (container : Container) : Except String Unit :=
  let pod := "pod-spec for " ++ node.nameSpace ++ "/" ++ node.name
  if container.volumeMounts.any fun mount => mount.name == operatorKeyringVolumeName then
    .error (pod ++ " mounts operator-keyring volume on container \"" ++ container.name
      ++ "\"; operator-keyring is exclusively the sidecar's (plus seid main when "
      ++ ".secret.seidMount is set) — mounting elsewhere would collapse containment")
  else
    let references (env : EnvVar) := env.secretKeyRef.any fun ref => ref.1 == passphraseSecretName
    match container.env.find? references with
    | some env =>
      .error (pod ++ " references operator-keyring passphrase Secret \"" ++ passphraseSecretName
        ++ "\" in env \"" ++ env.name ++ "\" on container \"" ++ container.name
        ++ "\"; the passphrase is exclusively the sidecar's (plus seid main when "
        ++ ".secret.seidMount is set)")
    | none =>
      if passphraseSecretName ∈ container.envFrom then
        .error (pod ++ " references operator-keyring passphrase Secret \"" ++ passphraseSecretName
          ++ "\" via envFrom on container \"" ++ container.name
          ++ "\"; the passphrase is exclusively the sidecar's (plus seid main when "
          ++ ".secret.seidMount is set)")
      else
        .ok ()

def assertOperatorKeyringContainment (node : SeiNode) (spec : PodSpec) : Except String Unit :=
  match operatorKeyringSecretSource node with
  | none => .ok ()
  | some source =>
    let permitted (container : Container) :=
      container.name == containerNameSidecar
        || (source.seidMount && container.name == containerNameSeid)
    let guarded := (spec.containers ++ spec.initContainers).filter fun container =>
      !permitted container
    guarded.forM (checkKeyringContainment node source.passphraseSecretName)

/-! ## Rendering -/

def rbacProxyConfigMapName (node : SeiNode) : String :=
  node.name ++ "-rbac-proxy-config"

def buildNodeVolumes (node : SeiNode) : List Volume :=
  [⟨"data", .persistentVolumeClaim (dataPVCName node)⟩, ⟨"sidecar-tmp", .emptyDir⟩,
    ⟨"home", .emptyDir⟩,
    ⟨rbacProxyConfigVolumeName, .configMap (rbacProxyConfigMapName node) none []⟩]
    ++ signingKeyVolumes node ++ nodeKeyVolumes node ++ operatorKeyringVolumes node
    ++ nodeConfigVolumes node

def cosmosExporterContainers (platform : Platform) (node : SeiNode) : List Container :=
  if servesSeidRPC node && platform.cosmosExporterImage ≠ ""
      && node.spec.chainID ∉ platform.cosmosExporterExcludedChains then
    [buildCosmosExporterContainer platform]
  else
    []

def buildNodePodSpec (platform : Platform) (node : SeiNode) : Except String PodSpec := do
  let dedicated := isDedicatedNode node
  let pool ← nodepoolFor platform node dedicated
  let seidContainer := buildSidecarMainContainer platform node
  validateGatedSeidProbes platform seidContainer
  validateSeedProbes platform node seidContainer
  return {
    automountServiceAccountToken := true
    serviceAccountName := platform.serviceAccount
    tolerations := [⟨platform.tolerationKey, pool, true⟩]
    nodeAffinity := [.opIn "karpenter.sh/nodepool" [pool]]
    podAntiAffinity := buildPodAntiAffinity dedicated
    volumes := buildNodeVolumes node
    shareProcessNamespace := true
    fsGroup := sidecarNonRootUID
    fsGroupChangeOnRootMismatch := true
    initContainers :=
      [buildSeidInitContainer node, buildSidecarContainer platform node,
        buildRBACProxyContainer platform node]
    containers := seidContainer :: cosmosExporterContainers platform node }

/-- Who rolls the pod: without `spec.nodeConfig`, the controller. -/
def updateStrategy (node : SeiNode) : UpdateStrategy :=
  if node.spec.nodeConfig.isSome then .rollingUpdate else .onDelete

def podManagementPolicy (node : SeiNode) : PodManagementPolicy :=
  if node.spec.nodeConfig.isSome then .parallel else .unset

def generateStatefulSet (platform : Platform) (node : SeiNode) :
    Except String DesiredStatefulSet :=
  if platform.kubeRBACProxyImage = "" then
    .error "images.kubeRBACProxy is not configured in the app-config file"
  else if !servesSeidRPC node && platform.nodepoolSeed = "" then
    .error "scheduling.nodepoolSeed is not configured in the app-config file"
  else do
    let labels := resourceLabels node
    let podSpec ← buildNodePodSpec platform node
    assertOperatorKeyringContainment node podSpec
    return {
      name := node.name
      nameSpace := node.nameSpace
      labels
      spec :=
        { replicas := 1
          serviceName := node.name
          selector := selectorLabels node
          podManagementPolicy := podManagementPolicy node
          updateStrategy := updateStrategy node
          template :=
            { labels
              annotations := [("karpenter.sh/do-not-disrupt", "true")]
              spec := podSpec } } }

end SeiController
