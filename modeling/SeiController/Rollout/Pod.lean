import SeiController.Lib.Assoc
import SeiController.Lib.GoInt
import SeiController.Lib.GoText
import SeiController.Planner.Build

/-!
# The containers of a node's pod

Labels, placement, footprint, volumes, probes and containers as they are rendered from
a SeiNode.  A Kubernetes type has the fields the renderer sets; a protocol is always
TCP and is left out.  A label set is a sorted association list.
-/

set_option autoImplicit false

namespace SeiController

/-! ## Kubernetes types -/

structure EnvVar where
  name : String
  value : String := ""
  /-- `ValueFrom.SecretKeyRef`: the Secret's name and the key in it. -/
  secretKeyRef : Option (String × String) := none
deriving DecidableEq

structure VolumeMount where
  name : String
  mountPath : String
  subPath : String := ""
  readOnly : Bool := false
deriving DecidableEq

structure KeyToPath where
  key : String
  path : String
deriving DecidableEq

inductive VolumeSource
  | persistentVolumeClaim (claimName : String)
  | emptyDir
  | secret (secretName : String) (defaultMode : Nat) (items : List KeyToPath)
  | configMap (name : String) (defaultMode : Option Nat) (items : List KeyToPath)
deriving DecidableEq

structure Volume where
  name : String
  source : VolumeSource
deriving DecidableEq

structure ContainerPort where
  name : String
  containerPort : Int
deriving DecidableEq

inductive ProbeHandler
  | httpGet (path : String) (port : Int)
  | tcpSocket (port : Int)
deriving DecidableEq

structure Probe where
  handler : ProbeHandler
  initialDelaySeconds : Nat := 0
  periodSeconds : Nat := 0
  failureThreshold : Nat := 0
  timeoutSeconds : Nat := 0
deriving DecidableEq

structure SecurityContext where
  runAsNonRoot : Bool
  runAsUser : Nat
  runAsGroup : Nat
  allowPrivilegeEscalation : Bool
  readOnlyRootFilesystem : Option Bool
  capabilitiesDrop : List String
  seccompRuntimeDefault : Bool
deriving DecidableEq

structure Container where
  name : String
  image : String
  command : List String := []
  args : List String := []
  /-- The restart policy is Always; unset otherwise. -/
  restartAlways : Bool := false
  env : List EnvVar := []
  /-- The Secrets of `EnvFrom`. -/
  envFrom : List String := []
  ports : List ContainerPort := []
  volumeMounts : List VolumeMount := []
  resources : ResourceRequirements := {}
  startupProbe : Option Probe := none
  livenessProbe : Option Probe := none
  readinessProbe : Option Probe := none
  securityContext : SecurityContext
deriving DecidableEq

/-! ## Labels -/

def nodeLabel : String := "sei.io/node"

def chainLabel : String := "sei.io/chain"

def roleLabel : String := "sei.io/role"

def snapshotPublishLabel : String := "sei.io/snapshot-publish"

def frozenLabel : String := "sei.io/frozen"

def dedicatedNodeKey : String := "sei.io/dedicated-node"

inductive NodeRole
  | validator | archive | replayer | node | seed
deriving DecidableEq

def NodeRole.text : NodeRole → String
  | validator => "validator"
  | archive => "archive"
  | replayer => "replayer"
  | node => "node"
  | seed => "seed"

def deriveRole (node : SeiNode) : NodeRole :=
  if node.spec.validator.isSome then .validator
  else if node.spec.archive.isSome then .archive
  else if node.spec.replayer.isSome then .replayer
  else if node.spec.seed.isSome then .seed
  else .node

/-- Unlike the role, a replayer is a full node and an archive comes before a validator. -/
def nodeMode (node : SeiNode) : ConfigMode :=
  if node.spec.archive.isSome then .archive
  else if node.spec.validator.isSome then .validator
  else if node.spec.seed.isSome then .seed
  else .full

def SeiNodeSpec.freeze (spec : SeiNodeSpec) : Option FreezeSpec :=
  match spec.fullNode, spec.archive with
  | some full, _ => full.freeze
  | none, some archive => archive.freeze
  | none, none => none

def snapshotPublishEnabled (node : SeiNode) : Bool :=
  let generation :=
    match node.spec.fullNode, node.spec.archive with
    | some full, _ => full.snapshotGeneration
    | none, some archive => archive.snapshotGeneration
    | none, none => none
  match generation with
  | some { tendermint := some tendermint } => tendermint.publish
  | _ => false

def isDedicatedNode (node : SeiNode) : Bool :=
  node.effectiveNodeIsolation == .dedicated

def selectorLabels (node : SeiNode) : List (String × String) :=
  [(nodeLabel, node.name)]

/-- The user's labels first, so that the controller's win. -/
def resourceLabels (node : SeiNode) : List (String × String) :=
  let labels := node.spec.podLabels.foldl (fun labels entry => Assoc.set entry.1 entry.2 labels) []
  let labels := Assoc.set nodeLabel node.name labels
  let labels :=
    if node.spec.chainID ≠ "" then Assoc.set chainLabel node.spec.chainID labels else labels
  let labels := Assoc.set roleLabel (deriveRole node).text labels
  let labels := if isDedicatedNode node then Assoc.set dedicatedNodeKey "true" labels else labels
  let labels :=
    if snapshotPublishEnabled node then Assoc.set snapshotPublishLabel "true" labels else labels
  if node.spec.freeze.isSome then Assoc.set frozenLabel "true" labels else labels

/-! ## Placement -/

def Platform.nodepoolForMode (platform : Platform) : ConfigMode → String
  | .archive => platform.nodepoolArchive
  | .validator => platform.nodepoolValidator
  | .seed => platform.nodepoolSeed
  | .full => platform.nodepoolName

def Platform.dedicatedNodepoolForMode (platform : Platform) : ConfigMode → String
  | .archive => platform.dedicatedNodepoolArchive
  | .validator => platform.dedicatedNodepoolValidator
  | .seed => platform.dedicatedNodepoolSeed
  | .full => platform.dedicatedNodepoolName

def nodepoolForMode (platform : Platform) (mode : ConfigMode) (dedicated : Bool) : String :=
  if dedicated && platform.dedicatedNodepoolForMode mode ≠ "" then
    platform.dedicatedNodepoolForMode mode
  else
    platform.nodepoolForMode mode

/-- A requested pool must be selectable or the one the pod runs on. -/
def nodepoolFor (platform : Platform) (node : SeiNode) (dedicated : Bool) : Except String String :=
  let pool := node.requestedNodePool
  if pool ≠ "" then
    if pool ∉ platform.selectableNodepools ∧ pool ≠ node.status.currentNodePool then
      .error ("spec.scheduling.nodePool \"" ++ pool
        ++ "\" is not listed in the app-config's scheduling.selectableNodepools")
    else
      .ok pool
  else
    .ok (nodepoolForMode platform (nodeMode node) dedicated)

inductive SelectorRequirement
  | opIn (key : String) (values : List String)
  | opExists (key : String)
deriving DecidableEq

structure PodAffinityTerm where
  topologyKey : String
  matchExpressions : List SelectorRequirement
deriving DecidableEq

def hostnameTopologyKey : String := "kubernetes.io/hostname"

/-- No pod joins a dedicated one; a dedicated one joins no pod. -/
def buildPodAntiAffinity (dedicated : Bool) : List PodAffinityTerm :=
  ⟨hostnameTopologyKey, [.opIn dedicatedNodeKey ["true"]]⟩ ::
    if dedicated then [⟨hostnameTopologyKey, [.opExists nodeLabel]⟩] else []

/-! ## Footprint -/

structure NodeResourceProfile where
  cpuRequest : String
  memory : String
deriving DecidableEq

def defaultNodeResourceProfiles : NodeRole → NodeResourceProfile
  | .validator => ⟨"16", "128Gi"⟩
  | .node | .replayer => ⟨"32", "256Gi"⟩
  | .archive => ⟨"64", "512Gi"⟩
  | .seed => ⟨"1", "2Gi"⟩

def overrideForRole (platform : Platform) : NodeRole → ResourceOverride
  | .validator => platform.nodeResourcesValidator
  | .archive => platform.nodeResourcesArchive
  | .replayer => platform.nodeResourcesReplayer
  | .seed => platform.nodeResourcesSeed
  | .node => platform.nodeResourcesNode

/-- The white space of `strings.TrimSpace`. -/
def isSpace (c : Char) : Bool :=
  c.toNat ∈ [0x09, 0x0a, 0x0b, 0x0c, 0x0d, 0x20, 0x85, 0xa0, 0x1680, 0x2028, 0x2029, 0x202f,
    0x205f, 0x3000] || (0x2000 ≤ c.toNat && c.toNat ≤ 0x200a)

/-- `firstNonEmpty` of the renderer. -/
def firstNonBlank (first second : String) : String :=
  if first.toList.all isSpace then second else first

/-- `MustParse` does not fail: the overrides are checked at startup. -/
def resolveQuantity (crd : Option Quantity) (override codeDefault : String) : Quantity :=
  crd.getD ⟨firstNonBlank override codeDefault⟩

def resourceCPU : String := "cpu"

def resourceMemory : String := "memory"

def resourcesFrom (node : SeiNode) (resource : String) : Option Quantity :=
  node.spec.resources.bind (·.lookup resource)

/-- Memory is requested and limited alike; the CPU has no limit. -/
def resourcesForNode (platform : Platform) (node : SeiNode) : ResourceRequirements :=
  let role := deriveRole node
  let profile := defaultNodeResourceProfiles role
  let override := overrideForRole platform role
  let cpuRequest :=
    resolveQuantity (resourcesFrom node resourceCPU) override.cpuRequest profile.cpuRequest
  let memory := resolveQuantity (resourcesFrom node resourceMemory) override.memory profile.memory
  { requests := [(resourceCPU, cpuRequest), (resourceMemory, memory)]
    limits := [(resourceMemory, memory)] }

/-! ## Volumes and mounts -/

def homeMountPath : String := "/home/nonroot"

def dataDir : String := homeMountPath ++ "/.sei"

def configPath (dataKey : String) : String :=
  dataDir ++ "/config/" ++ dataKey

def privValidatorKeyDataKey : String := "priv_validator_key.json"

def nodeKeyDataKey : String := "node_key.json"

def configTomlKey : String := "config.toml"

def appTomlKey : String := "app.toml"

def operatorKeyringVolumeName : String := "operator-keyring"

def rbacProxyConfigVolumeName : String := "rbac-proxy-config"

def rbacProxyConfigMountPath : String := "/etc/kube-rbac-proxy"

def keyItem (dataKey : String) : List KeyToPath :=
  [⟨dataKey, dataKey⟩]

/-- A `subPath` mount: the kubelet pins the content at pod start. -/
def configMount (volumeName dataKey : String) : VolumeMount where
  name := volumeName
  mountPath := configPath dataKey
  subPath := dataKey
  readOnly := true

def signingKeySecretSource (node : SeiNode) : Option String :=
  (node.spec.validator.bind ValidatorSpec.signingKey).bind SecretKeySource.secret

def signingKeyVolumes (node : SeiNode) : List Volume :=
  match signingKeySecretSource node with
  | some secretName =>
    [⟨"signing-key", .secret secretName 0o400 (keyItem privValidatorKeyDataKey)⟩]
  | none => []

def signingKeyMounts (node : SeiNode) : List VolumeMount :=
  if (signingKeySecretSource node).isSome then [configMount "signing-key" privValidatorKeyDataKey]
  else []

def nodeKeyVolumes (node : SeiNode) : List Volume :=
  match node.spec.nodeKeySecret with
  | some secretName => [⟨"node-key", .secret secretName 0o400 (keyItem nodeKeyDataKey)⟩]
  | none => []

def nodeKeyMounts (node : SeiNode) : List VolumeMount :=
  if node.spec.nodeKeySecret.isSome then [configMount "node-key" nodeKeyDataKey] else []

def nodeConfigVolume (volumeName configMapName dataKey : String) : Volume :=
  ⟨volumeName, .configMap configMapName (some 0o444) (keyItem dataKey)⟩

def nodeConfigVolumes (node : SeiNode) : List Volume :=
  match node.spec.nodeConfig with
  | some cfg =>
    [nodeConfigVolume "node-config-config" cfg.configRef configTomlKey,
      nodeConfigVolume "node-config-app" cfg.appRef appTomlKey]
  | none => []

def nodeConfigMounts (node : SeiNode) : List VolumeMount :=
  if node.spec.nodeConfig.isSome then
    [configMount "node-config-config" configTomlKey, configMount "node-config-app" appTomlKey]
  else
    []

def operatorKeyringSecretSource (node : SeiNode) : Option SecretOperatorKeyringSource :=
  (node.spec.validator.bind ValidatorSpec.operatorKeyring).bind OperatorKeyringSource.secret

def operatorKeyringSeidMountEnabled (node : SeiNode) : Bool :=
  (operatorKeyringSecretSource node).any SecretOperatorKeyringSource.seidMount

def operatorKeyringVolumes (node : SeiNode) : List Volume :=
  match operatorKeyringSecretSource node with
  | some source => [⟨operatorKeyringVolumeName, .secret source.secretName 0o400 []⟩]
  | none => []

def operatorKeyringMounts (node : SeiNode) : List VolumeMount :=
  if (operatorKeyringSecretSource node).isSome then
    [{ name := operatorKeyringVolumeName
       mountPath := dataDir ++ "/keyring-file"
       readOnly := true }]
  else
    []

/-- A validator's keyring: the file backend of its Secret, or the test backend on the
data volume. -/
def operatorKeyringEnvVars (node : SeiNode) : List EnvVar :=
  if node.spec.validator.isNone then []
  else
    match operatorKeyringSecretSource node with
    | none =>
      [{ name := "SEI_KEYRING_BACKEND", value := "test" },
        { name := "SEI_KEYRING_DIR", value := dataDir }]
    | some source =>
      [{ name := "SEI_KEYRING_BACKEND", value := "file" },
        { name := "SEI_KEYRING_DIR", value := dataDir },
        { name := "SEI_KEYRING_PASSPHRASE"
          secretKeyRef := some (source.passphraseSecretName, source.passphraseSecretKey) }]

/-! ## Probes -/

def rbacProxyPort : Int := 8443

def pathHealthz : String := "/v0/healthz"

def pathLivez : String := "/v0/livez"

def proxyStartupProbe : Probe where
  handler := .tcpSocket rbacProxyPort
  initialDelaySeconds := 5
  periodSeconds := 5
  failureThreshold := 60

def proxyLivenessProbe : Probe where
  handler := .httpGet pathLivez rbacProxyPort
  initialDelaySeconds := 5
  periodSeconds := 10
  failureThreshold := 3

def proxyReadinessProbe : Probe where
  handler := .httpGet pathHealthz rbacProxyPort
  initialDelaySeconds := 2
  periodSeconds := 5
  failureThreshold := 6

def readinessProbe (handler : ProbeHandler) : Probe where
  handler := handler
  initialDelaySeconds := 30
  periodSeconds := 10
  failureThreshold := 3
  timeoutSeconds := 5

/-- How the kubelet asks what the sidecar's up-check asks. -/
def SeidPorts.upCheck (ports : SeidPorts) : UpCheck → ProbeHandler
  | .evmRoot => .httpGet "/" ports.evmHTTP
  | .p2p => .tcpSocket ports.p2p
  | .rpcStatus => .httpGet "/status" ports.rpc
  | .custom scheme port path => if scheme = "tcp" then .tcpSocket port else .httpGet path port

/-- A frozen node's lag is constant, so it is not asked for. -/
def readinessProbeForNode (platform : Platform) (node : SeiNode) : Probe :=
  if servesSeidRPC node && node.spec.freeze.isNone then
    readinessProbe (.httpGet "/lag_status" platform.ports.rpc)
  else
    readinessProbe (platform.ports.upCheck (upCheckForNode node))

def needsLongStartup (node : SeiNode) : Bool :=
  match node.spec.fullNode, node.spec.validator with
  | some full, _ => full.snapshot.isSome
  | none, some validator => validator.snapshot.isSome
  | none, none => node.spec.replayer.isSome || node.spec.archive.isSome

/-! ## Containers -/

def containerNameSeid : String := "seid"

def containerNameSidecar : String := "sei-sidecar"

def containerNameRBACProxy : String := "kube-rbac-proxy"

def containerNameCosmosExporter : String := "cosmos-exporter"

def dataMount : VolumeMount := { name := "data", mountPath := dataDir }

def homeMount : VolumeMount := { name := "home", mountPath := homeMountPath }

def sidecarTmpMount : VolumeMount := { name := "sidecar-tmp", mountPath := "/tmp" }

def homeEnv : EnvVar := { name := "HOME", value := homeMountPath }

def sidecarNonRootUID : Nat := 65532

def seidNonRootSecurityContext : SecurityContext where
  runAsNonRoot := true
  runAsUser := sidecarNonRootUID
  runAsGroup := sidecarNonRootUID
  allowPrivilegeEscalation := false
  readOnlyRootFilesystem := none
  capabilitiesDrop := ["ALL"]
  seccompRuntimeDefault := true

def sidecarSecurityContext : SecurityContext :=
  { seidNonRootSecurityContext with readOnlyRootFilesystem := some true }

def sidecarPort (platform : Platform) (node : SeiNode) : Int :=
  match node.spec.sidecar with
  | some sidecar => if sidecar.port ≠ 0 then sidecar.port else platform.ports.sidecar
  | none => platform.ports.sidecar

def validatorKeyringBackend (node : SeiNode) : String :=
  if (operatorKeyringSecretSource node).isSome then "file" else "test"

/-- Shell text that sets the keyring backend in `client.toml`. -/
def clientTomlKeyringBackendWrite (dir backend : String) : String :=
  let line := "keyring-backend = \"" ++ backend ++ "\""
  "CLIENT_TOML=\"" ++ dir ++ "/config/client.toml\" && if [ -f \"$CLIENT_TOML\" ] && "
    ++ "grep -q '^keyring-backend[[:space:]]*=' \"$CLIENT_TOML\"; then "
    ++ "sed -i 's#^keyring-backend[[:space:]]*=.*#" ++ line ++ "#' \"$CLIENT_TOML\"; else "
    ++ "mkdir -p \"" ++ dir ++ "/config\" && echo '" ++ line ++ "' >> \"$CLIENT_TOML\"; fi"

def buildSeidInitContainer (node : SeiNode) : Container :=
  let script :=
    "if [ -f \"" ++ dataDir ++ "/config/genesis.json\" ]; then "
      ++ "echo \"data directory already initialized, skipping seid init\"; else "
      ++ "seid init " ++ node.spec.chainID ++ " --chain-id " ++ node.spec.chainID
      ++ " --home \"" ++ dataDir ++ "\" --overwrite; fi && mkdir -p \"" ++ dataDir ++ "/tmp\""
  let script :=
    if node.spec.validator.isSome then
      script ++ " && " ++ clientTomlKeyringBackendWrite dataDir (validatorKeyringBackend node)
    else
      script
  { name := "seid-init"
    image := node.spec.image
    command := ["/bin/sh", "-c", script]
    env := [homeEnv]
    volumeMounts := [dataMount, homeMount]
    securityContext := seidNonRootSecurityContext }

def sidecarEnv (platform : Platform) (node : SeiNode) : List EnvVar :=
  [{ name := "SEI_CHAIN_ID", value := node.spec.chainID },
    { name := "SEI_SIDECAR_PORT", value := GoInt.formatInt (sidecarPort platform node) },
    { name := "SEI_HOME", value := dataDir },
    homeEnv,
    { name := "SEI_GENESIS_BUCKET", value := platform.genesisBucket },
    { name := "SEI_GENESIS_REGION", value := platform.genesisRegion },
    { name := "SEI_SNAPSHOT_BUCKET", value := platform.snapshotBucket },
    { name := "SEI_SNAPSHOT_REGION", value := platform.snapshotRegion },
    { name := "SEI_SIDECAR_AUTHN_MODE", value := "trusted-header" }]
    ++ operatorKeyringEnvVars node

def sidecarResources (node : SeiNode) : ResourceRequirements :=
  (node.spec.sidecar.bind SidecarConfig.resources).getD {}

def buildSidecarContainer (platform : Platform) (node : SeiNode) : Container where
  name := containerNameSidecar
  image := effectiveSidecarImage platform node
  restartAlways := true
  env := sidecarEnv platform node
  ports := [⟨"sidecar", sidecarPort platform node⟩]
  volumeMounts :=
    [homeMount, dataMount, sidecarTmpMount] ++ operatorKeyringMounts node ++ nodeConfigMounts node
  resources := sidecarResources node
  securityContext := sidecarSecurityContext

/-- The proxy asks for no token on these paths. -/
def bypassPaths : List String :=
  [pathHealthz, "/v0/startupz", pathLivez, "/v0/metrics"]

def buildRBACProxyContainer (platform : Platform) (node : SeiNode) : Container where
  name := containerNameRBACProxy
  image := platform.kubeRBACProxyImage
  restartAlways := true
  args :=
    ["--insecure-listen-address=0.0.0.0:" ++ GoInt.formatInt rbacProxyPort,
      "--upstream=http://127.0.0.1:" ++ GoInt.formatInt (sidecarPort platform node) ++ "/",
      "--config-file=" ++ rbacProxyConfigMountPath ++ "/config.yaml",
      "--ignore-paths=" ++ ",".intercalate bypassPaths,
      "--auth-header-fields-enabled=true",
      "--v=0"]
  ports := [⟨"api", rbacProxyPort⟩]
  volumeMounts :=
    [{ name := rbacProxyConfigVolumeName, mountPath := rbacProxyConfigMountPath, readOnly := true }]
  startupProbe := some proxyStartupProbe
  livenessProbe := some proxyLivenessProbe
  readinessProbe := some proxyReadinessProbe
  securityContext := sidecarSecurityContext

def seidStartArgs : List String :=
  ["start", "--home", dataDir]

def execLine (command : String) (args : List String) : String :=
  command ++ String.join (args.map fun arg => " " ++ GoText.quote (fun _ => true) arg)

def sidecarWaitCommand (platform : Platform) (node : SeiNode) : List String × List String :=
  (["/bin/bash", "-c"],
    ["echo \"waiting for sidecar to become ready...\"; while true; do "
      ++ "if (exec 3<>/dev/tcp/localhost/" ++ GoInt.formatInt (sidecarPort platform node)
      ++ " && printf \"GET /v0/healthz HTTP/1.0\\r\\nHost: localhost\\r\\n\\r\\n\" >&3"
      ++ " && head -1 <&3 | grep -q \"200\") 2>/dev/null; then break; fi; sleep 5; done; "
      ++ "echo \"sidecar ready, starting seid\"; exec " ++ execLine "seid" seidStartArgs])

def containerPorts (platform : Platform) : List ContainerPort :=
  platform.ports.nodePorts.map fun port => ⟨port.1, port.2⟩

def buildNodeMainContainer (platform : Platform) (node : SeiNode) : Container where
  name := containerNameSeid
  image := node.spec.image
  securityContext := seidNonRootSecurityContext
  env :=
    [homeEnv, { name := "TMPDIR", value := dataDir ++ "/tmp" }]
      ++ (if operatorKeyringSeidMountEnabled node then operatorKeyringEnvVars node else [])
  command := ["seid"]
  args := seidStartArgs
  volumeMounts :=
    [dataMount, homeMount] ++ signingKeyMounts node ++ nodeKeyMounts node ++ nodeConfigMounts node
      ++ (if operatorKeyringSeidMountEnabled node then operatorKeyringMounts node else [])
  ports := containerPorts platform
  startupProbe :=
    some
      { handler := .tcpSocket platform.ports.rpc
        initialDelaySeconds := 10
        periodSeconds := 10
        failureThreshold := if needsLongStartup node then 1800 else 30 }

/-- The soft memory limit of a node without RPC, in 64-bit arithmetic. -/
def goMemLimitEnv (platform : Platform) (node : SeiNode) (resources : ResourceRequirements) :
    List EnvVar :=
  if servesSeidRPC node then []
  else
    match resources.limits.lookup resourceMemory with
    | none => []
    | some limit =>
      let soft := (Int.bmod (platform.quantityValue limit * 87) (2 ^ 64)).tdiv 100
      if soft ≤ 0 then []
      else [{ name := "GOMEMLIMIT", value := GoInt.formatInt soft ++ "B" }]

def buildSidecarMainContainer (platform : Platform) (node : SeiNode) : Container :=
  let container := buildNodeMainContainer platform node
  let resources := resourcesForNode platform node
  { container with
    command := (sidecarWaitCommand platform node).1
    args := (sidecarWaitCommand platform node).2
    resources
    env := container.env ++ goMemLimitEnv platform node resources
    startupProbe :=
      some
        { handler := .httpGet pathHealthz rbacProxyPort
          initialDelaySeconds := 5
          periodSeconds := 5
          failureThreshold := 86400 }
    readinessProbe := some (readinessProbeForNode platform node) }

def defaultCosmosExporterPort : Int := 9300

/-- Shell text that waits for seid's gRPC port and then starts the exporter. -/
def cosmosExporterWaitCommand (platform : Platform) : List String × List String :=
  let grpc := GoInt.formatInt platform.ports.grpc
  (["/bin/bash", "-c"],
    ["echo \"waiting for gRPC :" ++ grpc ++ " to be available...\"; "
      ++ "until (exec 3<>/dev/tcp/localhost/" ++ grpc ++ ") 2>/dev/null; do sleep 5; done; "
      ++ "echo \"gRPC available, starting cosmos-exporter\"; exec "
      ++ execLine "/usr/local/bin/sei-cosmos-exporter"
        ["--denom", "usei", "--denom-coefficient", "1000000", "--bech-prefix", "sei",
          "--listen-address", ":" ++ GoInt.formatInt defaultCosmosExporterPort]])

def defaultCosmosExporterResources : ResourceRequirements where
  requests := [(resourceCPU, ⟨"50m"⟩), (resourceMemory, ⟨"64Mi"⟩)]
  limits := [(resourceMemory, ⟨"384Mi"⟩)]

def buildCosmosExporterContainer (platform : Platform) : Container where
  name := containerNameCosmosExporter
  image := platform.cosmosExporterImage
  command := (cosmosExporterWaitCommand platform).1
  args := (cosmosExporterWaitCommand platform).2
  ports := [⟨"cosmos-metrics", defaultCosmosExporterPort⟩]
  securityContext := sidecarSecurityContext
  resources := defaultCosmosExporterResources
  volumeMounts := [sidecarTmpMount]
  readinessProbe :=
    some
      { handler := .tcpSocket defaultCosmosExporterPort
        periodSeconds := 10
        failureThreshold := 6 }
  livenessProbe :=
    some
      { handler := .tcpSocket defaultCosmosExporterPort
        initialDelaySeconds := 600
        periodSeconds := 10
        failureThreshold := 3 }

end SeiController
