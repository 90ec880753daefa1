import SeiController.Lib.GoInt
import SeiController.Lib.Program
import SeiController.Api.Network
import SeiController.Task.Env
import SeiController.Planner.Build

/-!
# The genesis ceremony of a SeiNetwork

The network controller's reconcile as far as it touches the founding validators, as a
program over its calls.  Status changes stay in memory until the one status patch at the
end.
-/

set_option autoImplicit false

namespace SeiController.Ceremony

/-! ## Objects -/

structure OwnerReference where
  kind : String
  name : String
  uid : String
  controller : Bool

/-- A SeiNode with the metadata the network controller goes by. -/
structure ChildNode extends SeiNode where
  labels : List (String × String) := []
  annotations : List (String × String) := []
  ownerReferences : List OwnerReference := []
  /-- `spec.validator.genesisCeremony.index`. -/
  ceremonyIndex : Nat := 0

inductive DeletionPolicy
  | unset | delete | retain

structure NetworkSpec where
  chainID : String := ""
  stakingAmount : String := ""
  accountBalance : String := ""
  accounts : List GenesisAccountEntry := []
  /-- Raw JSON; empty is none. -/
  consensusParams : String := ""
  replicas : Int := 0
  paused : Bool := false
  deletionPolicy : DeletionPolicy := .unset
  image : String := ""
  configOverrides : List (String × String) := []
  configValues : List ConfigValue := []
  sidecar : Option SidecarConfig := none
  scheduling : Option SchedulingConfig := none
  consensus : Option NetworkConsensusSpec := none
  executionEngine : Option ExecutionEngineSpec := none
  dataVolume : Option DataVolumeSpec := none
  resources : Option (List (String × Quantity)) := none
  podLabels : List (String × String) := []

inductive PlanReason
  | notStarted | planStarted | planComplete | planFailed | validatorLost
deriving DecidableEq

inductive CeremonyReason
  | notStarted | inProgress | ceremonyFailed | validatorLost | complete | adoptedSet
deriving DecidableEq

inductive ConfigValuesReason
  | valid | invalidConfigValues
deriving DecidableEq

structure NetworkStatus where
  plan : Option TaskPlan := none
  incumbentNodes : List String := []
  planInProgress : Option (Condition PlanReason) := none
  genesisCeremonyComplete : Option (Condition CeremonyReason) := none
  configValuesValid : Option (Condition ConfigValuesReason) := none
deriving DecidableEq

structure Network where
  name : String
  nameSpace : String
  uid : String
  creationTimestamp : Nat
  deletionTimestamp : Option Nat := none
  finalizer : Bool := false
  spec : NetworkSpec := {}
  status : NetworkStatus := {}

def conditionTrue {reason : Type} (condition : Option (Condition reason)) : Bool :=
  match condition with
  | some condition => condition.status == .conditionTrue
  | none => false

namespace Network

def ceremonyComplete (network : Network) : Bool :=
  conditionTrue network.status.genesisCeremonyComplete

def planInProgress (network : Network) : Bool :=
  conditionTrue network.status.planInProgress

def setCeremony (network : Network) (status : ConditionStatus) (reason : CeremonyReason)
    (message : String) : Network :=
  { network with
    status := { network.status with genesisCeremonyComplete := some ⟨status, reason, message⟩ } }

def dropPlan (network : Network) (reason : PlanReason) (message : String) : Network :=
  { network with status := { network.status with
      plan := none
      planInProgress := some ⟨.conditionFalse, reason, message⟩ } }

end Network

/-! ## Calls -/

/-- What the response to a patch of the network brings that others may have changed. -/
structure Refreshed where
  spec : NetworkSpec
  deletionTimestamp : Option Nat

def Network.refresh (network : Network) (response : Refreshed) : Network :=
  { network with spec := response.spec, deletionTimestamp := response.deletionTimestamp }

inductive Call
  | listNodes
  | getNode (name : String)
  | createNode (node : ChildNode)
  | updateNode (node : ChildNode)
  | deleteNode (name : String)
  /-- The patch of a child's owner references and annotations, as it leaves the child. -/
  | retain (node : ChildNode)
  /-- The executor's pass over a plan; the reply is the plan as it leaves it. -/
  | executePlan (plan : TaskPlan)
  | internalService
  | patchFinalizer (network : Network) (present : Bool)
  | patchStatus (status : NetworkStatus)

@[reducible] def Value : Call → Type
  | .listNodes => List ChildNode
  | .getNode _ => ChildNode
  | .executePlan _ => TaskPlan
  | .patchFinalizer _ _ | .patchStatus _ => Refreshed
  | _ => Unit

abbrev Reply (call : Call) : Type := Except KubeError (Value call)

abbrev Run := Program Call Reply String

def errorText : KubeError → String
  | .notFound => "not found"
  | .other message => message

def attempt (call : Call) : Run (Value call) := do
  match ← Program.perform call with
  | .ok value => pure value
  | .error err => .fail (errorText err)

def deleteIgnoringNotFound (node : ChildNode) : Run Unit := do
  match ← Program.perform (.deleteNode node.name) with
  | .ok _ | .error .notFound => pure ()
  | .error (.other message) => .fail message

/-! ## Children -/

def groupLabel : String := "sei.io/nodedeployment"
def seinetworkLabel : String := "sei.io/seinetwork"
def seinetworkOrdinalLabel : String := "sei.io/seinetwork-ordinal"

def seiNodeName (network : Network) (ordinal : Nat) : String :=
  network.name ++ "-" ++ GoInt.formatInt ordinal

def seiNodeLabels (network : Network) (ordinal : Nat) : List (String × String) :=
  [("sei.io/chain", network.spec.chainID), (groupLabel, network.name),
    ("sei.io/nodedeployment-ordinal", GoInt.formatInt ordinal), ("sei.io/role", "validator"),
    (seinetworkLabel, network.name), (seinetworkOrdinalLabel, GoInt.formatInt ordinal)]

def Network.controllerRef (network : Network) : OwnerReference :=
  ⟨"SeiNetwork", network.name, network.uid, true⟩

/-- A reference to the same owner, by kind and name, is replaced. -/
def upsertOwnerRef (ref : OwnerReference) : List OwnerReference → List OwnerReference
  | [] => [ref]
  | other :: rest =>
    if other.kind == ref.kind && other.name == ref.name then ref :: rest
    else other :: upsertOwnerRef ref rest

def ChildNode.controller (node : ChildNode) : Option OwnerReference :=
  node.ownerReferences.find? (·.controller)

def ChildNode.controlledBy (node : ChildNode) (network : Network) : Bool :=
  match node.controller with
  | some controller => controller.uid == network.uid
  | none => false

def generateSeiNode (network : Network) (ordinal : Nat) : ChildNode where
  name := seiNodeName network ordinal
  nameSpace := network.nameSpace
  labels := seiNodeLabels network ordinal
  ceremonyIndex := ordinal
  spec := {
    chainID := network.spec.chainID
    image := network.spec.image
    overrides := network.spec.configOverrides
    configValues := network.spec.configValues
    sidecar := network.spec.sidecar
    scheduling := network.spec.scheduling
    consensus := network.spec.consensus.map NetworkConsensusSpec.node
    executionEngine := network.spec.executionEngine
    dataVolume := network.spec.dataVolume
    resources := network.spec.resources
    podLabels := Assoc.set seinetworkLabel network.name
      (Assoc.set groupLabel network.name network.spec.podLabels)
    paused := network.spec.paused
    validator := some {
      snapshot := none
      genesisCeremony := some
        ⟨network.spec.chainID, network.spec.stakingAmount, network.spec.accountBalance⟩
      signingKey := none
      nodeKey := none
      operatorKeyring := none } }

def seinetworkSelector (network : Network) (node : ChildNode) : Bool :=
  Assoc.get seinetworkLabel node.labels == some network.name

def ChildNode.childOf (node : ChildNode) (network : Network) : Bool :=
  seinetworkSelector network node && node.controlledBy network

def listChildSeiNodes (network : Network) : Run (List ChildNode) := do
  let nodes ← attempt .listNodes
  pure (nodes.filter (·.childOf network))

def configValuesRejected (network : Network) : Bool :=
  match network.status.configValuesValid with
  | some condition => condition.status == .conditionFalse
  | none => false

/-- The existing child with the fields that follow the network.  Identity, peers, data
volume, resources and consensus are fixed when the child is created. -/
def syncedSeiNode (network : Network) (existing desired : ChildNode) : ChildNode :=
  { existing with
    ownerReferences :=
      if existing.controller.isSome then existing.ownerReferences
      else upsertOwnerRef network.controllerRef existing.ownerReferences
    labels := desired.labels
    annotations := desired.annotations
    spec := { existing.spec with
      image := desired.spec.image
      sidecar := desired.spec.sidecar
      scheduling := desired.spec.scheduling
      podLabels := desired.spec.podLabels
      overrides := desired.spec.overrides
      configValues :=
        if configValuesRejected network then existing.spec.configValues
        else desired.spec.configValues } }

def followed (node : ChildNode) :=
  (node.labels, node.annotations, node.spec.image, node.spec.sidecar, node.spec.scheduling,
    node.spec.podLabels, node.spec.overrides,
    node.spec.configValues.map fun value => (value.fileName, value.key, value.value))

def desiredSeiNode (network : Network) (ordinal : Nat) : ChildNode :=
  let generated := generateSeiNode network ordinal
  if configValuesRejected network then
    { generated with spec := { generated.spec with configValues := [] } }
  else generated

def ensureSeiNode (network : Network) (ordinal : Nat) : Run Unit := do
  let desired := desiredSeiNode network ordinal
  match ← Program.perform (Call.getNode desired.name) with
  | .error .notFound =>
    attempt (.createNode { desired with ownerReferences := [network.controllerRef] })
  | .error (.other message) => .fail message
  | .ok existing =>
    -- A terminating child is left alone until it is collected.
    if existing.deletionTimestamp.isSome then pure ()
    else
      match existing.controller.filter (·.uid != network.uid) with
      | some controller =>
        .fail ("SeiNode " ++ existing.name ++ " is controlled by " ++ controller.kind ++ " "
          ++ controller.name ++ " (uid " ++ controller.uid ++ "), so this SeiNetwork (uid "
          ++ network.uid ++ ") will not adopt it")
      | none =>
        let synced := syncedSeiNode network existing desired
        if existing.controller.isSome && followed existing == followed synced then pure ()
        else attempt (.updateNode synced)

/-- The leading digits `Sscanf` reads from a label value. -/
def scanOrdinal (label : String) : Option Int :=
  GoInt.parseInt (String.ofList (label.toList.takeWhile Char.isDigit))

def beyondReplicas (network : Network) (node : ChildNode) : Bool :=
  match (Assoc.get seinetworkOrdinalLabel node.labels).bind scanOrdinal with
  | some ordinal => network.spec.replicas ≤ ordinal
  | none => false

def scaleDown (network : Network) : Run Unit := do
  if network.spec.replicas ≤ 0 then pure ()
  else
    let nodes ← listChildSeiNodes network
    (nodes.filter (beyondReplicas network)).forM deleteIgnoringNotFound

def populateIncumbentNodes (network : Network) : Run Network := do
  let nodes ← listChildSeiNodes network
  let names := (nodes.filter (·.deletionTimestamp.isNone)).map (·.name)
  pure { network with status := { network.status with incumbentNodes := names } }

def reconcileSeiNodes (network : Network) : Run Network := do
  if network.deletionTimestamp.isSome || network.spec.paused || network.planInProgress then
    populateIncumbentNodes network
  else
    (List.range network.spec.replicas.toNat).forM (ensureSeiNode network)
    scaleDown network
    populateIncumbentNodes network

def retainReason : String :=
  "SeiNetwork deleted with deletionPolicy=Retain; the data volume holds the "
    ++ "ceremony-generated consensus identity, which cannot be regenerated"

def retain (network : Network) (node : ChildNode) : ChildNode :=
  { node with
    ownerReferences := node.ownerReferences.filter (·.uid != network.uid)
    annotations := Assoc.set "sei.io/retain-reason" retainReason
      (Assoc.set "sei.io/retained-from-seinetwork" network.name node.annotations) }

def syncPausedToChildren (network : Network) : Run Unit := do
  let children ← listChildSeiNodes network
  let desired := network.spec.paused
  (children.filter (·.spec.paused != desired)).forM fun child =>
    attempt (.updateNode { child with spec := { child.spec with paused := desired } })

/-! ## Conditions -/

def setGenesisCeremonyCondition (network : Network) : Network :=
  if network.ceremonyComplete then network
  else if network.planInProgress then
    network.setCeremony .conditionFalse .inProgress
      "genesis ceremony is executing under an active plan"
  else
    match network.status.genesisCeremonyComplete with
    | some { reason := .ceremonyFailed, .. } | some { reason := .validatorLost, .. } => network
    | _ => network.setCeremony .conditionFalse .notStarted "genesis ceremony has not yet started"

def setConfigValuesValidCondition (network : Network) : Network :=
  let condition : Condition ConfigValuesReason :=
    match configValuesOverlay network.spec.configValues with
    | .ok _ => ⟨.conditionTrue, .valid,
        GoInt.formatInt network.spec.configValues.length ++ " config values build a TOML overlay"⟩
    | .error err => ⟨.conditionFalse, .invalidConfigValues, err⟩
  { network with status := { network.status with configValuesValid := some condition } }

def seedAlwaysPresentConditions (network : Network) : Network :=
  let network := setConfigValuesValidCondition (setGenesisCeremonyCondition network)
  match network.status.planInProgress with
  | some _ => network
  | none => { network with status := { network.status with
      planInProgress := some ⟨.conditionFalse, .notStarted, "no plan has run yet"⟩ } }

/-! ## The ceremony plan -/

structure Env where
  /-- A fresh UUID. -/
  planID : String
  checks : ClientChecks

def needsGenesisPlan (network : Network) : Bool :=
  network.status.plan.isNone && !network.ceremonyComplete
    && network.spec.replicas ≤ network.status.incumbentNodes.length

def assembleParams (network : Network) : AssembleAndUploadGenesisTask where
  accountBalance := network.spec.accountBalance
  nameSpace := network.nameSpace
  nodes := network.status.incumbentNodes
  accounts := network.spec.accounts
  consensusParams := network.spec.consensusParams
  autobahn := NetworkConsensusSpec.isAutobahn network.spec.consensus
  autobahnConfig := (network.spec.consensus.bind NetworkConsensusSpec.autobahn).map fun settings =>
    ⟨settings.blockInterval, settings.maxTxsPerBlock⟩

def buildPlan (env : Env) (network : Network) : Except String TaskPlan :=
  let params := assembleParams network
  match params.validate env.checks with
  | some err => .error err
  | none => .ok {
      id := env.planID
      phase := .active
      tasks := [buildPlannedTask env.planID .assembleGenesis 0 (.assembleGenesis params),
        buildPlannedTask env.planID .collectAndSetPeers 1 .other,
        buildPlannedTask env.planID .awaitNodesRunning 2 .other]
      targetPhase := .empty
      configValuesHash := ""
      failedPhase := .empty
      failedTaskIndex := none
      failedTaskDetail := none }

def startPlan (network : Network) (plan : TaskPlan) : Network :=
  { network with status := { network.status with
      plan := some plan
      planInProgress := some ⟨.conditionTrue, .planStarted, "Plan execution started"⟩ } }

def completePlan (network : Network) : Network :=
  (network.setCeremony .conditionTrue .complete "genesis ceremony completed").dropPlan
    .planComplete "Plan completed successfully"

def failPlan (network : Network) : Network :=
  (network.setCeremony .conditionFalse .ceremonyFailed "genesis ceremony plan failed").dropPlan
    .planFailed "Plan failed"

def drivePlan (network : Network) (plan : TaskPlan) : Run Network := do
  let plan ← attempt (.executePlan plan)
  let network := { network with status := { network.status with plan := some plan } }
  match plan.phase with
  | .complete => pure (completePlan network)
  | .failed => pure (failPlan network)
  | .active => pure network

def validatorLost (network : Network) : Bool :=
  network.status.incumbentNodes.length < network.spec.replicas

def abandonPlanForLostValidator (network : Network) (plan : TaskPlan) : Run Network := do
  let survivors ← listChildSeiNodes network
  let present := GoInt.formatInt network.status.incumbentNodes.length ++ " of "
    ++ GoInt.formatInt network.spec.replicas
  let message := "Plan abandoned: a founding validator was deleted during the genesis ceremony"
  -- A survivor older than the network was adopted, not minted by it.
  if survivors.all fun node => network.creationTimestamp ≤ node.creationTimestamp then
    let doomed := survivors.filter (·.deletionTimestamp.isNone)
    doomed.forM deleteIgnoringNotFound
    pure ((network.setCeremony .conditionFalse .validatorLost (present
      ++ " founding validators present; plan " ++ plan.id ++ " abandoned, "
      ++ GoInt.formatInt doomed.length ++ " surviving founding SeiNodes deleted, the genesis "
      ++ "ceremony restarts once the set is recreated")).dropPlan .validatorLost message)
  else
    pure ((network.setCeremony .conditionTrue .adoptedSet (present
      ++ " validators present; plan " ++ plan.id ++ " abandoned, adopted validators are kept, the "
      ++ "ceremony is not rebuilt and the missing node is recreated with a fresh identity that "
      ++ "the existing genesis does not name (its validator slot is not restored)")).dropPlan
      .validatorLost message)

def reconcilePlan (env : Env) (network : Network) : Run Network := do
  if network.spec.paused then pure network
  else
    match network.status.plan.filter fun plan => plan.phase == .active with
    | some plan =>
      if validatorLost network then abandonPlanForLostValidator network plan
      else drivePlan network plan
    | none =>
      if needsGenesisPlan network then
        match buildPlan env network with
        | .ok plan => pure (startPlan network plan)
        | .error err => .fail err
      else pure network

/-! ## Reconcile -/

def updateStatus (network : Network) : Run Unit := do
  let _ ← listChildSeiNodes network
  let _ ← attempt (.patchStatus network.status)

def ensureFinalizer (network : Network) : Run Network := do
  if network.finalizer then pure network
  else
    let response ← attempt (.patchFinalizer network true)
    pure { network.refresh response with finalizer := true }

def handleDeletion (network : Network) : Run Unit := do
  if !network.finalizer then pure ()
  else
    let response ← attempt (.patchStatus network.status)
    let network := network.refresh response
    match network.spec.deletionPolicy with
    | .unset | .delete => pure ()
    | .retain =>
      let nodes ← listChildSeiNodes network
      nodes.forM fun node => attempt (.retain (retain network node))
      attempt .internalService
    let _ ← attempt (.patchFinalizer network false)

def reconcile (env : Env) (network : Network) : Run Unit := do
  if network.deletionTimestamp.isSome then handleDeletion network
  else
    let base ← ensureFinalizer network
    let network := seedAlwaysPresentConditions base
    syncPausedToChildren network
    attempt .internalService
    let network ← reconcileSeiNodes network
    let network ← reconcilePlan env network
    updateStatus network

end SeiController.Ceremony
