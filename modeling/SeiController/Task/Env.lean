import SeiController.Api.Cluster
import SeiController.Task.Validate

/-!
# What a reconcile calls

The executor and the controllers reach the sidecar and the API server through an
`Env`: one function per call, over a hidden state `ε`.  Nothing is assumed of it, so
a statement about every `Env` covers every answer, failure and change made by
others between two calls.
-/

set_option autoImplicit false

namespace SeiController

structure TaskRequest where
  id : TaskID
  type : TaskType
  params : TaskParams
deriving DecidableEq

inductive SidecarTaskStatus
  | running | completed | failed
deriving DecidableEq

structure TaskResult where
  status : SidecarTaskStatus
  error : Option String
deriving DecidableEq

inductive GetTaskError
  | notFound
  | other (message : String)
deriving DecidableEq

inductive KubeError
  | notFound
  | other (message : String)
deriving DecidableEq

/-- How a controller-side task's `Execute` and `Status` end. -/
inductive ControllerOutcome
  | complete
  | waiting
  | failed (message : String)
  | transient (message : String)
  | terminal (message : String)
deriving DecidableEq

/-- What a sign-tx result says of the transaction's inclusion. -/
inductive InclusionStatus
  | pending | committedFailed | other
deriving DecidableEq

structure Env (ε : Type) where
  now : ε → Nat
  newUUID : ε → ε × String
  checks : ClientChecks
  buildSidecarClient : ε → SeiNode → ε × Option String
  submitTask : ε → TaskRequest → ε × Option String
  getTask : ε → TaskID → ε × Except GetTaskError TaskResult
  /-- The structured result the last poll of a sign-tx task carried, if any. -/
  inclusionStatus : ε → TaskID → Option InclusionStatus
  healthz : ε → ε × Except String Bool
  getStatefulSet : ε → SeiNode → ε × Except KubeError StatefulSet
  /-- The controller-side tasks that write no modelled field. -/
  runControllerTask : ε → TaskType → SeiNode → ε × ControllerOutcome
  /-- The uncached read of the SeiNode of that name and namespace. -/
  getSeiNode : ε → String → String → ε × Except KubeError SeiNode
  /-- The server-side apply of `spec.image` on the SeiNode. -/
  patchImage : ε → SeiNode → String → ε × Option String
  validateImport : ε → SeiNode → String → ε × ControllerOutcome
  volumeAttributesClassHold : ε → SeiNode → Option String
  storageRequest : ε → SeiNode → Nat
  /-- What others did to the claims before a call on them is served, and the
  error the call ends with instead of being served. -/
  claimCall : ε → List PersistentVolumeClaim → ε × List PersistentVolumeClaim × Option String
  listSeiNodes : ε → ε × Except String (List SeiNode)
  canonicalSyncers : ε → ε × Except String (List String)
  reconcileStatefulSet : ε → SeiNode → ε × Except String (Option String)
  resolvePeers : ε → SeiNode → ε × Except String (List String)
  podNodeIsolation : ε → SeiNode → ε × Except String NodeIsolation
  /-- A write of one object's status or metadata: `none` when it lands. -/
  write : ε → ε × Option String
  /-- A read that can fail. -/
  read : ε → ε × Option String

inductive Origin
  | nodePlan (plan : TaskPlan)
  | workflow (uid : String) (plan : TaskPlan)
  | nodeTask (name : String)

/-- What a run did that the statements speak about.  The node is the object the
call was made for, as it stood in memory at that moment. -/
inductive Event
  | stored (node : SeiNode) (plan : TaskPlan)
  | persisted (node : SeiNode)
  | submitted (origin : Origin) (task : PlannedTask) (node : SeiNode) (accepted : Bool)
  | observed (origin : Origin) (task : PlannedTask) (result : Except GetTaskError TaskResult)
  | executed (origin : Origin) (task : PlannedTask) (before after : SeiNode)
  | claimCreated (node : SeiNode) (claim : PersistentVolumeClaim)
  | claimPatched (node : SeiNode) (before after : PersistentVolumeClaim)
  | claimDeleted (node : SeiNode) (claim : PersistentVolumeClaim)
  | forced (workflow : String)

/-- The in-memory node of a reconcile with the state around it; the log is newest
first. -/
structure Ctx (ε : Type) where
  node : SeiNode
  claims : List PersistentVolumeClaim
  env : ε
  log : List Event

def quietChecks : ClientChecks where
  validateIntent _ := none
  bech32 _ := .ok "sei"
  parseDuration _ := .ok 1
  unmarshalObject _ := none
  isPrint _ := true

/-- An environment in which every call succeeds and nobody interferes. -/
def quietEnv {ε : Type} : Env ε where
  now _ := 0
  newUUID state := (state, "uuid")
  checks := quietChecks
  buildSidecarClient state _ := (state, none)
  submitTask state _ := (state, none)
  getTask state _ := (state, .ok ⟨.completed, none⟩)
  inclusionStatus _ _ := none
  healthz state := (state, .ok false)
  getStatefulSet state _ := (state, .error .notFound)
  runControllerTask state _ _ := (state, .complete)
  getSeiNode state _ _ := (state, .error .notFound)
  patchImage state _ _ := (state, none)
  validateImport state _ _ := (state, .complete)
  volumeAttributesClassHold _ _ := none
  storageRequest _ _ := 0
  claimCall state claims := (state, claims, none)
  listSeiNodes state := (state, .ok [])
  canonicalSyncers state := (state, .ok [])
  reconcileStatefulSet state _ := (state, .ok none)
  resolvePeers state _ := (state, .ok [])
  podNodeIsolation state _ := (state, .ok .shared)
  write state := (state, none)
  read state := (state, none)

end SeiController
