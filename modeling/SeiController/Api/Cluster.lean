import SeiController.Api.Node

/-!
# The other objects a node reconcile touches

Workflows that may occupy the node, and the persistent volume claims of its
namespace.
-/

set_option autoImplicit false

namespace SeiController

inductive WorkflowPhase
  | empty | pending | running | complete | failed
deriving DecidableEq

inductive WorkflowKind
  | stateSync
  | unknown (name : String)
deriving DecidableEq

inductive ConfigMigration
  | gigaStore (backend : String)
  | unknown (kind : String)
deriving DecidableEq

structure StateSyncWorkflow where
  migration : Option ConfigMigration
  rpcServers : List String
deriving DecidableEq

structure WorkflowSpec where
  kind : WorkflowKind
  requirePhase : SeiNodePhase
  requirePhaseTimeout : Option Nat
  stateSync : Option StateSyncWorkflow
deriving DecidableEq

structure WorkflowStatus where
  phase : WorkflowPhase
  targetFirstObservedAt : Option Nat
  plan : Option TaskPlan
deriving DecidableEq

structure Workflow where
  name : String
  uid : String
  creationTimestamp : Nat
  deletionTimestamp : Option Nat
  finalizer : Bool
  /-- The force-delete annotation is set. -/
  forceDelete : Bool
  spec : WorkflowSpec
  status : WorkflowStatus
deriving DecidableEq

structure PersistentVolumeClaim where
  name : String
  uid : String
  /-- The UID of the controller owner reference. -/
  controllerUID : Option String
  request : Nat
  bound : Bool
  resourceVersion : Nat
deriving DecidableEq

/-- `metav1.IsControlledBy(pvc, node)`. -/
def PersistentVolumeClaim.controlledBy (claim : PersistentVolumeClaim) (node : SeiNode) : Bool :=
  claim.controllerUID == some node.uid

def SeiNode.importedPVCName (node : SeiNode) : Option String :=
  match node.spec.dataVolume.bind DataVolumeSpec.importPVCName with
  | some name => if name ≠ "" then some name else none
  | none => none

def dataPVCName (node : SeiNode) : String :=
  node.importedPVCName.getD ("data-" ++ node.name)

structure StatefulSet where
  generation : Nat
  observedGeneration : Nat
  replicas : Option Nat
  updatedReplicas : Nat
  seidImage : String
  sidecarImage : String
deriving DecidableEq

end SeiController
