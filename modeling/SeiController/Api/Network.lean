import SeiController.Api.Node

/-!
# The SeiNetwork object

Spec and status as far as the network controller's ceremony and its Producing
condition read or write them.  As on the SeiNode, each condition is one optional
field of the status.
-/

set_option autoImplicit false

namespace SeiController

structure AutobahnCeremonySpec where
  blockInterval : String
  allowEmptyBlocks : Option Bool
  maxTxsPerBlock : Option Int
deriving DecidableEq

structure NetworkConsensusSpec where
  node : ConsensusSpec
  autobahn : Option AutobahnCeremonySpec
deriving DecidableEq

namespace NetworkConsensusSpec

def isAutobahn : Option NetworkConsensusSpec → Bool
  | some consensus => consensus.node.engine == .autobahn
  | none => false

def commitsOnDemand : Option NetworkConsensusSpec → Bool
  | none => false
  | some consensus =>
    if !isAutobahn (some consensus) then false
    else
      match consensus.autobahn with
      | some { allowEmptyBlocks := some allow, .. } => !allow
      | _ => true

end NetworkConsensusSpec

structure SeiNetworkSpec where
  consensus : Option NetworkConsensusSpec := none
deriving DecidableEq

inductive ProducingReason
  | heightAdvancing | awaitingFirstBlock | heightStalled | idle | signalUnreadable | noNodes
deriving DecidableEq

structure ObservedHeight where
  height : Int
  /-- When the height last advanced, in nanoseconds. -/
  time : Int
deriving DecidableEq

structure SeiNetworkStatus where
  observedHeight : Option ObservedHeight := none
  producing : Option (Condition ProducingReason) := none
deriving DecidableEq

structure SeiNetwork where
  name : String := ""
  spec : SeiNetworkSpec := {}
  status : SeiNetworkStatus := {}
deriving DecidableEq

end SeiController
