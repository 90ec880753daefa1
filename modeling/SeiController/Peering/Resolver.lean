import SeiController.Api.Node
import SeiController.Lib.Assoc
import SeiController.Lib.Compact
import SeiController.Lib.GoInt
import SeiController.Lib.GoText

/-!
# Resolving a node's peers

`spec.peers` names peers by label, as fixed addresses, or by EC2 tags.  Each source is
resolved to entries `<node_id>@<host>:<port>`, and the whole is sorted and compacted.  A
lookup that fails is made good from the set resolved before: a label peer by the entry of
its host, an EC2 source by the whole set.
-/

set_option autoImplicit false

namespace SeiController

structure EC2Instance where
  tags : List (String × String)
  publicDnsName : String
  publicIpAddress : String
  privateDnsName : String
  privateIpAddress : String

/-- What the resolver asks others for.  A missing client, of the sidecar or of EC2, is a
lookup that fails. -/
structure Resolver (ε : Type) where
  list : ε → String → List (String × String) → ε × Except String (List SeiNode)
  nodeID : ε → SeiNode → ε × Except String String
  /-- The running instances with the tags. -/
  describeInstances : ε → String → List (String × String) → ε × Except String (List EC2Instance)

/-! ## Entries -/

/-- The `host:port` of an entry, when there is something on both sides of its first `@`. -/
def entryHost (entry : String) : Option String :=
  let parts := GoText.cut '@' entry.toList
  if parts.1 = [] ∨ parts.2 = [] then none else some (String.ofList parts.2)

/-- One turn of the loop below; a later entry of the host takes the place of an earlier one. -/
def indexEntry (out : List (String × String)) (entry : String) : List (String × String) :=
  match entryHost entry with
  | none => out
  | some host => Assoc.set host entry out

def indexResolvedPeersByHost (peers : List String) : List (String × String) :=
  peers.foldl indexEntry []

section

-- `seiconfig.PortP2P`
variable (portP2P : Nat)

def peerAddress (peer : SeiNode) : String :=
  if peer.spec.externalAddress ≠ "" then
    peer.spec.externalAddress
  else
    peer.name ++ "-0." ++ peer.name ++ "." ++ peer.nameSpace ++ ".svc.cluster.local:"
      ++ toString portP2P

def composePeer (nodeID : String) (peer : SeiNode) : String :=
  nodeID ++ "@" ++ peerAddress portP2P peer

/-! ## EC2 -/

def tagNodeID : String := "sei.io/node-id"

def tagP2PPort : String := "sei.io/p2p-port"

/-- `^[0-9a-f]{40}$`. -/
def nodeIDPattern (nodeID : String) : Bool :=
  nodeID.length = 40 && nodeID.toList.all fun c => c.isDigit || ('a' ≤ c && c ≤ 'f')

def validHost (host : String) : Bool :=
  !host.toList.any fun c => c = ',' || c ≤ ' ' || c = '\x7f'

def firstNonEmpty (vals : List String) : String :=
  (vals.find? fun val => val ≠ "").getD ""

/-- The port an instance is tagged with, where that is one. -/
def taggedPort (tags : List (String × String)) : Int :=
  match (Assoc.get tagP2PPort tags).bind GoInt.parseInt with
  | some parsed => if 0 < parsed ∧ parsed < 2 ^ 31 then parsed else portP2P
  | none => portP2P

def composeEC2Peer (inst : EC2Instance) : Option String :=
  let tags := inst.tags.foldl (fun tags tag => Assoc.set tag.1 tag.2 tags) []
  let nodeID := (Assoc.get tagNodeID tags).getD ""
  let host := firstNonEmpty
    [inst.publicDnsName, inst.publicIpAddress, inst.privateDnsName, inst.privateIpAddress]
  if nodeID = "" then none
  else if !nodeIDPattern nodeID then none
  else if host = "" then none
  else if !validHost host then none
  else some (nodeID ++ "@" ++ host ++ ":" ++ GoInt.formatInt (taggedPort portP2P tags))

/-! ## Sources -/

section

variable {ε : Type} (resolver : Resolver ε)

def Resolver.resolveEC2 (region : String) (tags : List (String × String)) (state : ε) :
    ε × List String × Bool :=
  match resolver.describeInstances state region tags with
  | (state, .error _) => (state, [], true)
  | (state, .ok found) => (state, found.filterMap (composeEC2Peer portP2P), false)

/-- The entry of one peer: composed, or the prior one of its host, or none yet. -/
def Resolver.resolvePeer (priorByHost : List (String × String)) (peer : SeiNode) (state : ε) :
    ε × List String :=
  match resolver.nodeID state peer with
  | (state, .ok nodeID) => (state, [composePeer portP2P nodeID peer])
  | (state, .error _) => (state, (Assoc.get (peerAddress portP2P peer) priorByHost).toList)

def isSelf (node peer : SeiNode) : Bool :=
  peer.name = node.name && peer.nameSpace = node.nameSpace

def Resolver.resolveListed (node : SeiNode) (priorByHost : List (String × String)) :
    List SeiNode → ε → ε × List String
  | [], state => (state, [])
  | peer :: rest, state =>
    if isSelf node peer then
      resolveListed node priorByHost rest state
    else
      match resolver.resolvePeer portP2P priorByHost peer state with
      | (state, entry) =>
        match resolveListed node priorByHost rest state with
        | (state, endpoints) => (state, entry ++ endpoints)

def peerNamespace (node : SeiNode) (nameSpace : String) : String :=
  if nameSpace ≠ "" then nameSpace else node.nameSpace

def Resolver.resolveLabel (node : SeiNode) (selector : List (String × String)) (nameSpace : String)
    (priorByHost : List (String × String)) (state : ε) : ε × Except String (List String) :=
  match resolver.list state (peerNamespace node nameSpace) selector with
  | (state, .error err) => (state, .error ("listing peers by label: " ++ err))
  | (state, .ok items) =>
    match resolver.resolveListed portP2P node priorByHost items state with
    | (state, endpoints) => (state, .ok endpoints)

def Resolver.resolveSource (node : SeiNode) (priorByHost : List (String × String))
    (source : PeerSource) (state : ε) : ε × Except String (List String × Bool) :=
  match source with
  | .label selector nameSpace =>
    match resolver.resolveLabel portP2P node selector nameSpace priorByHost state with
    | (state, .error err) => (state, .error err)
    | (state, .ok endpoints) => (state, .ok (endpoints, false))
  | .static addresses => (state, .ok (addresses, false))
  | .ec2Tags region tags =>
    match resolver.resolveEC2 portP2P region tags state with
    | (state, endpoints, preservePrior) => (state, .ok (endpoints, preservePrior))

def Resolver.resolveSources (node : SeiNode) (priorByHost : List (String × String)) :
    List PeerSource → ε → ε × Except String (List String × Bool)
  | [], state => (state, .ok ([], false))
  | source :: rest, state =>
    match resolver.resolveSource portP2P node priorByHost source state with
    | (state, .error err) => (state, .error err)
    | (state, .ok (endpoints, preservePrior)) =>
      match resolveSources node priorByHost rest state with
      | (state, .error err) => (state, .error err)
      | (state, .ok (peers, preserveEC2Prior)) =>
        (state, .ok (endpoints ++ peers, preservePrior || preserveEC2Prior))

/-- The set is what `status.resolvedPeers` holds from then on. -/
def Resolver.resolve (node : SeiNode) (prior : List String) (state : ε) :
    ε × Except String (List String) :=
  match resolver.resolveSources portP2P node (indexResolvedPeersByHost prior) node.spec.peers state with
  | (state, .error err) => (state, .error err)
  | (state, .ok (peers, preserveEC2Prior)) =>
    (state, .ok (compactNames (if preserveEC2Prior then peers ++ prior else peers)))

end

end

end SeiController
