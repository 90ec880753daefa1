import Mathlib.Logic.Relation
import SeiController.Peering.Resolver

/-!
# Failed lookups and the peer set

Around a fixed fleet, a resolve in which every lookup succeeds gathers the entries of all
sources.  Later resolves in which lookups fail gather them again, partly from the prior set.
They lose a label peer's entry exactly when the prior set holds another entry of its host
that sorts after it: the index keeps one entry a host.
-/

set_option autoImplicit false

namespace SeiController

/-! ## The index -/

theorem get_indexResolvedPeersByHost (peers : List String) (host : String) :
    Assoc.get host (indexResolvedPeersByHost peers) =
      (peers.filter fun entry => entryHost entry = some host).getLast? := by
  induction peers using List.reverseRecOn with
  | nil => rfl
  | append_singleton front entry ih =>
    have step : indexResolvedPeersByHost (front ++ [entry]) =
        indexEntry (indexResolvedPeersByHost front) entry := by
      simp [indexResolvedPeersByHost, List.foldl_append]
    rw [step, indexEntry, List.filter_append]
    split
    next none_ => simp [none_, ih]
    next own found =>
      rw [Assoc.get_set]
      split
      next same => simp [same, found]
      next differ =>
        have other : own ≠ host := fun same => differ same.symm
        simp [found, other, ih]

/-- The entry the index holds for a host is the last one of it in the order of the set. -/
theorem get_index_compact (entries : List String) (host entry : String) :
    Assoc.get host (indexResolvedPeersByHost (compactNames entries)) = some entry ↔
      entry ∈ entries ∧ entryHost entry = some host ∧
        ∀ other ∈ entries, entryHost other = some host → other ≤ entry := by
  rw [get_indexResolvedPeersByHost,
    ((compactNames_increasing entries).filter _).getLast?_eq_some_iff]
  simp only [List.mem_filter, mem_compactNames, decide_eq_true_eq, and_assoc, and_imp]

/-! ## A fleet -/

/-- What there is to find, whether or not a lookup finds it. -/
structure Fleet where
  listed : String → List (String × String) → List SeiNode
  nodeID : SeiNode → String
  instances : String → List (String × String) → List EC2Instance

section

variable (portP2P : Nat) (fleet : Fleet) (node : SeiNode)

namespace Fleet

def labelled : PeerSource → List SeiNode
  | .label selector nameSpace =>
    (fleet.listed (peerNamespace node nameSpace) selector).filter fun peer => !isSelf node peer
  | .static _ | .ec2Tags .. => []

def unlabelled : PeerSource → List String
  | .label .. => []
  | .static addresses => addresses
  | .ec2Tags region tags => (fleet.instances region tags).filterMap (composeEC2Peer portP2P)

def entry (peer : SeiNode) : String :=
  composePeer portP2P (fleet.nodeID peer) peer

def peers : List SeiNode :=
  node.spec.peers.flatMap (fleet.labelled node)

def fixed : List String :=
  node.spec.peers.flatMap (fleet.unlabelled portP2P)

def entries : List String :=
  (fleet.peers node).map (fleet.entry portP2P) ++ fleet.fixed portP2P node

end Fleet

def Resolver.Fetches {ε : Type} (resolver : Resolver ε) (peer : SeiNode) : Prop :=
  ∃ state nodeID, (resolver.nodeID state peer).2 = .ok nodeID

def Resolver.Misses {ε : Type} (resolver : Resolver ε) (peer : SeiNode) : Prop :=
  ∃ state err, (resolver.nodeID state peer).2 = .error err

/-- Peers are listed; any other lookup may fail, and answers for the fleet when it does not. -/
structure Fleet.MayFail {ε : Type} (resolver : Resolver ε) : Prop where
  list : ∀ state nameSpace selector,
    (resolver.list state nameSpace selector).2 = .ok (fleet.listed nameSpace selector)
  nodeID : ∀ state peer nodeID, (resolver.nodeID state peer).2 = .ok nodeID →
    nodeID = fleet.nodeID peer
  instances : ∀ state region tags found, (resolver.describeInstances state region tags).2 = .ok found →
    found = fleet.instances region tags

structure Fleet.Answers {ε : Type} (resolver : Resolver ε) : Prop extends
    fleet.MayFail resolver where
  fetched : ∀ peer, ¬ resolver.Misses peer
  described : ∀ state region tags err,
    (resolver.describeInstances state region tags).2 ≠ .error err

/-! ## What the loop gathers -/

section

variable {portP2P fleet node} {ε : Type} {resolver : Resolver ε}
  {priorByHost : List (String × String)}

/-- What resolving has gathered where `peers` are to be found by label and `fixed` otherwise. -/
structure Collected (portP2P : Nat) (fleet : Fleet) (resolver : Resolver ε)
    (priorByHost : List (String × String)) (peers : List SeiNode) (fixed endpoints : List String)
    (preserve : Bool) : Prop where
  sound : ∀ entry ∈ endpoints, entry ∈ fixed ∨ ∃ peer ∈ peers,
    entry = fleet.entry portP2P peer ∧ resolver.Fetches peer ∨
      Assoc.get (peerAddress portP2P peer) priorByHost = some entry ∧ resolver.Misses peer
  fixed : preserve = false → ∀ entry ∈ fixed, entry ∈ endpoints
  peers : ∀ peer ∈ peers, fleet.entry portP2P peer ∈ endpoints ∨ resolver.Misses peer ∧
    ∀ entry, Assoc.get (peerAddress portP2P peer) priorByHost = some entry → entry ∈ endpoints
  preserved : preserve = true →
    ∃ state region tags err, (resolver.describeInstances state region tags).2 = .error err

theorem Collected.append {peers more : List SeiNode} {fixed others front back : List String}
    {first second : Bool}
    (left : Collected portP2P fleet resolver priorByHost peers fixed front first)
    (right : Collected portP2P fleet resolver priorByHost more others back second) :
    Collected portP2P fleet resolver priorByHost (peers ++ more) (fixed ++ others) (front ++ back)
      (first || second) where
  sound entry member := by
    rcases List.mem_append.mp member with early | late
    · rcases left.sound entry early with listed | ⟨peer, listed, from_⟩
      · exact .inl (List.mem_append_left _ listed)
      · exact .inr ⟨peer, List.mem_append_left _ listed, from_⟩
    · rcases right.sound entry late with listed | ⟨peer, listed, from_⟩
      · exact .inl (List.mem_append_right _ listed)
      · exact .inr ⟨peer, List.mem_append_right _ listed, from_⟩
  fixed none_ entry member := by
    rw [Bool.or_eq_false_iff] at none_
    rcases List.mem_append.mp member with early | late
    · exact List.mem_append_left _ (left.fixed none_.1 entry early)
    · exact List.mem_append_right _ (right.fixed none_.2 entry late)
  peers peer member := by
    rcases List.mem_append.mp member with early | late
    · refine (left.peers peer early).imp (List.mem_append_left _) (And.imp id ?_)
      exact fun kept entry found => List.mem_append_left _ (kept entry found)
    · refine (right.peers peer late).imp (List.mem_append_right _) (And.imp id ?_)
      exact fun kept entry found => List.mem_append_right _ (kept entry found)
  preserved some_ := by
    rcases Bool.or_eq_true_iff.mp some_ with early | late
    · exact left.preserved early
    · exact right.preserved late

theorem Collected.nil : Collected portP2P fleet resolver priorByHost [] [] [] false where
  sound _ never := absurd never List.not_mem_nil
  fixed _ _ never := absurd never List.not_mem_nil
  peers _ never := absurd never List.not_mem_nil
  preserved never := by cases never

theorem resolveSources_cons {source : PeerSource} {rest : List PeerSource} {state : ε}
    {front back : List String} {first second : Bool}
    (head : (resolver.resolveSource portP2P node priorByHost source state).2 = .ok (front, first))
    (tail : (resolver.resolveSources portP2P node priorByHost rest
      (resolver.resolveSource portP2P node priorByHost source state).1).2 = .ok (back, second)) :
    (resolver.resolveSources portP2P node priorByHost (source :: rest) state).2 =
      .ok (front ++ back, first || second) := by
  rw [Resolver.resolveSources]
  cases resolved : resolver.resolveSource portP2P node priorByHost source state with
  | mk later answer =>
    rw [resolved] at head tail
    dsimp only at head tail
    rw [head]
    dsimp only
    cases others : resolver.resolveSources portP2P node priorByHost rest later with
    | mk last remaining =>
      rw [others] at tail
      dsimp only at tail
      rw [tail]

variable (may : fleet.MayFail resolver)

include may

theorem collected_peer (peer : SeiNode) (state : ε) :
    Collected portP2P fleet resolver priorByHost [peer] []
      (resolver.resolvePeer portP2P priorByHost peer state).2 false := by
  unfold Resolver.resolvePeer
  split
  next later nodeID answer =>
    have known : nodeID = fleet.nodeID peer := may.nodeID state peer nodeID (by rw [answer])
    subst known
    refine ⟨fun entry member => .inr ⟨peer, List.mem_singleton.mpr rfl, .inl ⟨?_, ?_⟩⟩, by simp, ?_,
      by simp⟩
    · exact List.mem_singleton.mp member
    · exact ⟨state, _, by rw [answer]⟩
    · exact List.forall_mem_singleton.mpr (.inl (List.mem_singleton.mpr rfl))
  next later err answer =>
    have misses : resolver.Misses peer := ⟨state, err, by rw [answer]⟩
    refine ⟨fun entry member => .inr ⟨peer, List.mem_singleton.mpr rfl, .inr ⟨?_, misses⟩⟩, by simp,
      ?_, by simp⟩
    · exact Option.mem_toList.mp member
    · exact List.forall_mem_singleton.mpr
        (.inr ⟨misses, fun entry found => Option.mem_toList.mpr found⟩)

theorem collected_listed (items : List SeiNode) :
    ∀ state : ε, Collected portP2P fleet resolver priorByHost
      (items.filter fun peer => !isSelf node peer) []
      (resolver.resolveListed portP2P node priorByHost items state).2 false := by
  induction items with
  | nil => exact fun _ => .nil
  | cons peer rest ih =>
    intro state
    unfold Resolver.resolveListed
    cases self : isSelf node peer with
    | true => simpa [self] using ih state
    | false =>
      have both := (collected_peer may peer state).append
        (ih (resolver.resolvePeer portP2P priorByHost peer state).1)
      simpa [self] using both

theorem collected_source (source : PeerSource) (state : ε) :
    ∃ endpoints preserve,
      (resolver.resolveSource portP2P node priorByHost source state).2 = .ok (endpoints, preserve) ∧
      Collected portP2P fleet resolver priorByHost (fleet.labelled node source)
        (fleet.unlabelled portP2P source) endpoints preserve := by
  cases source with
  | label selector nameSpace =>
    have listed := may.list state (peerNamespace node nameSpace) selector
    unfold Resolver.resolveSource Resolver.resolveLabel
    dsimp only
    cases answer : resolver.list state (peerNamespace node nameSpace) selector with
    | mk later items =>
      rw [answer] at listed
      dsimp only at listed
      subst listed
      exact ⟨_, _, rfl, collected_listed may _ later⟩
  | static addresses =>
    refine ⟨_, _, rfl, fun entry member => .inl member, fun _ _ member => member, ?_, by simp⟩
    exact fun _ never => absurd never List.not_mem_nil
  | ec2Tags region tags =>
    unfold Resolver.resolveSource Resolver.resolveEC2
    dsimp only
    split
    next failed err described =>
      refine ⟨_, _, rfl, fun _ never => absurd never List.not_mem_nil, fun never => (by cases never),
        fun _ never => absurd never List.not_mem_nil, fun _ => ?_⟩
      exact ⟨state, region, tags, err, by rw [described]⟩
    next later found described =>
      have known := may.instances state region tags found (by rw [described])
      subst known
      exact ⟨_, _, rfl, fun _ member => .inl member, fun _ _ member => member,
        fun _ never => absurd never List.not_mem_nil, fun never => (by cases never)⟩

theorem collected_sources (sources : List PeerSource) :
    ∀ state : ε, ∃ endpoints preserve,
      (resolver.resolveSources portP2P node priorByHost sources state).2 =
        .ok (endpoints, preserve) ∧
      Collected portP2P fleet resolver priorByHost (sources.flatMap (fleet.labelled node))
        (sources.flatMap (fleet.unlabelled portP2P)) endpoints preserve := by
  induction sources with
  | nil => exact fun _ => ⟨[], false, rfl, .nil⟩
  | cons source rest ih =>
    intro state
    obtain ⟨front, first, resolved, head⟩ := @collected_source portP2P fleet node ε resolver
      priorByHost may source state
    obtain ⟨back, second, later, tail⟩ :=
      ih (resolver.resolveSource portP2P node priorByHost source state).1
    exact ⟨front ++ back, first || second, resolveSources_cons resolved later, head.append tail⟩

theorem collected_resolve (prior : List String) (state : ε) :
    ∃ endpoints preserve,
      (resolver.resolve portP2P node prior state).2 =
        .ok (compactNames (if preserve then endpoints ++ prior else endpoints)) ∧
      Collected portP2P fleet resolver (indexResolvedPeersByHost prior) (fleet.peers node)
        (fleet.fixed portP2P node) endpoints preserve := by
  obtain ⟨endpoints, preserve, resolved, collected⟩ := @collected_sources portP2P fleet node ε resolver
    (indexResolvedPeersByHost prior) may node.spec.peers state
  refine ⟨endpoints, preserve, ?_, collected⟩
  unfold Resolver.resolve
  cases answer : resolver.resolveSources portP2P node (indexResolvedPeersByHost prior)
      node.spec.peers state with
  | mk later result =>
    rw [answer] at resolved
    dsimp only at resolved
    rw [resolved]

end

/-! ## When every lookup succeeds -/

variable {portP2P fleet node} in
theorem mem_entries {entry : String} :
    entry ∈ fleet.entries portP2P node ↔
      entry ∈ fleet.fixed portP2P node ∨ ∃ peer ∈ fleet.peers node, fleet.entry portP2P peer = entry := by
  rw [Fleet.entries, List.mem_append, List.mem_map, or_comm]

variable {portP2P fleet node} in
theorem resolve_of_answers {ε : Type} {resolver : Resolver ε} (answers : fleet.Answers resolver)
    (prior : List String) (state : ε) :
    (resolver.resolve portP2P node prior state).2 =
      .ok (compactNames (fleet.entries portP2P node)) := by
  obtain ⟨endpoints, preserve, resolved, collected⟩ :=
    @collected_resolve portP2P fleet node ε resolver answers.toMayFail prior state
  have unpreserved : preserve = false := by
    rw [← Bool.not_eq_true]
    intro preserved
    obtain ⟨state, region, tags, err, failed⟩ := collected.preserved preserved
    exact answers.described state region tags err failed
  subst unpreserved
  rw [resolved]
  refine congrArg Except.ok (compactNames_congr fun entry => ?_)
  rw [if_neg Bool.false_ne_true, mem_entries]
  constructor
  · intro member
    rcases collected.sound entry member with fixed | ⟨peer, listed, ⟨rfl, -⟩ | ⟨-, missed⟩⟩
    · exact .inl fixed
    · exact .inr ⟨peer, listed, rfl⟩
    · exact absurd missed (answers.fetched peer)
  · rintro (fixed | ⟨peer, listed, rfl⟩)
    · exact collected.fixed rfl entry fixed
    · rcases collected.peers peer listed with kept | ⟨missed, -⟩
      · exact kept
      · exact absurd missed (answers.fetched peer)

/-! ## When lookups fail -/

/-- The entry of every label peer, unless another source gives it too, is the last of all
entries of its host. -/
def Fleet.LastOfHost : Prop :=
  ∀ peer ∈ fleet.peers node, fleet.entry portP2P peer ∈ fleet.fixed portP2P node ∨
    ∃ same ∈ fleet.peers node, fleet.entry portP2P same = fleet.entry portP2P peer ∧
      entryHost (fleet.entry portP2P peer) = some (peerAddress portP2P same) ∧
      ∀ other ∈ fleet.entries portP2P node, entryHost other = some (peerAddress portP2P same) →
        other ≤ fleet.entry portP2P peer

instance : Decidable (fleet.LastOfHost portP2P node) :=
  inferInstanceAs (Decidable (∀ peer ∈ fleet.peers node, _))

variable {portP2P fleet node} in
theorem resolve_of_mayFail {ε : Type} {resolver : Resolver ε} (may : fleet.MayFail resolver)
    (last : fleet.LastOfHost portP2P node) (state : ε) :
    (resolver.resolve portP2P node (compactNames (fleet.entries portP2P node)) state).2 =
      .ok (compactNames (fleet.entries portP2P node)) := by
  obtain ⟨endpoints, preserve, resolved, collected⟩ := @collected_resolve portP2P fleet node ε
    resolver may (compactNames (fleet.entries portP2P node)) state
  rw [resolved]
  refine congrArg Except.ok (compactNames_congr fun entry => ?_)
  -- whatever the prior set makes good is in the prior set
  have known (member : entry ∈ endpoints) : entry ∈ fleet.entries portP2P node := by
    rcases collected.sound entry member with fixed | ⟨peer, listed, ⟨rfl, -⟩ | ⟨found, -⟩⟩
    · exact mem_entries.mpr (.inl fixed)
    · exact mem_entries.mpr (.inr ⟨peer, listed, rfl⟩)
    · exact ((get_index_compact _ _ _).mp found).1
  cases preserve with
  | true =>
    rw [if_pos rfl, List.mem_append, mem_compactNames]
    exact ⟨fun member => member.elim known id, .inr⟩
  | false =>
    rw [if_neg Bool.false_ne_true]
    refine ⟨known, fun member => ?_⟩
    rcases mem_entries.mp member with fixed | ⟨peer, listed, rfl⟩
    · exact collected.fixed rfl entry fixed
    · rcases last peer listed with fixed | ⟨same, sameListed, alike, host, greatest⟩
      · exact collected.fixed rfl _ fixed
      · rcases collected.peers same sameListed with kept | ⟨-, kept⟩
        · exact alike ▸ kept
        · exact kept _ ((get_index_compact _ _ _).mpr ⟨member, host, greatest⟩)

/-- Every lookup succeeds but the fetches of the peers with the entry. -/
def Fleet.missing (entry : String) : Resolver Unit where
  list _ nameSpace selector := ((), .ok (fleet.listed nameSpace selector))
  nodeID _ peer :=
    ((), if fleet.entry portP2P peer = entry then .error "sidecar unavailable"
      else .ok (fleet.nodeID peer))
  describeInstances _ region tags := ((), .ok (fleet.instances region tags))

theorem mayFail_missing (entry : String) : fleet.MayFail (fleet.missing portP2P entry) where
  list _ _ _ := rfl
  nodeID _ peer nodeID answer := by
    unfold Fleet.missing at answer
    dsimp only at answer
    split at answer
    · cases answer
    · exact (Except.ok.inj answer).symm
  instances _ _ _ _ answer := (Except.ok.inj answer).symm

variable {portP2P fleet node} in
/-- A peer's own fetches fail: what is left of its entry is what the index has for its host. -/
theorem lost_of_missing {peer : SeiNode} (listed : peer ∈ fleet.peers node)
    (kept : ((fleet.missing portP2P (fleet.entry portP2P peer)).resolve portP2P node
      (compactNames (fleet.entries portP2P node)) ()).2 =
        .ok (compactNames (fleet.entries portP2P node))) :
    fleet.entry portP2P peer ∈ fleet.fixed portP2P node ∨
      ∃ same ∈ fleet.peers node, fleet.entry portP2P same = fleet.entry portP2P peer ∧
        entryHost (fleet.entry portP2P peer) = some (peerAddress portP2P same) ∧
        ∀ other ∈ fleet.entries portP2P node, entryHost other = some (peerAddress portP2P same) →
          other ≤ fleet.entry portP2P peer := by
  obtain ⟨endpoints, preserve, resolved, collected⟩ := @collected_resolve portP2P fleet node Unit _
    (mayFail_missing portP2P fleet (fleet.entry portP2P peer))
    (compactNames (fleet.entries portP2P node)) ()
  have unpreserved : preserve = false := by
    rw [← Bool.not_eq_true]
    intro preserved
    obtain ⟨_, _, _, _, failed⟩ := collected.preserved preserved
    cases failed
  subst unpreserved
  rw [resolved, if_neg Bool.false_ne_true, Except.ok.injEq] at kept
  have member : fleet.entry portP2P peer ∈ endpoints := by
    rw [← mem_compactNames, kept, mem_compactNames, mem_entries]
    exact .inr ⟨peer, listed, rfl⟩
  rcases collected.sound _ member with fixed | ⟨same, sameListed, ⟨alike, fetches⟩ | ⟨found, misses⟩⟩
  · exact .inl fixed
  · obtain ⟨_, nodeID, answer⟩ := fetches
    simp [Fleet.missing, ← alike] at answer
  · obtain ⟨_, err, answer⟩ := misses
    have alike : fleet.entry portP2P same = fleet.entry portP2P peer := by
      by_contra differ
      simp [Fleet.missing, differ] at answer
    exact .inr ⟨same, sameListed, alike, ((get_index_compact _ _ _).mp found).2⟩

/-! ## Orders -/

/-- Two resolvers whose answers differ in the order of what they list only. -/
structure Resolver.Reorders (one other : Resolver Unit) : Prop where
  list : ∀ nameSpace selector items, one.list () nameSpace selector = ((), .ok items) →
    ∃ others, other.list () nameSpace selector = ((), .ok others) ∧ others.Perm items
  nodeID : ∀ peer, other.nodeID () peer = one.nodeID () peer
  instances : ∀ region tags,
    (∃ found others, one.describeInstances () region tags = ((), .ok found) ∧
      other.describeInstances () region tags = ((), .ok others) ∧ others.Perm found) ∨
    ∃ err err', one.describeInstances () region tags = ((), .error err) ∧
      other.describeInstances () region tags = ((), .error err')

section

variable {portP2P node} {resolver one other : Resolver Unit} {priorByHost : List (String × String)}

theorem mem_resolveListed {items : List SeiNode} {entry : String} :
    entry ∈ (resolver.resolveListed portP2P node priorByHost items ()).2 ↔
      ∃ peer ∈ items, isSelf node peer = false ∧
        entry ∈ (resolver.resolvePeer portP2P priorByHost peer ()).2 := by
  induction items with
  | nil => simp [Resolver.resolveListed]
  | cons peer rest ih =>
    rw [Resolver.resolveListed]
    cases self : isSelf node peer with
    | true => simp [ih, self]
    | false => simp [ih, self]

theorem Resolver.Reorders.source (same : one.Reorders other) {source : PeerSource}
    {endpoints : List String} {preserve : Bool}
    (resolved : (one.resolveSource portP2P node priorByHost source ()).2 = .ok (endpoints, preserve)) :
    ∃ others, (other.resolveSource portP2P node priorByHost source ()).2 = .ok (others, preserve) ∧
      ∀ entry, entry ∈ others ↔ entry ∈ endpoints := by
  cases source with
  | static addresses =>
    cases resolved
    exact ⟨_, rfl, fun _ => .rfl⟩
  | label selector nameSpace =>
    unfold Resolver.resolveSource Resolver.resolveLabel at resolved ⊢
    dsimp only at resolved ⊢
    rcases items : one.list () (peerNamespace node nameSpace) selector with ⟨⟨⟩, err | listed⟩
    · rw [items] at resolved
      cases resolved
    · obtain ⟨others, answer, perm⟩ := same.list _ _ _ items
      rw [items] at resolved
      rw [answer]
      cases resolved
      refine ⟨_, rfl, fun entry => ?_⟩
      rw [mem_resolveListed, mem_resolveListed]
      unfold Resolver.resolvePeer
      simp only [perm.mem_iff, same.nodeID]
  | ec2Tags region tags =>
    unfold Resolver.resolveSource Resolver.resolveEC2 at resolved ⊢
    dsimp only at resolved ⊢
    rcases same.instances region tags with ⟨found, others, first, second, perm⟩ | ⟨_, _, first, second⟩
    · rw [first] at resolved
      rw [second]
      cases resolved
      exact ⟨_, rfl, fun entry => (perm.filterMap _).mem_iff⟩
    · rw [first] at resolved
      rw [second]
      cases resolved
      exact ⟨_, rfl, fun _ => .rfl⟩

/-- What the loop over the sources returns, source by source. -/
structure Gathered (portP2P : Nat) (resolver : Resolver Unit) (node : SeiNode)
    (priorByHost : List (String × String)) (sources : List PeerSource) (endpoints : List String)
    (preserve : Bool) : Prop where
  resolved : ∀ source ∈ sources, ∃ own preserves,
    (resolver.resolveSource portP2P node priorByHost source ()).2 = .ok (own, preserves)
  mem : ∀ entry, entry ∈ endpoints ↔ ∃ source ∈ sources, ∃ own preserves,
    (resolver.resolveSource portP2P node priorByHost source ()).2 = .ok (own, preserves) ∧ entry ∈ own
  preserve : preserve = true ↔ ∃ source ∈ sources, ∃ own,
    (resolver.resolveSource portP2P node priorByHost source ()).2 = .ok (own, true)

theorem gathered_of_resolved {sources : List PeerSource}
    (each : ∀ source ∈ sources, ∃ own preserves,
      (resolver.resolveSource portP2P node priorByHost source ()).2 = .ok (own, preserves)) :
    ∃ endpoints preserve,
      (resolver.resolveSources portP2P node priorByHost sources ()).2 = .ok (endpoints, preserve) ∧
      Gathered portP2P resolver node priorByHost sources endpoints preserve := by
  induction sources with
  | nil => exact ⟨[], false, rfl, by simp, by simp, by simp⟩
  | cons source rest ih =>
    obtain ⟨⟨own, preserves, head⟩, others⟩ := List.forall_mem_cons.mp each
    obtain ⟨endpoints, preserve, tail, gathered⟩ := ih others
    refine ⟨own ++ endpoints, preserves || preserve, resolveSources_cons head tail, each, ?_, ?_⟩
    · intro entry
      rw [List.mem_append, gathered.mem, List.exists_mem_cons_iff]
      refine or_congr_left ?_
      simp [head]
    · rw [Bool.or_eq_true, gathered.preserve, List.exists_mem_cons_iff]
      refine or_congr_left ?_
      simp [head]

theorem resolved_of_resolveSources {sources : List PeerSource} {endpoints : List String}
    {preserve : Bool}
    (resolved : (resolver.resolveSources portP2P node priorByHost sources ()).2 =
      .ok (endpoints, preserve)) :
    ∀ source ∈ sources, ∃ own preserves,
      (resolver.resolveSource portP2P node priorByHost source ()).2 = .ok (own, preserves) := by
  induction sources generalizing endpoints preserve with
  | nil => exact fun _ never => absurd never List.not_mem_nil
  | cons source rest ih =>
    rw [Resolver.resolveSources] at resolved
    rcases head : resolver.resolveSource portP2P node priorByHost source () with
      ⟨⟨⟩, err | ⟨own, preserves⟩⟩
    · rw [head] at resolved
      cases resolved
    · rw [head] at resolved
      dsimp only at resolved
      rcases tail : resolver.resolveSources portP2P node priorByHost rest () with
        ⟨⟨⟩, err | ⟨others, later⟩⟩
      · rw [tail] at resolved
        cases resolved
      · refine List.forall_mem_cons.mpr ⟨⟨own, preserves, by rw [head]⟩, ?_⟩
        exact ih (by rw [tail])

theorem Resolver.Reorders.sources (same : one.Reorders other) {sources others : List PeerSource}
    (perm : others.Perm sources) {endpoints : List String} {preserve : Bool}
    (resolved : (one.resolveSources portP2P node priorByHost sources ()).2 =
      .ok (endpoints, preserve)) :
    ∃ reordered, (other.resolveSources portP2P node priorByHost others ()).2 =
        .ok (reordered, preserve) ∧ ∀ entry, entry ∈ reordered ↔ entry ∈ endpoints := by
  have each := resolved_of_resolveSources resolved
  have seen : ∀ source ∈ others, ∃ own theirs preserves,
      (one.resolveSource portP2P node priorByHost source ()).2 = .ok (own, preserves) ∧
      (other.resolveSource portP2P node priorByHost source ()).2 = .ok (theirs, preserves) ∧
      ∀ entry, entry ∈ theirs ↔ entry ∈ own := by
    intro source member
    obtain ⟨own, preserves, first⟩ := each source (perm.mem_iff.mp member)
    obtain ⟨theirs, second, alike⟩ := same.source first
    exact ⟨own, theirs, preserves, first, second, alike⟩
  obtain ⟨first, firstPreserve, firstResolved, mine⟩ := gathered_of_resolved each
  rw [resolved, Except.ok.injEq, Prod.mk.injEq] at firstResolved
  obtain ⟨rfl, rfl⟩ := firstResolved
  obtain ⟨reordered, preserve', second, theirs⟩ := gathered_of_resolved fun source member => by
    obtain ⟨-, own, preserves, -, answer, -⟩ := seen source member
    exact ⟨own, preserves, answer⟩
  have preserved : preserve' = preserve := by
    rw [Bool.eq_iff_iff, theirs.preserve, mine.preserve]
    constructor
    · rintro ⟨source, member, own, answer⟩
      obtain ⟨own', theirs', preserves, first', second', -⟩ := seen source member
      rw [second', Except.ok.injEq, Prod.mk.injEq] at answer
      exact ⟨source, perm.mem_iff.mp member, own', answer.2 ▸ first'⟩
    · rintro ⟨source, member, own, answer⟩
      obtain ⟨own', theirs', preserves, first', second', -⟩ := seen source (perm.mem_iff.mpr member)
      rw [first', Except.ok.injEq, Prod.mk.injEq] at answer
      exact ⟨source, perm.mem_iff.mpr member, theirs', answer.2 ▸ second'⟩
  subst preserved
  refine ⟨reordered, second, fun entry => ?_⟩
  rw [theirs.mem, mine.mem]
  constructor
  · rintro ⟨source, member, own, preserves, answer, inOwn⟩
    obtain ⟨own', theirs', preserves', first', second', alike⟩ := seen source member
    rw [second', Except.ok.injEq, Prod.mk.injEq] at answer
    exact ⟨source, perm.mem_iff.mp member, own', preserves', first',
      (alike entry).mp (answer.1 ▸ inOwn)⟩
  · rintro ⟨source, member, own, preserves, answer, inOwn⟩
    obtain ⟨own', theirs', preserves', first', second', alike⟩ := seen source (perm.mem_iff.mpr member)
    rw [first', Except.ok.injEq, Prod.mk.injEq] at answer
    exact ⟨source, perm.mem_iff.mpr member, theirs', preserves', second',
      (alike entry).mpr (answer.1 ▸ inOwn)⟩

def SeiNode.withPeers (node : SeiNode) (sources : List PeerSource) : SeiNode :=
  { node with spec := { node.spec with peers := sources } }

theorem resolveListed_withPeers (sources : List PeerSource) (items : List SeiNode) :
    ∀ state, resolver.resolveListed portP2P (node.withPeers sources) priorByHost items state =
      resolver.resolveListed portP2P node priorByHost items state := by
  induction items with
  | nil => exact fun _ => rfl
  | cons peer rest ih =>
    intro state
    simp only [Resolver.resolveListed, ih]
    rfl

theorem resolveSources_withPeers (others sources : List PeerSource) :
    ∀ state, resolver.resolveSources portP2P (node.withPeers others) priorByHost sources state =
      resolver.resolveSources portP2P node priorByHost sources state := by
  induction sources with
  | nil => exact fun _ => rfl
  | cons source rest ih =>
    intro state
    have head : resolver.resolveSource portP2P (node.withPeers others) priorByHost source state =
        resolver.resolveSource portP2P node priorByHost source state := by
      cases source with
      | label selector nameSpace =>
        simp only [Resolver.resolveSource, Resolver.resolveLabel, resolveListed_withPeers]
        rfl
      | static | ec2Tags => rfl
    simp only [Resolver.resolveSources, ih, head]

theorem Resolver.Reorders.resolve (same : one.Reorders other) {sources : List PeerSource}
    (perm : sources.Perm node.spec.peers) {prior resolved : List String}
    (answer : (one.resolve portP2P node prior ()).2 = .ok resolved) :
    (other.resolve portP2P (node.withPeers sources) prior ()).2 = .ok resolved := by
  unfold Resolver.resolve at answer ⊢
  rcases gathered : one.resolveSources portP2P node (indexResolvedPeersByHost prior)
      node.spec.peers () with ⟨⟨⟩, err | ⟨endpoints, preserve⟩⟩
  · rw [gathered] at answer
    cases answer
  · rw [gathered] at answer
    dsimp only at answer
    obtain ⟨reordered, others, alike⟩ := same.sources perm (by rw [gathered])
    rw [resolveSources_withPeers]
    rcases theirs : other.resolveSources portP2P node (indexResolvedPeersByHost prior) sources () with
      ⟨⟨⟩, result⟩
    rw [theirs] at others
    dsimp only at others
    have sources_eq : (node.withPeers sources).spec.peers = sources := rfl
    rw [sources_eq, theirs, others, ← answer]
    refine congrArg Except.ok (compactNames_congr fun entry => ?_)
    cases preserve with
    | true => simp [alike]
    | false => simp [alike]

theorem resolve_increasing {ε : Type} {resolver : Resolver ε} {prior resolved : List String}
    {state : ε} (answer : (resolver.resolve portP2P node prior state).2 = .ok resolved) :
    resolved.Pairwise (· < ·) := by
  unfold Resolver.resolve at answer
  split at answer
  · cases answer
  · cases answer
    exact compactNames_increasing _

end

/-! ## The peer set over resolves -/

def Fleet.answering : Resolver Unit where
  list _ nameSpace selector := ((), .ok (fleet.listed nameSpace selector))
  nodeID _ peer := ((), .ok (fleet.nodeID peer))
  describeInstances _ region tags := ((), .ok (fleet.instances region tags))

theorem answers_answering : fleet.Answers fleet.answering where
  list _ _ _ := rfl
  nodeID _ _ _ answer := (Except.ok.inj answer).symm
  instances _ _ _ _ answer := (Except.ok.inj answer).symm
  fetched _ := fun ⟨_, _, never⟩ => by cases never
  described _ _ _ _ never := by cases never

def Fleet.Reresolves (prior next : List String) : Prop :=
  ∃ (ε : Type) (resolver : Resolver ε) (state : ε), fleet.MayFail resolver ∧
    (resolver.resolve portP2P node prior state).2 = .ok next

/-- What the peer set of a node is to be, around a fixed fleet. -/
structure Fleet.Steady : Prop where
  /-- After a resolve in which every lookup succeeded, any number of further ones in which
  lookups fail return its result again. -/
  unshrunk : ∀ (ε : Type) (resolver : Resolver ε) (prior : List String) (state : ε)
    (resolved : List String), fleet.Answers resolver →
    (resolver.resolve portP2P node prior state).2 = .ok resolved →
    ∀ later, Relation.ReflTransGen (fleet.Reresolves portP2P node) resolved later →
    ∀ (ε' : Type) (again : Resolver ε') (now : ε'), fleet.MayFail again →
      (again.resolve portP2P node later now).2 = .ok resolved
  /-- Results are sorted and without repetitions, whatever the lookups answer. -/
  increasing : ∀ (ε : Type) (resolver : Resolver ε) (prior : List String) (state : ε)
    (resolved : List String), (resolver.resolve portP2P node prior state).2 = .ok resolved →
    resolved.Pairwise (· < ·)
  /-- They do not depend on the order of the sources and of what is listed. -/
  unordered : ∀ one other : Resolver Unit, one.Reorders other →
    ∀ sources, sources.Perm node.spec.peers → ∀ prior resolved,
    (one.resolve portP2P node prior ()).2 = .ok resolved →
    (other.resolve portP2P (node.withPeers sources) prior ()).2 = .ok resolved

/-- Failed lookups never change the peer set exactly when no label peer's entry stands before
another entry of its host. -/
theorem peers_steady_iff_last_of_host :
    fleet.Steady portP2P node ↔ fleet.LastOfHost portP2P node := by
  constructor
  · intro steady peer listed
    have first : (fleet.answering.resolve portP2P node [] ()).2 =
        .ok (compactNames (fleet.entries portP2P node)) :=
      resolve_of_answers (answers_answering fleet) [] ()
    exact lost_of_missing listed (steady.unshrunk Unit fleet.answering [] () _
      (answers_answering fleet) first _ .refl Unit _ () (mayFail_missing portP2P fleet _))
  · intro last
    refine ⟨?_, fun _ _ _ _ _ => resolve_increasing,
      fun _ _ same _ perm _ _ => same.resolve perm⟩
    intro ε resolver prior state resolved answers first later steps
    rw [resolve_of_answers answers, Except.ok.injEq] at first
    subst first
    -- every set on the way is the first one
    have unchanged : later = compactNames (fleet.entries portP2P node) := by
      induction steps with
      | refl => rfl
      | tail _ step ih =>
        obtain ⟨ε', again, now, may, answer⟩ := step
        rw [ih, resolve_of_mayFail may last, Except.ok.injEq] at answer
        exact answer.symm
    intro ε' again now may
    rw [unchanged]
    exact resolve_of_mayFail may last now

end

/-! ## Two entries of one host -/

def sharedHost : Fleet where
  listed _ _ := [{ name := "peer", spec := { externalAddress := "nlb:26656" } }]
  nodeID _ := "aaaa"
  instances _ _ := []

def sharedHostNode : SeiNode :=
  { name := "node", spec := { peers := [.label [("app", "sei")] "", .static ["bbbb@nlb:26656"]] } }

/-- A label peer and a static entry behind addresses of their own. -/
theorem own_hosts_steady : sharedHost.LastOfHost 26656
      (sharedHostNode.withPeers [.label [("app", "sei")] "", .static ["bbbb@other:26656"]]) ∧
    sharedHost.Steady 26656
      (sharedHostNode.withPeers [.label [("app", "sei")] "", .static ["bbbb@other:26656"]]) := by
  have last : sharedHost.LastOfHost 26656
      (sharedHostNode.withPeers [.label [("app", "sei")] "", .static ["bbbb@other:26656"]]) := by
    decide
  exact ⟨last, (peers_steady_iff_last_of_host _ _ _).mpr last⟩

/-- The peer's sidecar does not answer once, and its entry is gone. -/
theorem shared_host_drops_peer :
    sharedHost.Answers sharedHost.answering ∧
      (sharedHost.answering.resolve 26656 sharedHostNode [] ()).2 =
        .ok ["aaaa@nlb:26656", "bbbb@nlb:26656"] ∧
      sharedHost.MayFail (sharedHost.missing 26656 "aaaa@nlb:26656") ∧
      ((sharedHost.missing 26656 "aaaa@nlb:26656").resolve 26656 sharedHostNode
        ["aaaa@nlb:26656", "bbbb@nlb:26656"] ()).2 = .ok ["bbbb@nlb:26656"] := by
  refine ⟨answers_answering _, ?_, mayFail_missing _ _ _, ?_⟩
  · have resolved : (sharedHost.answering.resolve 26656 sharedHostNode [] ()).2 =
        .ok (compactNames ["aaaa@nlb:26656", "bbbb@nlb:26656"]) := rfl
    rw [resolved]
    exact congrArg Except.ok (compactNames_eq (by decide) fun _ => .rfl)
  · have resolved : ((sharedHost.missing 26656 "aaaa@nlb:26656").resolve 26656 sharedHostNode
        ["aaaa@nlb:26656", "bbbb@nlb:26656"] ()).2 =
        .ok (compactNames ["bbbb@nlb:26656", "bbbb@nlb:26656"]) := rfl
    rw [resolved]
    exact congrArg Except.ok (compactNames_eq (by decide) (by simp))

end SeiController
