import SeiController.Api.Network
import SeiController.Lib.GoTime
import SeiController.Lib.System

/-!
# The Producing condition of a SeiNetwork

`internal/controller/seinetwork/producing.go`: the children's committed heights, the
high-water mark in `status.observedHeight` and the condition derived from both.  A
run is any sequence of calls between which the children are restamped or deleted and
the status passes through the API server.
-/

set_option autoImplicit false

namespace SeiController

open GoTime

def heightReadingMaxAge : Int := 90 * second

def producingWindow : Int := 2 * minute

/-- The children's `committedHeight` stamps at one instant. -/
structure HeightReadings where
  highestFresh : Int := 0
  highestAny : Int := 0
  fresh : Nat := 0
  stale : Nat := 0

def readHeight (now : Int) (r : HeightReadings) (node : SeiNode) : HeightReadings :=
  match node.status.committedHeight, node.status.committedHeightTime with
  | some height, some time =>
    if heightReadingMaxAge < sub now time then
      { r with highestAny := max r.highestAny height, stale := r.stale + 1 }
    else
      { r with
        highestAny := max r.highestAny height
        fresh := r.fresh + 1
        highestFresh := max r.highestFresh height }
  | _, _ => r

def readHeights (nodes : List SeiNode) (now : Int) : HeightReadings :=
  nodes.foldl (readHeight now) {}

def setProducing (status : ConditionStatus) (reason : ProducingReason) (message : String)
    (network : SeiNetwork) : SeiNetwork :=
  { network with status := { network.status with producing := some ⟨status, reason, message⟩ } }

def setObservedHeight (mark : ObservedHeight) (network : SeiNetwork) : SeiNetwork :=
  { network with status := { network.status with observedHeight := some mark } }

/-- The mark after a call with a fresh reading: it moves up with the fresh maximum, and
down when every reading sits below it. -/
def nextMark (prev : Option ObservedHeight) (r : HeightReadings) (now : Int) : ObservedHeight :=
  match prev with
  | none => ⟨r.highestFresh, now⟩
  | some mark =>
    if mark.height < r.highestFresh ∨ r.highestAny < mark.height then ⟨r.highestFresh, now⟩
    else mark

def heightAdvanced (prev : Option ObservedHeight) (r : HeightReadings) : Bool :=
  match prev with
  | none => decide (0 < r.highestFresh)
  | some mark => decide (mark.height < r.highestFresh)

def setProducingCondition (network : SeiNetwork) (nodes : List SeiNode) (now : Int) :
    SeiNetwork :=
  let count := toString nodes.length
  if nodes.isEmpty then
    network |> setProducing .conditionFalse .noNodes "no child SeiNodes exist"
  else
    let r := readHeights nodes now
    if r.fresh = 0 then
      if r.stale = 0 then
        network |> setProducing .conditionFalse .awaitingFirstBlock
          ("no committed-height reading yet from any of " ++ count
            ++ " child nodes (none Running long enough to report)")
      else
        network |> setProducing .conditionFalse .signalUnreadable
          ("no committed-height reading newer than " ++ text heightReadingMaxAge
            ++ " from any of " ++ count ++ " child nodes (" ++ toString r.stale ++ " stale, "
            ++ toString (nodes.length - r.stale) ++ " never read)")
    else
      let prev := network.status.observedHeight
      let mark := nextMark prev r now
      let network := setObservedHeight mark network
      if heightAdvanced prev r then
        network |> setProducing .conditionTrue .heightAdvancing
          ("observed height advanced to " ++ toString mark.height ++ " (" ++ toString r.fresh
            ++ "/" ++ count ++ " child readings fresh)")
      else
        let sinceAdvance := truncate (sub now mark.time) second
        if sinceAdvance ≤ producingWindow then
          if mark.height = 0 then
            network |> setProducing .conditionFalse .awaitingFirstBlock
              ("no block committed yet; " ++ text sinceAdvance ++ " of " ++ text producingWindow
                ++ " grace window elapsed")
          else
            network |> setProducing .conditionTrue .heightAdvancing
              ("observed height " ++ toString mark.height ++ " unchanged for "
                ++ text sinceAdvance ++ " (window " ++ text producingWindow
                ++ "; highest fresh reading " ++ toString r.highestFresh ++ ")")
        else if NetworkConsensusSpec.commitsOnDemand network.spec.consensus then
          network |> setProducing .conditionFalse .idle
            ("engine commits only when transactions arrive (allowEmptyBlocks off); height "
              ++ toString mark.height ++ " unchanged for " ++ text sinceAdvance)
        else
          network |> setProducing .conditionFalse .heightStalled
            ("observed height " ++ toString mark.height ++ " has not advanced for "
              ++ text sinceAdvance ++ " (window " ++ text producingWindow
              ++ "; highest fresh reading " ++ toString r.highestFresh ++ ")")

def SeiNetwork.isProducing (network : SeiNetwork) : Bool :=
  match network.status.producing with
  | some condition => condition.status == .conditionTrue
  | none => false

variable {nodes : List SeiNode}

section Readings

variable {now : Int}

theorem readHeight_highestFresh_le {bound : Int} {r : HeightReadings} {node : SeiNode}
    (low : r.highestFresh ≤ bound)
    (under : ∀ height, node.status.committedHeight = some height → height ≤ bound) :
    (readHeight now r node).highestFresh ≤ bound := by
  unfold readHeight
  split
  · next height time stored _ =>
    split
    · exact low
    · exact max_le low (under height stored)
  · exact low

theorem readHeights_highestFresh_le {bound : Int} (low : 0 ≤ bound)
    (under : ∀ node ∈ nodes, ∀ height, node.status.committedHeight = some height → height ≤ bound) :
    (readHeights nodes now).highestFresh ≤ bound := by
  have loop : ∀ r : HeightReadings, r.highestFresh ≤ bound →
      (nodes.foldl (readHeight now) r).highestFresh ≤ bound := by
    induction nodes with
    | nil => exact fun _ start => start
    | cons node rest ih =>
      intro r start
      refine ih (fun other inside => under other (List.mem_cons_of_mem _ inside)) _ ?_
      exact readHeight_highestFresh_le start (under node List.mem_cons_self)
  exact loop {} low

theorem readHeight_highestAny_mono (r : HeightReadings) (node : SeiNode) :
    r.highestAny ≤ (readHeight now r node).highestAny := by
  unfold readHeight
  split
  · split
    · exact le_max_left _ _
    · exact le_max_left _ _
  · exact le_refl _

theorem foldl_highestAny_mono (nodes : List SeiNode) (r : HeightReadings) :
    r.highestAny ≤ (nodes.foldl (readHeight now) r).highestAny := by
  induction nodes generalizing r with
  | nil => exact le_refl _
  | cons node rest ih => exact le_trans (readHeight_highestAny_mono r node) (ih _)

theorem le_readHeights_highestAny {node : SeiNode} {height time : Int} (child : node ∈ nodes)
    (stored : node.status.committedHeight = some height)
    (stamped : node.status.committedHeightTime = some time) :
    height ≤ (readHeights nodes now).highestAny := by
  have loop : ∀ r : HeightReadings, height ≤ (nodes.foldl (readHeight now) r).highestAny := by
    induction nodes with
    | nil => cases child
    | cons head rest ih =>
      intro r
      rw [List.foldl_cons]
      rcases List.mem_cons.mp child with rfl | later
      · have counted : height ≤ (readHeight now r node).highestAny := by
          unfold readHeight
          rw [stored, stamped]
          dsimp only
          split
          · exact le_max_right _ _
          · exact le_max_right _ _
        exact le_trans counted (foldl_highestAny_mono rest _)
      · exact ih later _
  exact loop {}

theorem readHeight_highestAny_nonneg (nodes : List SeiNode) :
    0 ≤ (readHeights nodes now).highestAny :=
  foldl_highestAny_mono nodes {}

end Readings

inductive ProducingCall (network : SeiNetwork) (nodes : List SeiNode) (now : Int) :
    SeiNetwork → Prop
  | unread {result : SeiNetwork}
      (mark : result.status.observedHeight = network.status.observedHeight)
      (notProducing : result.isProducing = false) : ProducingCall network nodes now result
  | read {result : SeiNetwork} (fresh : (readHeights nodes now).fresh ≠ 0)
      (mark : result.status.observedHeight =
        some (nextMark network.status.observedHeight (readHeights nodes now) now))
      (producing : result.isProducing = true →
        heightAdvanced network.status.observedHeight (readHeights nodes now) = true
        ∨ truncate
            (sub now (nextMark network.status.observedHeight (readHeights nodes now) now).time)
            second ≤ producingWindow) :
      ProducingCall network nodes now result

theorem setProducingCondition_call (network : SeiNetwork) (nodes : List SeiNode) (now : Int) :
    ProducingCall network nodes now (setProducingCondition network nodes now) := by
  unfold setProducingCondition
  dsimp only
  split
  · exact .unread rfl rfl
  split
  · split
    · exact .unread rfl rfl
    · exact .unread rfl rfl
  next fresh =>
  split
  · next advanced => exact .read fresh rfl fun _ => .inl advanced
  split
  · next inside =>
    split
    · exact .read fresh rfl fun _ => .inr inside
    · exact .read fresh rfl fun _ => .inr inside
  split
  · exact .read fresh rfl nofun
  · exact .read fresh rfl nofun

section HaltedChain

/-- The mark covers the halted chain: it was set no later than `T`, at a height no child
exceeds. -/
structure HaltedAt (T : Int) (network : SeiNetwork) (nodes : List SeiNode)
    (mark : ObservedHeight) : Prop where
  stored : network.status.observedHeight = some mark
  early : mark.time ≤ T
  nonneg : 0 ≤ mark.height
  highest : ∀ node ∈ nodes, ∀ height, node.status.committedHeight = some height →
    height ≤ mark.height

/-- Some child still reports the mark's height, fresh or stale. -/
def reportsMark (nodes : List SeiNode) (mark : ObservedHeight) : Prop :=
  mark.height = 0 ∨ ∃ node ∈ nodes, ∃ time,
    node.status.committedHeight = some mark.height ∧ node.status.committedHeightTime = some time

variable {T now : Int} {network : SeiNetwork} {mark : ObservedHeight}

theorem HaltedAt.not_advanced (halted : HaltedAt T network nodes mark) :
    ¬ mark.height < (readHeights nodes now).highestFresh :=
  not_lt.mpr (readHeights_highestFresh_le halted.nonneg halted.highest)

/-- While a child reports the mark's height, no call moves the mark. -/
theorem HaltedAt.nextMark (halted : HaltedAt T network nodes mark)
    (reported : reportsMark nodes mark) :
    nextMark network.status.observedHeight (readHeights nodes now) now = mark := by
  have covered : ¬ (readHeights nodes now).highestAny < mark.height := by
    rcases reported with zero | ⟨node, child, time, stored, stamped⟩
    · rw [zero]
      exact not_lt.mpr (readHeight_highestAny_nonneg nodes)
    · exact not_lt.mpr (le_readHeights_highestAny child stored stamped)
  rw [halted.stored]
  exact if_neg (not_or.mpr ⟨halted.not_advanced, covered⟩)

theorem HaltedAt.call (halted : HaltedAt T network nodes mark)
    (reported : (readHeights nodes now).fresh ≠ 0 → reportsMark nodes mark) :
    HaltedAt T (setProducingCondition network nodes now) nodes mark := by
  refine ⟨?_, halted.early, halted.nonneg, halted.highest⟩
  cases setProducingCondition_call network nodes now with
  | unread kept => rw [kept, halted.stored]
  | read fresh moved => rw [moved, halted.nextMark (reported fresh)]

/-- Past the window, and past the second that `Truncate` hides, a call on a halted chain
does not set the condition. -/
theorem HaltedAt.not_producing (halted : HaltedAt T network nodes mark)
    (reported : (readHeights nodes now).fresh ≠ 0 → reportsMark nodes mark)
    (late : T + producingWindow + second ≤ now) :
    (setProducingCondition network nodes now).isProducing = false := by
  cases setProducingCondition_call network nodes now with
  | unread _ notProducing => exact notProducing
  | read fresh _ producing =>
    by_contra isTrue
    rw [Bool.not_eq_false] at isTrue
    rcases producing isTrue with advanced | recent
    · rw [halted.stored] at advanced
      exact halted.not_advanced (of_decide_eq_true advanced)
    · rw [halted.nextMark (reported fresh)] at recent
      have short : sub now mark.time < producingWindow + second :=
        lt_add_of_truncate_le (by decide) recent
      have elapsed : now - mark.time ≤ producingWindow + second - 1 :=
        (sub_le_iff (by decide) (by decide)).mp (by omega)
      have early := halted.early
      omega

end HaltedChain

structure ProducingState where
  network : SeiNetwork
  nodes : List SeiNode

namespace ProducingState

/-- The status as the API server stores it: times in whole seconds. -/
def persisted (network : SeiNetwork) : SeiNetwork :=
  match network.status.observedHeight with
  | some mark => setObservedHeight { mark with time := wholeSeconds mark.time } network
  | none => network

def storedHeights (nodes : List SeiNode) : List (Option Int) :=
  nodes.map fun node => node.status.committedHeight

/-- A call, a round trip through the API server, or a change of the children that keeps
every stored height: new stamps, and children gone. -/
inductive Step (may : ProducingState → Int → Prop) : ProducingState → ProducingState → Prop
  | call {s : ProducingState} (now : Int) (allowed : may s now) :
      Step may s ⟨setProducingCondition s.network s.nodes now, s.nodes⟩
  | persist {s : ProducingState} : Step may s ⟨persisted s.network, s.nodes⟩
  | children {s : ProducingState} (nodes : List SeiNode)
      (settled : (storedHeights nodes).Sublist (storedHeights s.nodes)) :
      Step may s ⟨s.network, nodes⟩

/-- The states of a chain halted at `T`, from one whose mark a call at or before `T` has
set to the highest height of all children; `may` says which calls happen. -/
abbrev Reached (T : Int) (may : ProducingState → Int → Prop) : ProducingState → Prop :=
  Reachable (fun s => ∃ mark, HaltedAt T s.network s.nodes mark ∧ reportsMark s.nodes mark)
    (Step may)

/-- A call that finds the mark's height still reported, if it finds any fresh reading, and
that does not fall in the second after the window. -/
def covered (T : Int) (s : ProducingState) (now : Int) : Prop :=
  ((readHeights s.nodes now).fresh ≠ 0 →
    ∀ mark, s.network.status.observedHeight = some mark → reportsMark s.nodes mark)
  ∧ ¬ (T + producingWindow < now ∧ now < T + producingWindow + second)

variable {T : Int}

theorem haltedAt_persisted {network : SeiNetwork} {mark : ObservedHeight}
    (halted : HaltedAt T network nodes mark) :
    HaltedAt T (persisted network) nodes { mark with time := wholeSeconds mark.time } := by
  refine ⟨?_, le_trans (wholeSeconds_le _) halted.early, halted.nonneg, halted.highest⟩
  unfold persisted
  rw [halted.stored]
  rfl

theorem haltedAt_children {network : SeiNetwork} {rest : List SeiNode} {mark : ObservedHeight}
    (halted : HaltedAt T network nodes mark)
    (settled : (storedHeights rest).Sublist (storedHeights nodes)) :
    HaltedAt T network rest mark := by
  refine ⟨halted.stored, halted.early, halted.nonneg, fun node child height stored => ?_⟩
  have listed : some height ∈ storedHeights rest := stored ▸ List.mem_map_of_mem child
  obtain ⟨older, present, same⟩ := List.mem_map.mp (settled.subset listed)
  exact halted.highest older present height same

def markStands (T : Int) (s : ProducingState) : Prop :=
  ∃ mark, HaltedAt T s.network s.nodes mark

theorem markStands_of_reached {s : ProducingState} (reached : Reached T (covered T) s) :
    markStands T s := by
  refine reached.invariant (fun _ start => ?_) (fun _ _ halted move => ?_)
  · obtain ⟨mark, halted, _⟩ := start
    exact ⟨mark, halted⟩
  · obtain ⟨mark, halted⟩ := halted
    cases move with
    | call now allowed =>
      exact ⟨mark, halted.call fun fresh => allowed.1 fresh mark halted.stored⟩
    | persist => exact ⟨_, haltedAt_persisted halted⟩
    | children nodes settled => exact ⟨mark, haltedAt_children halted settled⟩

end ProducingState

open ProducingState

/-- On a halted chain whose mark stays reported, no call after the window sets Producing. -/
theorem halted_chain_not_producing {T now : Int} {s : ProducingState}
    (reached : Reached T (covered T) s) (allowed : covered T s now)
    (late : T + producingWindow < now) :
    (setProducingCondition s.network s.nodes now).isProducing = false := by
  obtain ⟨mark, halted⟩ := markStands_of_reached reached
  have past : T + producingWindow + second ≤ now := by
    have outside := allowed.2
    omega
  exact halted.not_producing (fun fresh => allowed.1 fresh mark halted.stored) past

section Samples

def reporting (name : String) (height time : Int) : SeiNode :=
  { name, status := { committedHeight := some height, committedHeightTime := some time } }

/-- The leader is two blocks ahead when the mark is set, at instant zero. -/
def leaderAndFollower : ProducingState where
  network := setProducingCondition {} [reporting "val-0" 12 0, reporting "val-1" 10 0] 0
  nodes := [reporting "val-0" 12 0, reporting "val-1" 10 0]

theorem reached_leaderAndFollower (may : ProducingState → Int → Prop) :
    Reached 0 may leaderAndFollower := by
  refine .start ⟨⟨12, 0⟩, ⟨by decide, le_refl _, by decide, ?_⟩, .inr ?_⟩
  · intro node child height stored
    rcases List.mem_pair.mp child with rfl | rfl
    · obtain rfl : 12 = height := Option.some.inj stored
      decide
    · obtain rfl : 10 = height := Option.some.inj stored
      decide
  · exact ⟨_, List.mem_cons_self, 0, rfl, rfl⟩

def followerFresh : ProducingState where
  network := leaderAndFollower.network
  nodes := [reporting "val-0" 12 0, reporting "val-1" 10 (3 * minute)]

theorem stale_leader_not_producing :
    (setProducingCondition followerFresh.network followerFresh.nodes
      (3 * minute)).isProducing = false := by
  have reached : Reached 0 (covered 0) followerFresh :=
    .next (reached_leaderAndFollower _) (.children _ (by decide))
  refine halted_chain_not_producing reached ⟨fun _ mark stored => .inr ?_, by decide⟩ (by decide)
  obtain rfl : (⟨12, 0⟩ : ObservedHeight) = mark := Option.some.inj stored
  exact ⟨_, List.mem_cons_self, 0, rfl, rfl⟩

/-- The leader is deleted: the follower's next reading restarts the window of a chain that
has been halted for ten minutes. -/
theorem deleted_leader_restarts_window :
    ∃ s, Reached 0 (fun _ _ => True) s ∧ 0 + producingWindow < 10 * minute
      ∧ (setProducingCondition s.network s.nodes (10 * minute)).isProducing = true := by
  refine ⟨⟨leaderAndFollower.network, [reporting "val-1" 10 (10 * minute)]⟩, ?_, by decide,
    by decide⟩
  exact .next (reached_leaderAndFollower _) (.children _ (by decide))

end Samples

end SeiController
