import Mathlib.Logic.Relation
import SeiController.Lib.System
import SeiController.Network.Ceremony

/-!
# What every run of the ceremony keeps

Nothing is assumed of the replies a reconcile gets, so its runs cover whatever others do
between two calls, every refused call, and a controller that stops anywhere.
-/

set_option autoImplicit false

namespace SeiController.Ceremony

/-! ## What is kept -/

/-- PlanInProgress mirrors the stored plan, which is active, and no plan outlives the
ceremony. -/
structure Coherent (status : NetworkStatus) : Prop where
  mirrored : conditionTrue status.planInProgress = status.plan.isSome
  active : ∀ plan ∈ status.plan, plan.phase = .active
  settled : conditionTrue status.genesisCeremonyComplete = true → status.plan = none

/-- How a plan can end: the reason of PlanInProgress, and what the ceremony's condition says. -/
def endings : List (PlanReason × ConditionStatus × CeremonyReason) :=
  [(.planComplete, .conditionTrue, .complete), (.planFailed, .conditionFalse, .ceremonyFailed),
    (.validatorLost, .conditionFalse, .validatorLost), (.validatorLost, .conditionTrue, .adoptedSet)]

def TellsEnding (status : NetworkStatus) : Prop :=
  ∃ progress ∈ status.planInProgress, ∃ ceremony ∈ status.genesisCeremonyComplete,
    (progress.reason, ceremony.status, ceremony.reason) ∈ endings

structure Succeeds (old new : NetworkStatus) : Prop where
  coherent : Coherent new
  latched : conditionTrue old.genesisCeremonyComplete = true →
    conditionTrue new.genesisCeremonyComplete = true
  ended : old.plan.isSome → new.plan.isNone → TellsEnding new

/-- What a run has been told: the newest listing of the namespace, and the children that were
released since, as their patches left them. -/
structure Seen where
  listed : List ChildNode := []
  retained : List ChildNode := []

def observe (seen : Seen) : (call : Call) → Reply call → Seen
  | .listNodes, .ok nodes => ⟨nodes, []⟩
  | .retain node, .ok _ => { seen with retained := node :: seen.retained }
  | _, _ => seen

def Idle (network : Network) : Prop :=
  network.deletionTimestamp = none ∧ network.status.plan = none

/-- An update that turns the pause of a listed child and keeps all else. -/
def TurnsPause (network : Network) (seen : Seen) (node : ChildNode) : Prop :=
  ∃ child ∈ seen.listed, child.childOf network ∧
    node = { child with spec := { child.spec with paused := !child.spec.paused } }

/-- Children are created and re-specced while the network is idle, but for their pause, and
the executor gets the stored plan. -/
def Gated (network : Network) (seen : Seen) : Call → Prop
  | .createNode _ => Idle network
  | .updateNode node =>
    Idle network ∨ network.deletionTimestamp = none ∧ TurnsPause network seen node
  | .executePlan plan => network.deletionTimestamp = none ∧ network.status.plan = some plan
  | _ => True

/-- A listed child is deleted under a stored plan only if the listing shows no child older
than the network. -/
def SparesAdopted (network : Network) (seen : Seen) : Call → Prop
  | .deleteNode name => network.deletionTimestamp = none ∧
    (∃ node ∈ seen.listed, node.childOf network ∧ node.name = name) ∧
    (network.status.plan.isSome → ∀ node ∈ seen.listed, node.childOf network →
      network.creationTimestamp ≤ node.creationTimestamp)
  | _ => True

/-- The child has been released: what its patch left names the network as no owner. -/
def Released (network : Network) (seen : Seen) (node : ChildNode) : Prop :=
  ∃ released ∈ seen.retained, released.name = node.name ∧
    ∀ ref ∈ released.ownerReferences, ref.uid ≠ network.uid

/-- Under Retain the finalizer goes when every listed child has been released. -/
def ReleasesFirst (network : Network) (seen : Seen) : Call → Prop
  | .patchFinalizer current false => current.spec.deletionPolicy = .retain →
    ∀ node ∈ seen.listed, node.childOf network → Released network seen node
  | _ => True

def PatchesSoundly (network : Network) : Call → Prop
  | .patchStatus status => Succeeds network.status status
  | _ => True

structure Lawful (network : Network) (seen : Seen) (call : Call) : Prop where
  gated : Gated network seen call := by exact trivial
  spares : SparesAdopted network seen call := by exact trivial
  releases : ReleasesFirst network seen call := by exact trivial
  patches : PatchesSoundly network call := by exact trivial

abbrev discipline (network : Network) : Program.Monitor Call Reply Seen :=
  ⟨Lawful network, observe⟩

/-! ## Every call keeps to the discipline -/

open Program (Follows)

/-- The object a reconcile works on is the network it read, but for spec and status. -/
def Views (read network : Network) : Prop :=
  network.name = read.name ∧ network.uid = read.uid ∧
    network.creationTimestamp = read.creationTimestamp

structure Ready (read network : Network) : Prop where
  views : Views read network
  succeeds : Succeeds read.status network.status

/-- Before the plan is reconciled, the object carries the stored one. -/
structure Seeded (read network : Network) : Prop where
  views : Views read network
  coherent : Coherent network.status
  latched : conditionTrue read.status.genesisCeremonyComplete = true →
    conditionTrue network.status.genesisCeremonyComplete = true
  plan : network.status.plan = read.status.plan

/-- Whatever the run has seen, the program keeps to the discipline. -/
structure Keeps {α : Type} (read : Network) (P : α → Prop) (program : Run α) : Prop where
  follows : ∀ seen, Follows (discipline read) (fun _ value => P value) seen program

abbrev Quiet {α : Type} (read : Network) (program : Run α) : Prop :=
  Keeps read (fun _ => True) program

variable {read network : Network} {α β : Type}

namespace Keeps

variable {P : α → Prop} {Q : β → Prop}

theorem done {value : α} (holds : P value) : Keeps read P (.done value) := ⟨fun _ => holds⟩

theorem fail {err : String} : Keeps read P (.fail err) := ⟨fun _ => trivial⟩

theorem bind {program : Run α} {rest : α → Run β} (first : Keeps read P program)
    (second : ∀ value, P value → Keeps read Q (rest value)) :
    Keeps read Q (program >>= rest) :=
  ⟨fun seen => (first.follows seen).bind fun seen value holds => (second value holds).follows seen⟩

theorem perform_bind {call : Call} {rest : Reply call → Run α}
    (may : ∀ seen, Lawful read seen call) (later : ∀ reply, Keeps read P (rest reply)) :
    Keeps read P (Program.perform call >>= rest) :=
  ⟨fun seen => ⟨may seen, fun reply => (later reply).follows _⟩⟩

theorem attempt (call : Call) (may : ∀ seen, Lawful read seen call) :
    Quiet read (attempt call) := by
  refine perform_bind may fun reply => ?_
  cases reply with
  | ok value => exact done trivial
  | error err => exact fail

theorem forM {body : β → Run PUnit} (items : List β) (each : ∀ item, Quiet read (body item)) :
    Quiet read (items.forM body) :=
  ⟨fun _ => Follows.forM (fun _ _ => True) (fun item _ seen _ => (each item).follows seen) items
    trivial⟩

end Keeps

/-! ### Children -/

theorem list_follows (views : Views read network) (seen : Seen) :
    Follows (discipline read) (fun seen nodes => nodes = seen.listed.filter (·.childOf read)) seen
      (listChildSeiNodes network) := by
  refine ⟨{}, fun reply => ?_⟩
  cases reply with
  | error err => trivial
  | ok nodes =>
    have same (node : ChildNode) : node.childOf network = node.childOf read := by
      simp [ChildNode.childOf, seinetworkSelector, ChildNode.controlledBy, views.1, views.2.1]
    exact List.filter_congr fun node _ => same node

theorem list_quiet (views : Views read network) :
    Quiet read (listChildSeiNodes network) :=
  ⟨fun seen => (list_follows views seen).mono fun _ _ _ => trivial⟩

theorem ensureSeiNode_quiet (idle : Idle read) (ordinal : Nat) :
    Quiet read (ensureSeiNode network ordinal) := by
  refine .perform_bind (fun _ => {}) fun reply => ?_
  rcases reply with (_ | message) | existing
  · exact .attempt (.createNode _) fun _ => { gated := idle }
  · exact .fail
  · dsimp only
    split
    · exact .done trivial
    · split
      · exact .fail
      · split
        · exact .done trivial
        · exact .attempt (.updateNode _) fun _ => { gated := .inl idle }

/-- A loop over children whose calls show the run nothing new. -/
theorem forM_follows {seen : Seen} {body : ChildNode → Run PUnit} (nodes : List ChildNode)
    (each : ∀ node ∈ nodes, Follows (discipline read) (fun now _ => now = seen) seen (body node)) :
    Follows (discipline read) (fun now _ => now = seen) seen (nodes.forM body) := by
  refine (Follows.forM (fun rest now => now = seen ∧ ∀ node ∈ rest, node ∈ nodes) ?_ nodes
    ⟨rfl, fun _ => id⟩).mono fun _ _ ends => ends.1
  rintro node rest _ ⟨rfl, inside⟩
  refine (each node (inside node List.mem_cons_self)).mono fun _ _ same => ⟨same, ?_⟩
  exact fun other later => inside other (List.mem_cons_of_mem node later)

theorem delete_follows {seen : Seen} {node : ChildNode}
    (spares : SparesAdopted read seen (.deleteNode node.name)) :
    Follows (discipline read) (fun now _ => now = seen) seen (deleteIgnoringNotFound node) := by
  refine ⟨{ spares := spares }, fun reply => ?_⟩
  rcases reply with (_ | _) | _
  exacts [rfl, trivial, rfl]

theorem scaleDown_quiet (views : Views read network) (idle : Idle read) :
    Quiet read (scaleDown network) := by
  unfold scaleDown
  split
  · exact .done trivial
  · refine ⟨fun seen => (list_follows views seen).bind ?_⟩
    rintro seen _ rfl
    refine (forM_follows _ fun node doomed => delete_follows ⟨idle.1, ⟨node, ?_, ?_, rfl⟩, ?_⟩).mono
      fun _ _ _ => trivial
    · exact (List.mem_filter.mp (List.mem_filter.mp doomed).1).1
    · exact (List.mem_filter.mp (List.mem_filter.mp doomed).1).2
    · rw [idle.2]
      nofun

theorem syncPaused_quiet (views : Views read network) (live : read.deletionTimestamp = none) :
    Quiet read (syncPausedToChildren network) := by
  refine ⟨fun seen => (list_follows views seen).bind ?_⟩
  rintro seen _ rfl
  refine (forM_follows _ fun child turned => ?_).mono fun _ _ _ => trivial
  obtain ⟨listed, differs⟩ := List.mem_filter.mp turned
  obtain ⟨listed, owned⟩ := List.mem_filter.mp listed
  have turn : network.spec.paused = !child.spec.paused := by
    revert differs
    cases child.spec.paused <;> cases network.spec.paused <;> simp
  refine ⟨{ gated := .inr ⟨live, child, listed, owned, by rw [turn]⟩ }, fun reply => ?_⟩
  rcases reply with _ | _
  exacts [trivial, rfl]

theorem reconcileSeiNodes_keeps (seeded : Seeded read network)
    (live : read.deletionTimestamp = none) :
    Keeps read (Seeded read) (reconcileSeiNodes network) := by
  have coherent := seeded.coherent
  have populate : Keeps read (Seeded read) (populateIncumbentNodes network) :=
    (list_quiet seeded.views).bind fun _ _ => .done ⟨seeded.views,
      ⟨coherent.mirrored, coherent.active, coherent.settled⟩, seeded.latched, seeded.plan⟩
  unfold reconcileSeiNodes
  split
  · exact populate
  · rename_i unlocked
    simp only [Bool.or_eq_true, not_or, Bool.not_eq_true] at unlocked
    have idle : Idle read := by
      refine ⟨live, ?_⟩
      rw [← seeded.plan, ← Option.not_isSome_iff_eq_none, ← coherent.mirrored]
      exact Bool.eq_false_iff.mp unlocked.2
    refine Keeps.bind (.forM _ (ensureSeiNode_quiet idle)) fun _ _ => ?_
    exact (scaleDown_quiet seeded.views idle).bind fun _ _ => populate

/-! ### The plan -/

/-- An active plan may be dropped whatever becomes of the ceremony: it was not complete. -/
theorem Ready.dropPlan (ready : Ready read network) (driven : network.status.plan.isSome)
    {status : ConditionStatus} {reason : CeremonyReason} {cause : PlanReason}
    (ending : (cause, status, reason) ∈ endings) (message why : String) :
    Ready read ((network.setCeremony status reason message).dropPlan cause why) where
  views := ready.views
  succeeds.coherent := ⟨rfl, fun _ stored => (Option.not_mem_none _ stored).elim, fun _ => rfl⟩
  succeeds.latched complete := by
    have none := ready.succeeds.coherent.settled (ready.succeeds.latched complete)
    rw [none] at driven
    cases driven
  succeeds.ended _ _ := ⟨_, rfl, _, rfl, ending⟩

theorem abandonPlan_keeps (ready : Ready read network) (plan : TaskPlan)
    (driven : network.status.plan.isSome) (live : read.deletionTimestamp = none) :
    Keeps read (Ready read) (abandonPlanForLostValidator network plan) := by
  refine ⟨fun seen => (list_follows ready.views seen).bind ?_⟩
  rintro seen _ rfl
  split
  · rename_i minted
    have young : ∀ node ∈ seen.listed, node.childOf read →
        read.creationTimestamp ≤ node.creationTimestamp := fun node member child => by
      rw [← ready.views.2.2]
      exact of_decide_eq_true
        (List.all_eq_true.mp minted node (List.mem_filter.mpr ⟨member, child⟩))
    refine (forM_follows _ fun node doomed => ?_).bind fun _ _ _ =>
      ready.dropPlan driven (by decide) _ _
    obtain ⟨listed, child⟩ := List.mem_filter.mp (List.mem_filter.mp doomed).1
    exact delete_follows ⟨live, ⟨node, listed, child, rfl⟩, fun _ => young⟩
  · exact ready.dropPlan driven (by decide) _ _

theorem drivePlan_keeps (ready : Ready read network) {plan : TaskPlan}
    (driven : network.status.plan.isSome)
    (stored : read.deletionTimestamp = none ∧ read.status.plan = some plan) :
    Keeps read (Ready read) (drivePlan network plan) := by
  refine Keeps.bind (.attempt (.executePlan plan) fun _ => { gated := stored }) ?_
  intro plan _
  dsimp only
  split
  · exact .done (ready.dropPlan driven (by decide) _ _)
  · exact .done (ready.dropPlan driven (by decide) _ _)
  · rename_i active
    have coherent := ready.succeeds.coherent
    refine .done ⟨ready.views, ⟨coherent.mirrored.trans driven, ?_, ?_⟩, ready.succeeds.latched,
      fun _ ended => by cases ended⟩
    · rintro _ ⟨⟩
      exact active
    · intro complete
      rw [coherent.settled complete] at driven
      cases driven

theorem buildPlan_active {env : Env} {plan : TaskPlan} (built : buildPlan env network = .ok plan) :
    plan.phase = .active := by
  unfold buildPlan at built
  dsimp only at built
  split at built <;> cases built
  rfl

theorem reconcilePlan_keeps (seeded : Seeded read network) (live : read.deletionTimestamp = none)
    (env : Env) :
    Keeps read (Ready read) (reconcilePlan env network) := by
  have plan := seeded.plan
  have ready : Ready read network :=
    ⟨seeded.views, seeded.coherent, seeded.latched, fun driven ended => by simp_all⟩
  unfold reconcilePlan
  split
  · exact .done ready
  · split
    · rename_i plan active
      have stored := (Option.filter_eq_some_iff.mp active).1
      have driven : network.status.plan.isSome := by
        rw [stored]
        rfl
      split
      · exact abandonPlan_keeps ready plan driven live
      · exact drivePlan_keeps ready driven ⟨live, seeded.plan ▸ stored⟩
    · split
      · rename_i needed
        simp only [needsGenesisPlan, Bool.and_eq_true, Bool.not_eq_true'] at needed
        split
        · rename_i plan built
          refine .done ⟨ready.views, ⟨rfl, ?_, ?_⟩, ready.succeeds.latched,
            fun _ ended => by cases ended⟩
          · rintro _ ⟨⟩
            exact buildPlan_active built
          · exact fun complete => absurd complete (Bool.eq_false_iff.mp needed.1.2)
        · exact .fail
      · exact .done ready

/-! ### The reconcile -/

theorem seeded_ceremony (views : Views read network) (coherent : Coherent read.status)
    (same : network.status = read.status) : Seeded read (setGenesisCeremonyCondition network) := by
  rw [← same] at coherent
  have unchanged : Seeded read network := ⟨views, coherent, by simp [same], by rw [same]⟩
  have cleared (incomplete : ¬network.ceremonyComplete) (reason : CeremonyReason)
      (message : String) : Seeded read (network.setCeremony .conditionFalse reason message) :=
    ⟨views, ⟨coherent.mirrored, coherent.active, fun complete => by cases complete⟩,
      fun complete => absurd (unchanged.latched complete) incomplete, unchanged.plan⟩
  unfold setGenesisCeremonyCondition
  split
  · exact unchanged
  · rename_i incomplete
    split
    · exact cleared incomplete _ _
    · split
      exacts [unchanged, unchanged, cleared incomplete _ _]

theorem seeded_seed (views : Views read network) (coherent : Coherent read.status)
    (same : network.status = read.status) : Seeded read (seedAlwaysPresentConditions network) := by
  have seeded := seeded_ceremony views coherent same
  unfold seedAlwaysPresentConditions
  generalize setGenesisCeremonyCondition network = network at seeded
  have coherent := seeded.coherent
  dsimp only [setConfigValuesValidCondition]
  split
  · exact ⟨seeded.views, ⟨coherent.mirrored, coherent.active, coherent.settled⟩, seeded.latched,
      seeded.plan⟩
  · rename_i absent
    have mirrored : false = network.status.plan.isSome := by
      rw [← coherent.mirrored, absent]
      rfl
    exact ⟨seeded.views, ⟨mirrored, coherent.active, coherent.settled⟩, seeded.latched, seeded.plan⟩

theorem retain_disowns (views : Views read network) (node : ChildNode) :
    ∀ ref ∈ (retain network node).ownerReferences, ref.uid ≠ read.uid := by
  intro ref kept
  rw [← views.2.1]
  simpa using (List.mem_filter.mp kept).2

/-- When the loop over the listed children is through, each of them has been released. -/
theorem retainAll_follows (views : Views read network) (seen : Seen) :
    Follows (discipline read)
      (fun now _ => ∀ node ∈ now.listed, node.childOf read → Released read now node) seen
      ((seen.listed.filter (·.childOf read)).forM fun node =>
        attempt (.retain (retain network node))) := by
  -- A child is released already or among those to come.
  refine (Follows.forM (fun rest now => now.listed = seen.listed ∧
    ∀ node ∈ seen.listed, node.childOf read → Released read now node ∨ node ∈ rest)
    ?_ _ ⟨rfl, fun node member child => .inr (List.mem_filter.mpr ⟨member, child⟩)⟩).mono ?_
  · rintro node rest now ⟨same, released⟩
    refine ⟨{}, fun reply => ?_⟩
    cases reply with
    | error err => trivial
    | ok _ =>
      refine ⟨same, fun other member child => ?_⟩
      rcases released other member child with ⟨before, listed, is⟩ | listed
      · exact .inl ⟨before, List.mem_cons_of_mem _ listed, is⟩
      · rcases List.mem_cons.mp listed with rfl | later
        · exact .inl ⟨_, List.mem_cons_self, rfl, retain_disowns views other⟩
        · exact .inr later
  · rintro now _ ⟨same, released⟩ node member child
    exact (released node (same ▸ member) child).resolve_right List.not_mem_nil

theorem handleDeletion_quiet (coherent : Coherent read.status) :
    Quiet read (handleDeletion read) := by
  unfold handleDeletion
  split
  · exact .done trivial
  · have same : Succeeds read.status read.status := ⟨coherent, id, fun driven ended => by simp_all⟩
    refine Keeps.bind (.attempt (.patchStatus _) fun _ => { patches := same }) fun response _ => ?_
    dsimp only
    generalize current : read.refresh response = network
    have views : Views read network := current ▸ ⟨rfl, rfl, rfl⟩
    have cascades (policy : network.spec.deletionPolicy ≠ .retain) :
        Quiet read (attempt (.patchFinalizer network false)) :=
      .attempt _ fun _ => { releases := fun retain => absurd retain policy }
    split
    iterate 2
      rename_i policy
      exact (cascades (by simp [policy])).bind fun _ _ => .done trivial
    · refine ⟨fun seen => (list_follows views seen).bind ?_⟩
      rintro seen _ rfl
      refine (retainAll_follows views seen).bind fun now _ released => ⟨{}, fun reply => ?_⟩
      cases reply with
      | error err => trivial
      | ok _ =>
        refine ⟨{ releases := fun _ => released }, fun reply => ?_⟩
        cases reply <;> trivial

theorem reconcile_quiet (env : Env) (coherent : Coherent read.status) :
    Quiet read (reconcile env read) := by
  unfold reconcile
  split
  · exact handleDeletion_quiet coherent
  · rename_i live
    have live := Option.not_isSome_iff_eq_none.mp live
    refine Keeps.bind (P := fun base => Views read base ∧ base.status = read.status) ?_ ?_
    · unfold ensureFinalizer
      split
      · exact .done ⟨⟨rfl, rfl, rfl⟩, rfl⟩
      · exact (Keeps.attempt (.patchFinalizer _ true) fun _ => {}).bind fun _ _ =>
          .done ⟨⟨rfl, rfl, rfl⟩, rfl⟩
    · rintro base ⟨views, same⟩
      have seeded := seeded_seed views coherent same
      dsimp only
      generalize seedAlwaysPresentConditions base = network at seeded
      refine (syncPaused_quiet seeded.views live).bind fun _ _ => ?_
      refine Keeps.bind (.attempt .internalService fun _ => {}) fun _ _ => ?_
      refine (reconcileSeiNodes_keeps seeded live).bind fun _ seeded => ?_
      refine (reconcilePlan_keeps seeded live env).bind fun after ready => ?_
      refine (list_quiet ready.views).bind fun _ _ => ?_
      exact (Keeps.attempt (.patchStatus _) fun _ => { patches := ready.succeeds }).bind
        fun _ _ => .done trivial

/-! ## Whole runs -/

/-- Some run of the reconcile comes to the call, and has seen what it has by then. -/
def Comes (env : Env) (network : Network) (seen : Seen) (call : Call) : Prop :=
  ∃ next, Program.Attains (fun before call reply after => after = observe before call reply)
    (reconcile env network) {} (.call call next) seen

theorem Comes.lawful {env : Env} {seen : Seen} {call : Call} (comes : Comes env network seen call)
    (coherent : Coherent network.status) : Lawful network seen call := by
  obtain ⟨next, attains⟩ := comes
  obtain ⟨_, follows, rfl⟩ := Program.Follows.attains (R := Eq)
    (fun _ _ _ _ _ _ same answered => by rw [answered, same]) attains
    ((reconcile_quiet env coherent).follows {}) rfl
  exact follows.1

/-- Some run of a reconcile that read `old` comes to patch it to `new`.  By the optimistic
lock, `old` is what is stored. -/
def Patches (old new : NetworkStatus) : Prop :=
  ∃ env network seen, network.status = old ∧ Comes env network seen (.patchStatus new)

theorem Patches.succeeds {old new : NetworkStatus} (patches : Patches old new)
    (coherent : Coherent old) : Succeeds old new := by
  obtain ⟨env, network, seen, rfl, comes⟩ := patches
  exact (comes.lawful coherent).patches

/-- The statuses a network can have: none at first, then one patch after the other. -/
abbrev Stored : NetworkStatus → Prop := Reachable (· = {}) Patches

theorem Stored.coherent {status : NetworkStatus} (stored : Stored status) : Coherent status := by
  refine stored.invariant ?_ fun _ _ coherent patches => (patches.succeeds coherent).coherent
  rintro _ rfl
  exact ⟨rfl, fun _ stored => (Option.not_mem_none _ stored).elim, fun _ => rfl⟩

/-! ### Sample runs -/

def sampleEnv : Env := ⟨"", quietChecks⟩

def sampleNetwork (status : NetworkStatus) (deletionTimestamp : Option Nat) : Network where
  name := "pacific"
  nameSpace := "default"
  uid := "network"
  creationTimestamp := 5
  deletionTimestamp := deletionTimestamp
  finalizer := true
  spec := { replicas := 2, accountBalance := "1usei", deletionPolicy := .retain }
  status := status

def sampleChild (ordinal : Nat) : ChildNode :=
  { generateSeiNode (sampleNetwork {} none) ordinal with
    creationTimestamp := 7
    ownerReferences := [(sampleNetwork {} none).controllerRef] }

def sampleStarted : NetworkStatus :=
  let network := seedAlwaysPresentConditions (sampleNetwork {} none)
  let network := { network with status := { network.status with
    incumbentNodes := [(sampleChild 0).name, (sampleChild 1).name] } }
  match buildPlan sampleEnv network with
  | .ok plan => (startPlan network plan).status
  | .error _ => {}

theorem told {s t : Seen} (call : Call) {next : Reply call → Run Unit} {rest : Run Unit}
    (reply : Reply call) (later : Program.Attains
      (fun before call reply after => after = observe before call reply) (next reply)
      (observe s call reply) rest t) :
    Program.Attains (fun before call reply after => after = observe before call reply)
      (.call call next) s rest t :=
  .call rfl later

/-- The first reconcile creates both children and starts the ceremony. -/
theorem sampleStarted_stored : Stored sampleStarted :=
  .next (.start rfl) ⟨sampleEnv, sampleNetwork {} none, _, rfl, _,
    told .listNodes (.ok []) <| told .internalService (.ok ()) <|
    told (.getNode _) (.error .notFound) <| told (.createNode _) (.ok ()) <|
    told (.getNode _) (.error .notFound) <| told (.createNode _) (.ok ()) <|
    told .listNodes (.ok []) <| told .listNodes (.ok [sampleChild 0, sampleChild 1]) <|
    told .listNodes (.ok []) <| .here _ _⟩

theorem plan_in_progress_iff_stored {status : NetworkStatus} (stored : Stored status) :
    (conditionTrue status.planInProgress = true ↔ status.plan.isSome) ∧
      ∀ plan ∈ status.plan, plan.phase = .active :=
  ⟨by rw [stored.coherent.mirrored], stored.coherent.active⟩

theorem first_patch_mirrors : sampleStarted.plan.isSome ∧
    (conditionTrue sampleStarted.planInProgress = true ↔ sampleStarted.plan.isSome) ∧
      ∀ plan ∈ sampleStarted.plan, plan.phase = .active :=
  ⟨rfl, plan_in_progress_iff_stored sampleStarted_stored⟩

theorem completed_ceremony_stays {old new : NetworkStatus} (coherent : Coherent old)
    (complete : conditionTrue old.genesisCeremonyComplete = true)
    (later : Relation.ReflTransGen Patches old new) :
    conditionTrue new.genesisCeremonyComplete = true ∧ new.plan = none := by
  have kept : Coherent new ∧ conditionTrue new.genesisCeremonyComplete = true := by
    induction later with
    | refl => exact ⟨coherent, complete⟩
    | tail _ patches ih =>
      have succeeds := patches.succeeds ih.1
      exact ⟨succeeds.coherent, succeeds.latched ih.2⟩
  exact ⟨kept.2, kept.1.settled kept.2⟩

def sampleCompleted : NetworkStatus :=
  (completePlan (seedAlwaysPresentConditions (sampleNetwork sampleStarted none))).status

theorem sampleCompleted_stored : Stored sampleCompleted :=
  .next sampleStarted_stored ⟨sampleEnv, sampleNetwork sampleStarted none, _, rfl, _,
    told .listNodes (.ok []) <| told .internalService (.ok ()) <|
    told .listNodes (.ok [sampleChild 0, sampleChild 1]) <|
    told (.executePlan _) (.ok { assembleSteps "" [] with phase := .complete }) <|
    told .listNodes (.ok []) <| .here _ _⟩

/-- After the ceremony both children are lost, and the next reconcile creates them again
without a ceremony. -/
theorem completed_ceremony_stays_live : ∃ new, Stored sampleCompleted ∧
    Patches sampleCompleted new ∧ sampleCompleted ≠ new ∧
      conditionTrue new.genesisCeremonyComplete = true ∧ new.plan = none := by
  have patches : Patches sampleCompleted _ := ⟨sampleEnv, sampleNetwork sampleCompleted none, _,
    rfl, _,
    told .listNodes (.ok []) <| told .internalService (.ok ()) <|
    told (.getNode _) (.error .notFound) <| told (.createNode _) (.ok ()) <|
    told (.getNode _) (.error .notFound) <| told (.createNode _) (.ok ()) <|
    told .listNodes (.ok []) <| told .listNodes (.ok []) <|
    told .listNodes (.ok []) <| .here _ _⟩
  refine ⟨_, sampleCompleted_stored, patches, fun same => ?_,
    completed_ceremony_stays sampleCompleted_stored.coherent rfl (.single patches)⟩
  cases congrArg NetworkStatus.incumbentNodes same

variable {env : Env} {seen : Seen}

/-- Under a stored plan the controller leaves the set of children and, but for their pause,
their specs to the executor, and it does not fight a deletion. -/
theorem children_change_between_plans {call : Call} (stored : Stored network.status)
    (comes : Comes env network seen call) : Gated network seen call :=
  (comes.lawful stored.coherent).gated

/-- A founding validator that someone paused is resumed under the ceremony's plan. -/
theorem resumed_under_plan : ∃ seen node, Stored sampleStarted ∧
    Comes sampleEnv (sampleNetwork sampleStarted none) seen (.updateNode node) ∧
      TurnsPause (sampleNetwork sampleStarted none) seen node := by
  let paused : ChildNode :=
    { sampleChild 0 with spec := { (sampleChild 0).spec with paused := true } }
  have comes : Comes sampleEnv (sampleNetwork sampleStarted none) _ (.updateNode _) :=
    ⟨_, told .listNodes (.ok [paused]) <| .here _ _⟩
  rcases children_change_between_plans sampleStarted_stored comes with idle | ⟨_, turns⟩
  · cases idle.2
  · exact ⟨_, _, sampleStarted_stored, comes, turns⟩

theorem teardown_spares_adopted {name : String} (stored : Stored network.status)
    (planned : network.status.plan.isSome) (comes : Comes env network seen (.deleteNode name)) :
    network.deletionTimestamp = none ∧
      (∃ node ∈ seen.listed, node.childOf network ∧ node.name = name) ∧
      ∀ node ∈ seen.listed, node.childOf network →
        network.creationTimestamp ≤ node.creationTimestamp := by
  obtain ⟨live, listed, young⟩ := (comes.lawful stored.coherent).spares
  exact ⟨live, listed, young planned⟩

/-- One of two founding validators is gone, and the other is torn down. -/
theorem founding_set_torn_down : ∃ seen,
    Comes sampleEnv (sampleNetwork sampleStarted none) seen (.deleteNode (sampleChild 0).name) ∧
      (∃ node ∈ seen.listed, node.childOf (sampleNetwork sampleStarted none) ∧
        node.name = (sampleChild 0).name) ∧
      ∀ node ∈ seen.listed, node.childOf (sampleNetwork sampleStarted none) →
        5 ≤ node.creationTimestamp := by
  have comes : Comes sampleEnv (sampleNetwork sampleStarted none) _
      (.deleteNode (sampleChild 0).name) :=
    ⟨_, told .listNodes (.ok []) <| told .internalService (.ok ()) <|
    told .listNodes (.ok [sampleChild 0]) <| told .listNodes (.ok [sampleChild 0]) <| .here _ _⟩
  exact ⟨_, comes, (teardown_spares_adopted sampleStarted_stored rfl comes).2⟩

theorem retain_releases_first {current : Network} (stored : Stored network.status)
    (comes : Comes env network seen (.patchFinalizer current false))
    (policy : current.spec.deletionPolicy = .retain) :
    ∀ node ∈ seen.listed, node.childOf network → Released network seen node :=
  (comes.lawful stored.coherent).releases policy

theorem founding_set_released : ∃ seen current,
    Comes sampleEnv (sampleNetwork sampleStarted (some 1)) seen (.patchFinalizer current false) ∧
      seen.listed.length = 2 ∧
      ∀ node ∈ seen.listed, node.childOf (sampleNetwork sampleStarted (some 1)) →
        Released (sampleNetwork sampleStarted (some 1)) seen node := by
  have comes : Comes sampleEnv (sampleNetwork sampleStarted (some 1)) _ (.patchFinalizer _ false) :=
    ⟨_, told (.patchStatus _) (.ok ⟨(sampleNetwork {} none).spec, some 1⟩) <|
    told .listNodes (.ok [sampleChild 0, sampleChild 1]) <|
    told (.retain _) (.ok ()) <| told (.retain _) (.ok ()) <| told .internalService (.ok ()) <|
    .here _ _⟩
  exact ⟨_, _, comes, rfl, retain_releases_first sampleStarted_stored comes rfl⟩

theorem ended_plan_is_told {status : NetworkStatus} (stored : Stored network.status)
    (comes : Comes env network seen (.patchStatus status)) (driven : network.status.plan.isSome)
    (ended : status.plan.isNone) : TellsEnding status :=
  (comes.lawful stored.coherent).patches.ended driven ended

/-- The executor's pass finds that the plan has failed. -/
theorem failed_plan_is_told : ∃ seen status,
    Comes sampleEnv (sampleNetwork sampleStarted none) seen (.patchStatus status) ∧
      status.plan.isNone ∧ TellsEnding status := by
  have comes : Comes sampleEnv (sampleNetwork sampleStarted none) _ (.patchStatus _) :=
    ⟨_, told .listNodes (.ok []) <| told .internalService (.ok ()) <|
    told .listNodes (.ok [sampleChild 0, sampleChild 1]) <|
    told (.executePlan _) (.ok { assembleSteps "" [] with phase := .failed }) <|
    told .listNodes (.ok []) <| .here _ _⟩
  exact ⟨_, _, comes, rfl, ended_plan_is_told sampleStarted_stored comes rfl rfl⟩

end SeiController.Ceremony
