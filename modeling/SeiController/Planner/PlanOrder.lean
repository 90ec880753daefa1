import SeiController.Planner.ConfigAgreement
import SeiController.Planner.MountedPlans
import SeiController.Planner.TaskOrder

/-!
# The order of every built plan

Startup plans and the two update plans are put together by inserting, stripping and
splicing; each builder is shown to pick its tasks from the one sequence, whichever mode,
snapshot source, engine and configuration the node has.
-/

set_option autoImplicit false

namespace SeiController

/-! ## Which plans -/

/-- A startup plan, which is the ceremony's on a genesis validator, the answer to drift of
the pod template, or the answer to drift of the configuration. -/
inductive PlanKind
  | startup | driftUpdate | configUpdate
deriving DecidableEq

/-- The kind of plan the node is due, when it is one of these.  A Running node that mounts
its configuration settles a reset and its hold first. -/
def planKind (platform : Platform) (node : SeiNode) : Option PlanKind :=
  if node.status.phase ≠ .running then
    some .startup
  else if node.mountsNodeConfig then
    if dataResetPending node then none
    else if (buildHoldPlan "" node node.spec.holdRequested node.status.maintenanceHold).isSome then
      none
    else if podTemplateDrifted platform node then some .driftUpdate
    else none
  else if podTemplateDrifted platform node then
    some .driftUpdate
  else if configValuesDrifted platform node then
    some .configUpdate
  else
    none

/-! ## What each builder hands on -/

namespace ModePlanner

def runsCeremony : ModePlanner → Bool
  | validator spec => spec.genesisCeremony.isSome
  | _ => false

end ModePlanner

def sidecarTypes (snap : Option SnapshotSource) : List TaskType :=
  (if hasS3Snapshot snap then [.snapshotRestore] else [])
    ++ [.configureGenesis, .configApply]
    ++ (if needsStateSyncWitnesses snap then [.configureStateSync] else [])
    ++ [.configValidate, .markReady]

def startupProgression (node : SeiNode) (snap : Option SnapshotSource) : List TaskType :=
  [.ensureDataPVC] ++ validations node ++ [.applyRBACProxyConfig, .applyStatefulSet, .applyService]
    ++ withoutManagedConfigTasks node (sidecarTypes snap)

def ceremonyProgression : List TaskType :=
  [.ensureDataPVC, .applyRBACProxyConfig, .applyStatefulSet, .applyService, .generateIdentity,
    .generateGentx, .uploadGenesisArtifacts, .configureGenesis, .configApply, .setGenesisPeers,
    .configValidate, .markReady]

/-- The progression of an update, with the base regenerated where it has to be. -/
def updateProgression (platform : Platform) (node : SeiNode) (front back : List TaskType) :
    List TaskType :=
  front ++ (if regeneratesBase platform node then [.configApply] else []) ++ .configPatch :: back

theorem keys_sublist (node : SeiNode) :
    (validations node).Sublist
      [.validateSigningKey, .validateNodeKey, .validateOperatorKeyring] := by
  unfold validations
  cases needsValidateSigningKey node <;> cases needsValidateNodeKey node <;>
    cases needsValidateOperatorKeyring node <;> decide

theorem gates_sublist (mode : ModePlanner) (node : SeiNode) :
    (mode.gates node).Sublist
      [.validateSigningKey, .validateNodeKey, .validateOperatorKeyring] := by
  cases mode with
  | validator => exact keys_sublist node
  | seed =>
    unfold ModePlanner.gates
    dsimp only
    cases needsValidateNodeKey node <;> decide
  | full | archive | replayer => exact List.nil_sublist _

theorem sidecarTypes_sublist (snap : Option SnapshotSource) :
    (sidecarTypes snap).Sublist
      [.snapshotRestore, .configureGenesis, .configApply, .configureStateSync, .configValidate,
        .markReady] := by
  unfold sidecarTypes
  cases hasS3Snapshot snap <;> cases needsStateSyncWitnesses snap <;> decide

theorem withoutManagedConfigTasks_sublist (node : SeiNode) (prog : List TaskType) :
    (withoutManagedConfigTasks node prog).Sublist prog := by
  unfold withoutManagedConfigTasks
  split
  · exact List.filter_sublist
  · exact .refl prog

def startupOrder : List TaskType :=
  [.ensureDataPVC, .validateSigningKey, .validateNodeKey, .validateOperatorKeyring,
    .applyRBACProxyConfig, .applyStatefulSet, .applyService, .snapshotRestore, .configureGenesis,
    .configApply, .configureStateSync, .configValidate, .markReady]

theorem startupProgression_sublist (node : SeiNode) (snap : Option SnapshotSource) :
    (startupProgression node snap).Sublist startupOrder := by
  have sidecar := (withoutManagedConfigTasks_sublist node _).trans (sidecarTypes_sublist snap)
  exact (((List.Sublist.refl [TaskType.ensureDataPVC]).append (keys_sublist node)).append
    (.refl [.applyRBACProxyConfig, .applyStatefulSet, .applyService])).append sidecar

variable {prog : List TaskType} {mode : ModePlanner}

theorem base_of_prog (node : SeiNode) (picked : prog.Sublist taskOrder) (planID : String)
    (params : TaskType → TaskParams)
    (peers : .configPatch ∈ prog → params .configPatch = .configPatch (p2pConfigPatch node)) :
    Base node prog (assembleSteps planID (prog.map fun taskType => ⟨taskType, params taskType⟩)) where
  numbered := numbered_assembleSteps planID _
  types := by
    rw [types_assembleSteps, List.map_map]
    exact List.map_id prog
  picked := picked
  peers task member patches := by
    obtain ⟨step, listed, type, payload⟩ := mem_tasks_assembleSteps member
    obtain ⟨taskType, planned, rfl⟩ := List.mem_map.mp listed
    change task.type = taskType at type
    rw [patches] at type
    subst type
    rw [payload]
    exact peers planned

theorem base_startup {node : SeiNode} (picked : prog.Sublist taskOrder)
    (unpatched : .configPatch ∉ prog) (planID : String) (snap : Option SnapshotSource)
    (intent : ConfigIntent) : Base node prog (startupPlan planID node snap intent prog) := by
  have base := base_of_prog node picked planID
    (fun taskType => paramsForTaskType node taskType snap (some intent))
    fun member => absurd member unpatched
  exact ⟨base.numbered, base.types, base.picked, base.peers⟩

theorem buildInitPlan_base (platform : Platform) (planID : String) (node : SeiNode)
    (mode : ModePlanner) :
    ∃ base,
      Base node
        (if mode.runsCeremony then ceremonyProgression else startupProgression node mode.snapshot)
        base ∧
      mode.buildInitPlan platform planID node = withConfigValues platform base node := by
  have plain (snap : Option SnapshotSource) (intent : ConfigIntent) : ∃ base,
      Base node (startupProgression node snap) base ∧
      buildBasePlan platform planID node snap intent = withConfigValues platform base node := by
    refine ⟨startupPlan planID node snap intent (startupProgression node snap),
      base_startup ((startupProgression_sublist node snap).trans (by decide))
        (fun member => absurd ((startupProgression_sublist node snap).subset member) (by decide))
        planID snap intent, ?_⟩
    unfold buildBasePlan
    rw [buildSidecarProgression_eq]
    rfl
  cases mode with
  | validator spec =>
    unfold ModePlanner.buildInitPlan ModePlanner.runsCeremony
    dsimp only
    split
    · exact ⟨_, base_startup (by decide) (by decide) planID none _, rfl⟩
    · exact plain _ _
  | full | archive | replayer | seed => exact plain _ _

theorem insertBefore_update {front back : List TaskType}
    (fresh : .configApply ∉ front ++ .configPatch :: back) (first : .configPatch ∉ front) :
    insertBefore (front ++ .configPatch :: back) .configPatch .configApply =
      .ok (front ++ [.configApply] ++ .configPatch :: back) := by
  rw [insertBefore_split fresh first, List.append_assoc]
  rfl

theorem updatePlan_base (platform : Platform) (planID : String) (node : SeiNode)
    {front back : List TaskType} (fresh : .configApply ∉ front ++ .configPatch :: back)
    (first : .configPatch ∉ front)
    (picked : (front ++ [.configApply] ++ .configPatch :: back : List TaskType).Sublist taskOrder) :
    ∃ base, Base node (updateProgression platform node front back) base ∧
      updatePlan platform planID node (front ++ .configPatch :: back) (p2pConfigPatch node) =
        withConfigValues platform base node := by
  refine ⟨assembleSteps planID ((updateProgression platform node front back).map fun taskType =>
      ⟨taskType, paramsForUpdateTask platform node taskType (p2pConfigPatch node)⟩),
    base_of_prog node (List.Sublist.trans ?_ picked) planID _ fun _ => rfl, ?_⟩
  · unfold updateProgression
    split
    · exact .refl _
    · rw [List.append_nil]
      exact (List.sublist_append_left front _).append (.refl _)
  · unfold updatePlan updateProgression
    dsimp only
    cases regeneratesBase platform node with
    | true =>
      rw [if_pos rfl, if_pos rfl, insertBefore_update fresh first]
      rfl
    | false =>
      rw [if_neg Bool.false_ne_true, if_neg Bool.false_ne_true, List.append_nil]
      rfl

/-! ## The plan a node is due -/

/-- The update of a node that mounts its configuration, but for the release. -/
def rollProgression (node : SeiNode) : List TaskType :=
  validations node ++ [.applyStatefulSet, .applyService, .observeImage]

/-- The types of the plan a node is due, without any overlay. -/
def progression (platform : Platform) (mode : ModePlanner) (node : SeiNode) : List TaskType :=
  if node.status.phase = .running then
    if node.mountsNodeConfig then
      rollProgression node ++ (if node.spec.holdRequested ≠ .none then [] else [.markReady])
    else if podTemplateDrifted platform node then
      updateProgression platform node (mode.gates node ++ [.applyStatefulSet, .applyService])
        [.configValidate, .replacePod, .observeImage, .markReady]
    else
      updateProgression platform node [] [.configValidate, .markReady, .restartSeid]
  else if mode.runsCeremony then
    ceremonyProgression
  else if node.mountsNodeConfig ∧ node.spec.holdRequested ≠ .none then
    (startupProgression node mode.snapshot).dropLast ++ [.recordMaintenanceHold]
  else
    startupProgression node mode.snapshot

/-- How a builder turns its base into the plan: through the splice, or as it is where there
is nothing to splice. -/
def Hands (platform : Platform) (node : SeiNode) (base : TaskPlan)
    (built : Except String (Option TaskPlan)) : Prop :=
  built = (withConfigValues platform base node).map some ∨
    node.overlays = false ∧ built = .ok (some base)

section

variable (platform : Platform) (planID : String) {node : SeiNode}

theorem assembleUpdatePlan_base {front back : List TaskType}
    (fresh : .configApply ∉ front ++ .configPatch :: back) (first : .configPatch ∉ front)
    (picked : (front ++ [.configApply] ++ .configPatch :: back : List TaskType).Sublist taskOrder)
    (reason : NodeUpdateReason) (message : String) :
    ∃ base, Base node (updateProgression platform node front back) base ∧
      Hands platform node base
        (assembleUpdatePlan platform planID (front ++ .configPatch :: back) reason message node).2 := by
  obtain ⟨base, is, built⟩ := updatePlan_base platform planID node fresh first picked
  refine ⟨base, is, .inl ?_⟩
  unfold assembleUpdatePlan
  rw [built]
  cases withConfigValues platform base node <;> rfl

theorem gates_fresh {type : TaskType}
    (member : type ∈ mode.gates node ++ [.applyStatefulSet, .applyService]) :
    type ∉ mountedConfigWriters := by
  rcases List.mem_append.mp member with key | infra
  · have listed := (gates_sublist mode node).subset key
    simp only [List.mem_cons, List.not_mem_nil, or_false] at listed
    rcases listed with rfl | rfl | rfl <;> decide
  · simp only [List.mem_cons, List.not_mem_nil, or_false] at infra
    rcases infra with rfl | rfl <;> decide

theorem running_base (running : node.status.phase = .running)
    (unmounted : node.mountsNodeConfig = false) (due : (planKind platform node).isSome = true) :
    ∃ base, Base node (progression platform mode node) base ∧
      Hands platform node base (buildPlan platform planID mode node).2 := by
  unfold planKind at due
  unfold progression buildPlan ModePlanner.buildPlan buildRunningUpdate
  rw [if_neg (not_not.mpr running), unmounted] at due
  rw [if_pos running, if_pos running, unmounted]
  simp only [Bool.false_eq_true, if_false] at due ⊢
  split
  next drifted =>
    have split : mode.gates node ++ [.applyStatefulSet, .applyService, .configPatch,
        .configValidate, .replacePod, .observeImage, .markReady] =
        (mode.gates node ++ [.applyStatefulSet, .applyService]) ++ .configPatch ::
          [.configValidate, .replacePod, .observeImage, .markReady] := by
      rw [List.append_assoc]
      rfl
    rw [split]
    refine assembleUpdatePlan_base platform planID (fun member => ?_)
      (fun member => gates_fresh member (by decide)) ?_ _ _
    · rcases List.mem_append.mp member with early | late
      · exact gates_fresh early (by decide)
      · revert late
        decide
    · have picked := ((((gates_sublist mode node).append
        (.refl [TaskType.applyStatefulSet, .applyService])).append (.refl [.configApply])).append
        (.refl (.configPatch :: [.configValidate, .replacePod, .observeImage, .markReady])))
      exact picked.trans (by decide)
  next settled =>
    rw [if_neg settled] at due
    split
    · exact assembleUpdatePlan_base platform planID (by decide) (by decide) (by decide) _ _
    next unchanged =>
      rw [if_neg unchanged] at due
      cases due

theorem MountedShape.plain (shape : MountedShape node) : node.overlays = false := by
  unfold SeiNode.overlays
  rw [shape.configValues, shape.engine]
  rfl

theorem MountedShape.no_ceremony (shape : MountedShape node)
    (chosen : plannerForMode node = .ok mode) : mode.runsCeremony = false := by
  cases mode with
  | validator spec =>
    have own : node.spec.validator = some spec := by
      unfold plannerForMode at chosen
      split at chosen <;> cases chosen
      assumption
    have ceremony := shape.ceremony
    rw [own] at ceremony
    unfold ModePlanner.runsCeremony
    dsimp only
    rw [show spec.genesisCeremony = none from ceremony]
    rfl
  | full | archive | replayer | seed => rfl

theorem numbered_park {plan result : TaskPlan} (numbered : plan.Numbered)
    (parked : parkInsteadOfRelease plan = .ok result) : result.Numbered := by
  unfold parkInsteadOfRelease at parked
  split at parked
  · cases parked
    intro index task found
    dsimp only at found ⊢
    rw [List.getElem?_append, List.length_dropLast] at found
    split at found
    next inside =>
      rw [List.getElem?_dropLast, if_pos inside] at found
      exact numbered index task found
    next past =>
      obtain ⟨bound, same⟩ := List.getElem?_eq_some_iff.mp found
      rw [List.length_singleton] at bound
      have last : index = plan.tasks.length - 1 := by omega
      rw [List.getElem_singleton] at same
      rw [← same, last]
      rfl
  · cases parked

theorem Base.park {plan result : TaskPlan} (base : Base node prog plan)
    (picked : prog.Sublist startupOrder) (parked : parkInsteadOfRelease plan = .ok result) :
    Base node (prog.dropLast ++ [.recordMaintenanceHold]) result := by
  refine ⟨numbered_park base.numbered parked, ?_, ?_, fun task member patches => ?_⟩
  · rw [types_parkInsteadOfRelease parked, base.types]
  · have early := prog.dropLast_sublist.trans picked
    have whole : (startupOrder ++ [TaskType.recordMaintenanceHold]).Sublist taskOrder := by decide
    exact (early.append (.refl [.recordMaintenanceHold])).trans whole
  · have listed : TaskType.configPatch ∈ result.types := by
      rw [← patches]
      exact List.mem_map_of_mem member
    rw [types_parkInsteadOfRelease parked, base.types] at listed
    rcases List.mem_append.mp listed with early | last
    · exact absurd (picked.subset (List.dropLast_subset _ early)) (by decide)
    · simp at last

/-- A node that mounts its configuration starts up with nothing to splice, and parks at the
end under a hold. -/
theorem mounted_startup_base (shape : MountedShape node) (chosen : plannerForMode node = .ok mode)
    (starting : node.status.phase ≠ .running) :
    ∃ base, Base node (progression platform mode node) base ∧
      Hands platform node base (buildPlan platform planID mode node).2 := by
  obtain ⟨base, is, init⟩ := buildInitPlan_base platform planID node mode
  obtain ⟨hash, same⟩ := withConfigValues_plain platform base shape.plain
  obtain ⟨plan, ok, -, types, ends⟩ := buildInitPlan_mounted shape platform planID chosen
  have planned : plan = { base with configValuesHash := hash } := by
    rw [init, same] at ok
    exact (Except.ok.inj ok).symm
  rw [shape.no_ceremony chosen, if_neg Bool.false_ne_true] at is
  have hashed : Base node (startupProgression node mode.snapshot) plan := by
    rw [planned]
    exact ⟨is.numbered, is.types, is.picked, is.peers⟩
  unfold progression buildPlan buildStaticPlan ModePlanner.buildPlan
  rw [if_neg starting, if_pos shape.mounted, if_neg starting, if_neg starting, ok,
    shape.no_ceremony chosen, if_neg Bool.false_ne_true]
  simp only [Except.map]
  by_cases held : node.spec.holdRequested = .none
  · rw [if_pos held, if_neg fun both => both.2 held]
    exact ⟨plan, hashed, .inr ⟨shape.plain, rfl⟩⟩
  · obtain ⟨parked, done⟩ := parkInsteadOfRelease_ok ends
    rw [if_neg held, if_pos ⟨shape.mounted, held⟩, done]
    exact ⟨parked, hashed.park (startupProgression_sublist node mode.snapshot) done,
      .inr ⟨shape.plain, rfl⟩⟩

theorem withoutMarkReady_assembleSteps (absent : .markReady ∉ prog) (params : TaskType → TaskParams) :
    withoutMarkReady (assembleSteps planID
        ((prog ++ [TaskType.markReady]).map fun taskType => ⟨taskType, params taskType⟩)) =
      assembleSteps planID (prog.map fun taskType => ⟨taskType, params taskType⟩) := by
  have kept : ((assembleSteps planID (prog.map fun taskType => ⟨taskType, params taskType⟩)).tasks).filter
      (fun task => task.type ≠ .markReady) =
        (assembleSteps planID (prog.map fun taskType => ⟨taskType, params taskType⟩)).tasks := by
    refine List.filter_eq_self.mpr fun task member => ?_
    obtain ⟨step, listed, type, -⟩ := mem_tasks_assembleSteps member
    obtain ⟨taskType, planned, rfl⟩ := List.mem_map.mp listed
    simp only [ne_eq, decide_not, Bool.not_eq_eq_eq_not, Bool.not_true, decide_eq_false_iff_not]
    rintro same
    exact absent (same ▸ type ▸ planned)
  unfold withoutMarkReady
  unfold assembleSteps buildTasks at kept ⊢
  dsimp only at kept ⊢
  rw [List.map_append, List.map_singleton, List.mapIdx_concat, List.filter_append, kept]
  simp [buildPlannedTask]

theorem buildHoldPlan_isSome {node other : SeiNode}
    (gate : sidecarGateOpen other = sidecarGateOpen node) (want inEffect : MaintenanceHold)
    (planID otherID : String) : (buildHoldPlan otherID other want inEffect).isSome =
      (buildHoldPlan planID node want inEffect).isSome := by
  unfold buildHoldPlan
  rw [gate]
  split
  · rfl
  · split <;> rfl

theorem roll_sublist (node : SeiNode) : (rollProgression node).Sublist quietUpdateTypes :=
  (keys_sublist node).append (.refl [TaskType.applyStatefulSet, .applyService, .observeImage])

theorem buildStaticUpdatePlan_eq (node : SeiNode) :
    buildStaticUpdatePlan platform planID node =
      assembleSteps planID ((rollProgression node ++ [TaskType.markReady]).map fun taskType =>
        ⟨taskType, paramsForUpdateTask platform node taskType []⟩) := by
  unfold buildStaticUpdatePlan rollProgression
  rw [List.append_assoc]
  rfl

theorem static_update_base (node : SeiNode) :
    Base node (rollProgression node ++ (if node.spec.holdRequested ≠ .none then [] else [.markReady]))
      (if node.spec.holdRequested ≠ .none then
        withoutMarkReady (buildStaticUpdatePlan platform planID node)
      else buildStaticUpdatePlan platform planID node) := by
  have quiet := roll_sublist node
  rw [buildStaticUpdatePlan_eq]
  split
  · rw [List.append_nil, withoutMarkReady_assembleSteps planID
      (fun member => absurd (quiet.subset member) (by decide))]
    exact base_of_prog node (quiet.trans (by decide)) planID _
      fun member => absurd (quiet.subset member) (by decide)
  · have released := quiet.append (.refl [TaskType.markReady])
    exact base_of_prog node (released.trans (by decide)) planID _
      fun member => absurd (released.subset member) (by decide)

theorem mounted_running_base (shape : MountedShape node) (running : node.status.phase = .running)
    (due : (planKind platform node).isSome = true) :
    ∃ base, Base node (progression platform mode node) base ∧
      Hands platform node base (buildPlan platform planID mode node).2 := by
  have same : progression platform mode node =
      rollProgression node ++ (if node.spec.holdRequested ≠ .none then [] else [.markReady]) := by
    unfold progression
    rw [if_pos running, if_pos shape.mounted]
  refine ⟨_, same ▸ static_update_base platform planID node, .inr ⟨shape.plain, ?_⟩⟩
  · unfold planKind at due
    rw [if_neg (not_not.mpr running), if_pos shape.mounted] at due
    unfold buildPlan buildStaticPlan buildStaticRunningPlan
    rw [if_pos shape.mounted, if_pos running]
    split at due
    · cases due
    next settled =>
      rw [@buildHoldPlan_isSome node node rfl _ _ planID] at due
      rw [if_neg settled]
      cases hold : buildHoldPlan planID node node.spec.holdRequested node.status.maintenanceHold with
      | some plan => simp [hold] at due
      | none =>
        simp only [hold, Option.isSome_none, Bool.false_eq_true, if_false] at due
        split at due
        next drifted =>
          dsimp only
          rw [if_pos drifted]
        next => cases due

theorem exists_base (admitted : node.spec.admitsNodeConfig = true)
    (chosen : plannerForMode node = .ok mode) (due : (planKind platform node).isSome = true) :
    ∃ base, Base node (progression platform mode node) base ∧
      Hands platform node base (buildPlan platform planID mode node).2 := by
  by_cases running : node.status.phase = .running
  · cases mounted : node.mountsNodeConfig with
    | true => exact mounted_running_base platform planID (.of_admitted mounted admitted) running due
    | false => exact running_base platform planID running mounted due
  · cases mounted : node.mountsNodeConfig with
    | true =>
      exact mounted_startup_base platform planID (.of_admitted mounted admitted) chosen running
    | false =>
      obtain ⟨base, is, init⟩ := buildInitPlan_base platform planID node mode
      unfold progression buildPlan ModePlanner.buildPlan
      rw [if_neg running, if_neg running, mounted, if_neg Bool.false_ne_true, init]
      have unparked : ¬ (false = true ∧ node.spec.holdRequested ≠ .none) :=
        fun both => Bool.false_ne_true both.1
      rw [if_neg unparked]
      exact ⟨base, is, .inl rfl⟩

end

/-! ## The result -/

/-- The node with no entries and no engine, whose last observed configuration is `hash`. -/
def SeiNode.withoutOverlay (node : SeiNode) (hash : String) : SeiNode :=
  { node with
    spec := { node.spec with configValues := [], consensus := none }
    status := { node.status with currentConfigValuesHash := hash } }

/-- Neither the observation nor the drift of the configuration tells the two nodes apart. -/
structure SameDrift (platform : Platform) (node other : SeiNode) : Prop where
  observed : other.status.currentConfigValuesHash = "" ↔ node.status.currentConfigValuesHash = ""
  drifted : configValuesDrifted platform other = configValuesDrifted platform node

section

variable {platform : Platform} {planID : String} {node : SeiNode}

theorem Hands.plan {base plan : TaskPlan} {prog : List TaskType} (is : Base node prog base)
    (hands : Hands platform node base (.ok (some plan))) :
    Sequenced node plan ∧ plan.typesBeneath node = prog := by
  rcases hands with spliced | ⟨unasked, kept⟩
  · cases overlaid : withConfigValues platform base node with
    | error err =>
      rw [overlaid] at spliced
      cases spliced
    | ok result =>
      rw [overlaid] at spliced
      cases spliced
      exact is.laid (withConfigValues_overlaid overlaid).id (withConfigValues_laid overlaid)
  · cases kept
    refine ⟨is.plain unasked, ?_⟩
    rw [TaskPlan.typesBeneath, unasked]
    exact is.types

theorem Hands.plain {base : TaskPlan} (is : Base node prog base)
    {built : Except String (Option TaskPlan)} (hands : Hands platform node base built)
    (unasked : node.overlays = false) : ∃ bare, built = .ok (some bare) ∧ bare.types = prog := by
  rcases hands with spliced | ⟨-, kept⟩
  · obtain ⟨hash, same⟩ := withConfigValues_plain platform base unasked
    rw [same] at spliced
    exact ⟨_, spliced, is.types⟩
  · exact ⟨base, kept, is.types⟩

variable {hash : String}

theorem withoutOverlay_overlays (node : SeiNode) (hash : String) :
    (node.withoutOverlay hash).overlays = false :=
  rfl

theorem SameDrift.regeneratesBase (same : SameDrift platform node (node.withoutOverlay hash)) :
    regeneratesBase platform (node.withoutOverlay hash) = regeneratesBase platform node := by
  unfold SeiController.regeneratesBase
  rw [same.drifted, decide_eq_decide.mpr same.observed]

theorem SameDrift.progression (same : SameDrift platform node (node.withoutOverlay hash))
    (mode : ModePlanner) :
    progression platform mode (node.withoutOverlay hash) = progression platform mode node := by
  unfold SeiController.progression updateProgression
  rw [same.regeneratesBase]
  rfl

theorem SameDrift.planKind (same : SameDrift platform node (node.withoutOverlay hash)) :
    planKind platform (node.withoutOverlay hash) = planKind platform node := by
  have hold := @buildHoldPlan_isSome node (node.withoutOverlay hash) rfl node.spec.holdRequested
    node.status.maintenanceHold "" ""
  unfold SeiController.planKind
  rw [same.drifted, ← hold]
  rfl

/-- The tasks of a plan that starts a node up, rolls its pod or renews its configuration are
numbered by their places and stand in the order of their dependencies, and the overlay, which
the plan has exactly when the node asks for one, is an addition right before the validation. -/
theorem buildPlan_sequenced {mode : ModePlanner} {after : SeiNode} {plan : TaskPlan}
    (admitted : node.spec.admitsNodeConfig = true) (chosen : plannerForMode node = .ok mode)
    (due : (planKind platform node).isSome = true)
    (built : buildPlan platform planID mode node = (after, .ok (some plan))) :
    Sequenced node plan ∧
    ∀ hash, SameDrift platform node (node.withoutOverlay hash) →
      ∃ bare, (buildPlan platform planID mode (node.withoutOverlay hash)).2 = .ok (some bare) ∧
        plan.typesBeneath node = bare.types := by
  obtain ⟨base, is, hands⟩ := exists_base platform planID admitted chosen due
  rw [built] at hands
  obtain ⟨sequenced, beneath⟩ := hands.plan is
  refine ⟨sequenced, fun hash same => ?_⟩
  have stripped : (node.withoutOverlay hash).spec.admitsNodeConfig = true := by
    unfold SeiNodeSpec.admitsNodeConfig at admitted ⊢
    simp only [Bool.and_eq_true] at admitted ⊢
    obtain ⟨⟨⟨⟨⟨⟨-, overrides⟩, peers⟩, address⟩, ceremony⟩, stateSync⟩, -⟩ := admitted
    refine ⟨⟨⟨⟨⟨⟨?_, overrides⟩, peers⟩, address⟩, ceremony⟩, stateSync⟩, ?_⟩
    · exact Bool.or_true _
    · exact Bool.or_true _
  obtain ⟨bareBase, bareIs, bareHands⟩ := exists_base platform planID stripped chosen
    (same.planKind ▸ due)
  obtain ⟨bare, ok, types⟩ := bareHands.plain bareIs (withoutOverlay_overlays node hash)
  refine ⟨bare, ok, ?_⟩
  rw [beneath, types, same.progression]

end

def rolledAutobahn : SeiNode where
  name := "node-0"
  nameSpace := "sei"
  spec :=
    { image := "seid:2", fullNode := some ⟨none, none, none⟩, consensus := some ⟨.autobahn, false⟩ }
  status := { phase := .running, currentImage := "seid:1" }

theorem rolledAutobahn_sequenced :
    rolledAutobahn.overlays = true ∧ ∃ after plan bare,
      buildPlan samplePlatform "plan" (.full ⟨none, none, none⟩) rolledAutobahn =
        (after, .ok (some plan)) ∧
      Sequenced rolledAutobahn plan ∧ (plan.seeds.map id).Nodup ∧
      plan.types = [.applyStatefulSet, .applyService, .configApply, .configPatch, .configPatch,
        .configValidate, .replacePod, .observeImage, .markReady] ∧
      (buildPlan samplePlatform "plan" (.full ⟨none, none, none⟩)
        (rolledAutobahn.withoutOverlay "")).2 = .ok (some bare) ∧
      plan.typesBeneath rolledAutobahn = bare.types := by
  have built : buildPlan samplePlatform "plan" (.full ⟨none, none, none⟩) rolledAutobahn =
      (_, .ok (some _)) := rfl
  obtain ⟨sequenced, stripped⟩ := buildPlan_sequenced (by decide) rfl (by decide) built
  obtain ⟨bare, ok, types⟩ := stripped "" ⟨Iff.rfl, rfl⟩
  exact ⟨rfl, _, _, bare, built, sequenced, sequenced.distinct id (fun _ _ _ _ same => same),
    by decide, ok, types⟩

end SeiController
