import SeiController.Controller.MountedRun

/-!
# Plans of a node that mounts its configuration

The admission rules of the SeiNode CRD leave no shape of such a node for which a planner
would write config.toml or app.toml, and none on which building a plan fails.
-/

set_option autoImplicit false

namespace SeiController

/-! ## Admission -/

/-- The rules of the CRD on a spec that sets `nodeConfig`, in the order of the source.  A
list or a text that is present is never empty. -/
def SeiNodeSpec.admitsNodeConfig (spec : SeiNodeSpec) : Bool :=
  let has := spec.nodeConfig.isSome
  (!has || spec.configValues.isEmpty)
    && (!has || spec.overrides.isEmpty)
    && (!has || spec.peers.isEmpty)
    && (!has || spec.externalAddress == "")
    && (!has || (spec.validator.bind ValidatorSpec.genesisCeremony).isNone)
    && (!has || (!hasStateSync (spec.fullNode.bind FullNodeSpec.snapshot)
      && !hasStateSync (spec.validator.bind ValidatorSpec.snapshot)
      && !hasStateSync (spec.replayer.map ReplayerSpec.snapshot)))
    && (!has || !spec.isAutobahn)

structure MountedShape (node : SeiNode) : Prop where
  mounted : node.mountsNodeConfig = true
  configValues : node.spec.configValues = []
  engine : node.spec.isAutobahn = false
  ceremony : node.spec.validator.bind ValidatorSpec.genesisCeremony = none

variable {node : SeiNode} {plan : TaskPlan}

theorem MountedShape.of_admitted (mounted : node.mountsNodeConfig = true)
    (admitted : node.spec.admitsNodeConfig = true) : MountedShape node := by
  have has : node.spec.nodeConfig.isSome = true := mounted
  unfold SeiNodeSpec.admitsNodeConfig at admitted
  simp only [has, Bool.not_true, Bool.false_or, Bool.and_eq_true, List.isEmpty_iff,
    Option.isNone_iff_eq_none, Bool.not_eq_true'] at admitted
  obtain ⟨⟨⟨⟨⟨⟨values, _⟩, _⟩, _⟩, ceremony⟩, _⟩, engine⟩ := admitted
  exact ⟨mounted, values, engine, ceremony⟩

theorem MountedShape.congr {left right : SeiNode} (shape : MountedShape left)
    (spec : right.spec = left.spec) : MountedShape right := by
  obtain ⟨mounted, values, engine, ceremony⟩ := shape
  refine ⟨?_, ?_, ?_, ?_⟩
  · unfold SeiNode.mountsNodeConfig at mounted ⊢
    rw [spec]
    exact mounted
  · rw [spec]
    exact values
  · rw [spec]
    exact engine
  · rw [spec]
    exact ceremony

def TaskPlan.WriterFree (plan : TaskPlan) : Prop :=
  ∀ type ∈ plan.types, type ∉ mountedConfigWriters

theorem TaskPlan.WriterFree.admitted (free : plan.WriterFree) (node : SeiNode) :
    mountedConfigWriterInPlan node plan = none := by
  unfold mountedConfigWriterInPlan
  split
  · rw [Option.map_eq_none_iff, List.find?_eq_none]
    intro task member writes
    have writer : task.type ∈ mountedConfigWriters := by simpa using writes
    exact free task.type (List.mem_map_of_mem member) writer
  · rfl

/-! ## Startup plans -/

theorem withConfigValues_unchanged (shape : MountedShape node) (platform : Platform)
    (plan : TaskPlan) :
    ∃ hash, withConfigValues platform plan node = .ok { plan with configValuesHash := hash } := by
  have engine : consensusOverlay node = none := by
    unfold consensusOverlay
    rw [shape.engine]
    rfl
  have hashed : ∃ hash, configValuesHash platform node.spec.configValues = .ok hash := by
    rw [shape.configValues]
    exact ⟨_, rfl⟩
  obtain ⟨hash, hashed⟩ := hashed
  refine ⟨hash, ?_⟩
  unfold withConfigValues
  rw [hashed, engine, shape.configValues]
  rfl

/-- Every bootstrap progression can be assembled and ends in mark-ready. -/
theorem buildSidecarProgression_ok (snap : Option SnapshotSource) :
    ∃ prog, buildSidecarProgression snap = .ok (prog ++ [.markReady]) := by
  unfold buildSidecarProgression
  cases bootstrapMode snap <;> cases needsStateSyncWitnesses snap
  case snapshot.false => exact ⟨[.snapshotRestore, .configureGenesis, .configApply, .configValidate], rfl⟩
  case snapshot.true =>
    exact ⟨[.snapshotRestore, .configureGenesis, .configApply, .configureStateSync, .configValidate],
      rfl⟩
  case stateSync.false => exact ⟨[.configureGenesis, .configApply, .configValidate], rfl⟩
  case stateSync.true =>
    exact ⟨[.configureGenesis, .configApply, .configureStateSync, .configValidate], rfl⟩
  case genesis.false => exact ⟨[.configureGenesis, .configApply, .configValidate], rfl⟩
  case genesis.true =>
    exact ⟨[.configureGenesis, .configApply, .configureStateSync, .configValidate], rfl⟩

theorem not_writer_of_validation {type : TaskType} (member : type ∈ validations node) :
    type ∉ mountedConfigWriters := by
  have listed := mem_validations member
  simp only [List.mem_cons, List.not_mem_nil, or_false] at listed
  rcases listed with rfl | rfl | rfl <;> decide

/-- A plan that can be built, writes no mounted file and releases the node at its end. -/
structure MountedStartup (plan : TaskPlan) : Prop where
  free : plan.WriterFree
  releases : ∃ types, plan.types = types ++ [.markReady]

/-- What is left of a startup progression in front of its mark-ready. -/
def mountedFront (node : SeiNode) (sidecar : List TaskType) : List TaskType :=
  [.ensureDataPVC] ++ validations node ++ [.applyRBACProxyConfig, .applyStatefulSet, .applyService]
    ++ sidecar.filter fun taskType => taskType ≠ .configValidate && taskType ∉ mountedConfigWriters

theorem not_writer_of_mountedFront {sidecar : List TaskType} {type : TaskType}
    (member : type ∈ mountedFront node sidecar) : type ∉ mountedConfigWriters := by
  unfold mountedFront at member
  simp only [List.mem_append] at member
  rcases member with ((volume | keys) | infra) | kept
  · rw [List.mem_singleton.mp volume]
    decide
  · exact not_writer_of_validation keys
  · simp only [List.mem_cons, List.not_mem_nil, or_false] at infra
    rcases infra with rfl | rfl | rfl <;> decide
  · have strips := (List.mem_filter.mp kept).2
    simp only [Bool.and_eq_true, decide_eq_true_eq] at strips
    exact strips.2

theorem MountedStartup.of_types {sidecar : List TaskType}
    (types : plan.types = mountedFront node sidecar ++ [.markReady]) : MountedStartup plan := by
  refine ⟨fun type member => ?_, _, types⟩
  rw [types] at member
  rcases List.mem_append.mp member with front | release
  · exact not_writer_of_mountedFront front
  · rw [List.mem_singleton.mp release]
    decide

theorem buildBasePlan_mounted (shape : MountedShape node) (platform : Platform) (planID : String)
    (snap : Option SnapshotSource) (intent : ConfigIntent) :
    ∃ plan, buildBasePlan platform planID node snap intent = .ok plan ∧ MountedStartup plan := by
  obtain ⟨sidecar, assembled⟩ := buildSidecarProgression_ok snap
  have stripped : [.ensureDataPVC] ++ validations node
      ++ [.applyRBACProxyConfig, .applyStatefulSet, .applyService]
      ++ withoutManagedConfigTasks node (sidecar ++ [.markReady]) =
        mountedFront node sidecar ++ [.markReady] := by
    unfold withoutManagedConfigTasks mountedFront
    rw [if_pos shape.mounted, List.filter_append, List.append_assoc _ (List.filter _ sidecar)]
    rfl
  have based : buildBasePlan platform planID node snap intent = withConfigValues platform
      (startupPlan planID node snap intent (mountedFront node sidecar ++ [.markReady])) node := by
    unfold buildBasePlan
    rw [assembled]
    simp only [bind, Except.bind]
    rw [stripped]
  have types := types_startupPlan planID node snap intent (mountedFront node sidecar ++ [.markReady])
  rw [based]
  -- only the types of the startup plan matter from here on
  generalize startupPlan planID node snap intent _ = started at types ⊢
  obtain ⟨hash, overlaid⟩ := withConfigValues_unchanged shape platform started
  have mounted : MountedStartup { started with configValuesHash := hash } := .of_types types
  exact ⟨_, overlaid, mounted⟩

theorem buildInitPlan_mounted (shape : MountedShape node) (platform : Platform) (planID : String)
    {mode : ModePlanner} (chosen : plannerForMode node = .ok mode) :
    ∃ plan, mode.buildInitPlan platform planID node = .ok plan ∧ MountedStartup plan := by
  cases mode with
  | full | archive | replayer | seed => exact buildBasePlan_mounted shape platform planID _ _
  | validator spec =>
    have own : node.spec.validator = some spec := by
      unfold plannerForMode at chosen
      split at chosen <;> cases chosen
      assumption
    have plain : spec.genesisCeremony = none := by
      have ceremony := shape.ceremony
      rw [own] at ceremony
      exact ceremony
    unfold ModePlanner.buildInitPlan
    simp only [plain, Option.isSome_none, Bool.false_eq_true, if_false]
    exact buildBasePlan_mounted shape platform planID _ _

/-! ## Parking and releasing -/

theorem getLast?_of_types {types : List TaskType} {last : TaskType}
    (ends : plan.types = types ++ [last]) : ∃ task, plan.tasks.getLast? = some task ∧
      task.type = last := by
  have lastType : plan.types.getLast? = some last := by
    rw [ends]
    exact List.getLast?_concat ..
  unfold TaskPlan.types at lastType
  rw [List.getLast?_map] at lastType
  exact Option.map_eq_some_iff.mp lastType

theorem parkInsteadOfRelease_ok {types : List TaskType} (ends : plan.types = types ++ [.markReady]) :
    ∃ result, parkInsteadOfRelease plan = .ok result := by
  obtain ⟨task, last, type⟩ := getLast?_of_types ends
  unfold parkInsteadOfRelease
  rw [last]
  obtain ⟨_, _, _, _, _, _, _, _⟩ := task
  cases type
  exact ⟨_, rfl⟩

theorem clearHoldAfterRelease_ok {types : List TaskType} (ends : plan.types = types ++ [.markReady]) :
    ∃ result, clearHoldAfterRelease plan = .ok result := by
  obtain ⟨task, last, type⟩ := getLast?_of_types ends
  unfold clearHoldAfterRelease
  rw [last]
  obtain ⟨_, _, _, _, _, _, _, _⟩ := task
  cases type
  exact ⟨_, rfl⟩

theorem writerFree_park {result : TaskPlan} (free : plan.WriterFree)
    (parked : parkInsteadOfRelease plan = .ok result) : result.WriterFree := by
  intro type member
  rw [types_parkInsteadOfRelease parked] at member
  rcases List.mem_append.mp member with kept | added
  · exact free type (List.dropLast_subset _ kept)
  · rw [List.mem_singleton.mp added]
    decide

/-! ## Plans of the Running arm -/

theorem finishDataReset_ok (planID : String) (node : SeiNode) :
    ∃ plan, finishDataReset node (buildDataResetPlan planID node) = .ok plan := by
  have ends := types_buildDataResetPlan planID node
  unfold finishDataReset
  split
  · exact parkInsteadOfRelease_ok ends
  · split
    · exact clearHoldAfterRelease_ok ends
    · exact ⟨_, rfl⟩

theorem StaticRunning.writerFree {platform : Platform} {planID : String}
    (built : StaticRunning platform planID node plan) : plan.WriterFree := by
  intro type member
  rcases built.mem_types member with ⟨_, reset⟩ | listed
  · have free : ∀ type ∈ resetTypes ++ resetEnding node, type ∉ mountedConfigWriters := by
      unfold resetEnding
      repeat' split
      all_goals decide
    exact free type reset
  · have free : ∀ type ∈ settledTypes, type ∉ mountedConfigWriters := by decide
    exact free type listed

theorem buildStaticRunningPlan_ok (platform : Platform) (planID : String) (node : SeiNode) :
    ∃ built, (buildStaticRunningPlan platform planID node).2 = .ok built := by
  obtain ⟨plan, finished⟩ := finishDataReset_ok planID node
  unfold buildStaticRunningPlan
  split
  · rw [finished]
    exact ⟨_, rfl⟩
  · repeat' split
    all_goals exact ⟨_, rfl⟩

theorem buildPlan_mounted (shape : MountedShape node) (platform : Platform) (planID : String)
    {mode : ModePlanner} (chosen : plannerForMode node = .ok mode) :
    ∃ built, (buildPlan platform planID mode node).2 = .ok built ∧
      ∀ plan, built = some plan → plan.WriterFree := by
  unfold buildPlan buildStaticPlan
  rw [if_pos shape.mounted]
  split
  · obtain ⟨built, ok⟩ := buildStaticRunningPlan_ok platform planID node
    refine ⟨built, ok, ?_⟩
    rintro plan rfl
    have split : buildStaticRunningPlan platform planID node =
        ((buildStaticRunningPlan platform planID node).1, .ok (some plan)) := Prod.ext rfl ok
    exact (staticRunning_of_built split).writerFree
  next starting =>
    obtain ⟨base, init, free, types, releases⟩ := buildInitPlan_mounted shape platform planID chosen
    have modeBuilt : mode.buildPlan platform planID node = (node, .ok (some base)) := by
      unfold ModePlanner.buildPlan
      rw [if_neg starting, init]
      rfl
    rw [modeBuilt]
    dsimp only
    split
    · exact ⟨some base, rfl, fun plan is => Option.some.inj is ▸ free⟩
    · obtain ⟨parked, ok⟩ := parkInsteadOfRelease_ok releases
      rw [ok]
      exact ⟨some parked, rfl, fun plan is => Option.some.inj is ▸ writerFree_park free ok⟩

/-! ## Resolving -/

section

variable {ε : Type} (env : Env ε) (platform : Platform)

/-- A resolution from `ctx` that stores only plans that write no mounted file, and ends in
an error only of the given kind. -/
structure WritesNothing (ctx : Ctx ε) (error : String → Prop) (result : Ctx ε × Option String) :
    Prop where
  stored : Log.Extends (fun event => ∃ node plan, event = .stored node plan ∧ plan.WriterFree)
    ctx.log result.1.log
  carried : ∀ plan, result.1.node.status.plan = some plan →
    ctx.node.status.plan = some plan ∨ plan.WriterFree
  failed : ∀ err, result.2 = some err → error err

def IsListingError (err : String) : Prop :=
  ∃ listing, err = "listing SeiNodes for the drift-roll budget: " ++ listing

theorem driftSlot_error {ctx next : Ctx ε} {err : String}
    (slot : driftSlot env platform ctx = (next, .error err)) : IsListingError err := by
  unfold driftSlot at slot
  split at slot
  · cases slot
  · split at slot
    · cases slot
      exact ⟨_, rfl⟩
    · cases slot

theorem admitPlan_mounted (free : plan.WriterFree) (ctx : Ctx ε) :
    WritesNothing ctx IsListingError (admitPlan env platform plan ctx) := by
  have store (state : ε) : WritesNothing ctx IsListingError
      (storePlan plan { ctx with env := state }, none) := by
    refine ⟨.cons ⟨_, plan, rfl, free⟩ _, fun other is => .inr ?_, fun _ never => by cases never⟩
    have same : plan = other := Option.some.inj is
    exact same ▸ free
  obtain ⟨state, slot⟩ := Flow.driftSlot_env env platform ctx
  unfold admitPlan
  rw [free.admitted ctx.node]
  dsimp only
  split
  · split
    next answer =>
      rw [answer] at slot
      cases slot
      refine ⟨.refl _, fun _ is => .inl is, fun other is => ?_⟩
      cases is
      exact driftSlot_error env platform answer
    next answer =>
      rw [answer] at slot
      cases slot
      exact ⟨.refl _, fun _ is => .inl is, fun _ never => by cases never⟩
    next answer =>
      rw [answer] at slot
      cases slot
      exact store state
  · exact store ctx.env

def IsPlanningError (node : SeiNode) (err : String) : Prop :=
  plannerForMode node = .error err ∨
    (∃ mode, plannerForMode node = .ok mode ∧ mode.validate node = .error err) ∨ IsListingError err

theorem IsPlanningError.congr {left right : SeiNode} {err : String}
    (chosen : plannerForMode left = plannerForMode right)
    (valid : ∀ mode : ModePlanner, mode.validate left = mode.validate right)
    (error : IsPlanningError left err) : IsPlanningError right err := by
  unfold IsPlanningError at error ⊢
  rw [← chosen]
  simp only [← valid]
  exact error

theorem planNext_mounted {ctx : Ctx ε} (shape : MountedShape ctx.node) :
    WritesNothing ctx (IsPlanningError ctx.node) (planNext env platform ctx) := by
  have unchanged (err : String) (error : IsPlanningError ctx.node err) :
      WritesNothing ctx (IsPlanningError ctx.node) (ctx, some err) :=
    ⟨.refl _, fun _ is => .inl is, fun other is => Option.some.inj is ▸ error⟩
  unfold planNext
  split
  next err chosen => exact unchanged err (.inl chosen)
  next mode chosen =>
    split
    next err invalid => exact unchanged err (.inr (.inl ⟨mode, chosen, invalid⟩))
    next =>
      split
      next state planID _ =>
        obtain ⟨built, ok, free⟩ := buildPlan_mounted shape platform planID chosen
        have same := (Flow.sameCore_buildPlan platform planID mode ctx.node).plan
        split
        next answer =>
          rw [answer] at ok
          cases ok
        next node answer =>
          rw [answer] at same
          refine ⟨.refl _, fun plan is => .inl ?_, fun _ never => by cases never⟩
          have kept := (Flow.sameCore_explainUnobservedConfig node).plan
          rw [same, kept]
          exact is
        next node plan answer =>
          rw [answer] at ok same
          cases ok
          have admitted := admitPlan_mounted env platform (free plan rfl)
            { ctx with env := state, node }
          refine ⟨admitted.stored, fun other is => ?_, fun err is => .inr (.inr (admitted.failed err is))⟩
          rcases admitted.carried other is with carried | clean
          · exact .inl (same.trans carried)
          · exact .inr clean

theorem handleTerminalPlan_spec (node : SeiNode) : (handleTerminalPlan node).spec = node.spec := by
  unfold handleTerminalPlan
  split
  · rfl
  next plan _ =>
    have same := (Flow.observeTerminal_sameCore plan node).spec
    dsimp only
    split
    · exact same.symm
    · exact same.symm

end

/-- Mounted configuration is never written.  On a node whose spec the CRD admits beside
`nodeConfig`, whatever its mode, phase and status: building a plan succeeds, so no overlay
fails to splice; a plan that is built carries none of the writers, so the refusal never
fires; what `resolvePlan` stores carries none either; and `resolvePlan` fails only because
the node has no mode, its mode refuses its spec, or the nodes could not be listed. -/
theorem mounted_config_never_written {ε : Type} (env : Env ε) (platform : Platform) (ctx : Ctx ε)
    (mounted : ctx.node.mountsNodeConfig = true)
    (admitted : ctx.node.spec.admitsNodeConfig = true) :
    (∀ planID mode, plannerForMode ctx.node = .ok mode →
      ∃ built, (buildPlan platform planID mode ctx.node).2 = .ok built ∧
        ∀ plan, built = some plan → plan.WriterFree ∧
          mountedConfigWriterInPlan (buildPlan platform planID mode ctx.node).1 plan = none) ∧
      WritesNothing ctx (IsPlanningError ctx.node) (resolvePlan env platform ctx) := by
  have shape := MountedShape.of_admitted mounted admitted
  refine ⟨fun planID mode chosen => ?_, ?_⟩
  · obtain ⟨built, ok, free⟩ := buildPlan_mounted shape platform planID chosen
    exact ⟨built, ok, fun plan is => ⟨free plan is, (free plan is).admitted _⟩⟩
  · obtain ⟨state, node, probed, core⟩ := Flow.probeSidecar_frame env ctx
    unfold resolvePlan
    rw [probed]
    dsimp only
    split
    · exact ⟨.refl _, fun plan is => .inl (core.plan.trans is), fun _ never => by cases never⟩
    next inactive =>
      have cleared : SameCore (clearPlan node) (handleTerminalPlan node) :=
        Flow.handleTerminalPlan_sameCore (by simpa using inactive)
      have spec : (handleTerminalPlan node).spec = ctx.node.spec :=
        (handleTerminalPlan_spec node).trans core.spec.symm
      have unplanned : (handleTerminalPlan node).status.plan = none := cleared.plan.symm
      generalize handleTerminalPlan node = ended at cleared spec unplanned
      have idle (failure : Option String) (error : ∀ err, failure = some err →
          IsPlanningError ctx.node err) :
          WritesNothing ctx (IsPlanningError ctx.node)
            ({ ctx with env := state, node := ended }, failure) := by
        refine ⟨.refl _, fun plan is => ?_, error⟩
        rw [unplanned] at is
        cases is
      split
      · exact idle none fun _ never => by cases never
      · split
        · exact idle none fun _ never => by cases never
        · have atEnd : MountedShape ({ ctx with env := state, node := ended } : Ctx ε).node :=
            shape.congr spec
          have planned := planNext_mounted env platform atEnd
          refine ⟨planned.stored, fun plan is => ?_, fun err is => ?_⟩
          · rcases planned.carried plan is with carried | free
            · rw [unplanned] at carried
              cases carried
            · exact .inr free
          · refine (planned.failed err is).congr ?_ fun mode => ?_
            · exact (cleared.congr plannerForMode fun _ => rfl).symm.trans
                (core.congr plannerForMode fun _ => rfl).symm
            · have coreOnly (node : SeiNode) : mode.validate node.core = mode.validate node := by
                cases mode <;> rfl
              have unplannedOnly : mode.validate (clearPlan node) = mode.validate node := by
                cases mode <;> rfl
              exact (cleared.congr (fun node => mode.validate node) coreOnly).symm.trans
                (unplannedOnly.trans (core.congr (fun node => mode.validate node) coreOnly).symm)

def mountedRestore : Ctx Unit where
  node :=
    { name := "node"
      spec :=
        { nodeConfig := some ⟨"config", "app"⟩
          fullNode := some ⟨some ⟨some ⟨100⟩, false, "", [], 0⟩, none, none⟩ } }
  claims := []
  env := ()
  log := []

theorem mountedRestore_writes_nothing :
    mountedRestore.node.spec.admitsNodeConfig = true ∧
      (resolvePlan quietEnv samplePlatform mountedRestore).1.node.status.plan.map TaskPlan.types =
        some [.ensureDataPVC, .applyRBACProxyConfig, .applyStatefulSet, .applyService,
          .snapshotRestore, .configureGenesis, .markReady] ∧
      WritesNothing mountedRestore (IsPlanningError mountedRestore.node)
        (resolvePlan quietEnv samplePlatform mountedRestore) :=
  ⟨by decide, by decide +kernel,
    (mounted_config_never_written quietEnv samplePlatform mountedRestore rfl (by decide)).2⟩

end SeiController
