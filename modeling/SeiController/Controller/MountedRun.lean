import SeiController.Controller.Mounted
import SeiController.Controller.NodeTaskLog
import SeiController.Planner.PlanTypes

/-!
# Runs of a node that mounts its configuration

No workflow ever occupies such a node, so every plan it carries came from its own planner
and every call its reconciles make is a call of that plan.  `MountedInv` keeps where the
plans came from; `NodeEvent` and `TaskEvent` list what a step can add to the log.
-/

set_option autoImplicit false

namespace SeiController

/-! ## Stored plans -/

inductive StoredPlan (platform : Platform) (node : SeiNode) (plan : TaskPlan) : Prop
  | running (running : node.status.phase = .running) (before : SeiNode)
      (same : SameCore before node) (planID : String)
      (built : StaticRunning platform planID before plan)
  | startup (starting : node.status.phase ≠ .running) (base : TaskPlan) (started : Startup base)
      (ending : node.spec.holdRequested = .none ∧ plan = base ∨
        node.spec.holdRequested ≠ .none ∧ parkInsteadOfRelease base = .ok plan)

theorem startup_of_modeBuilt {platform : Platform} {planID : String} {mode : ModePlanner}
    {node after : SeiNode} {plan : TaskPlan} (starting : node.status.phase ≠ .running)
    (built : mode.buildPlan platform planID node = (after, .ok (some plan))) :
    after = node ∧ Startup plan := by
  unfold ModePlanner.buildPlan at built
  rw [if_neg starting] at built
  cases init : mode.buildInitPlan platform planID node with
  | error err => rw [init] at built; cases built
  | ok base =>
    rw [init] at built
    cases built
    exact ⟨rfl, startup_buildInitPlan init⟩

theorem storedPlan_of_built {platform : Platform} {planID : String} {mode : ModePlanner}
    {before after : SeiNode} {plan : TaskPlan} (mounted : before.mountsNodeConfig = true)
    (built : buildPlan platform planID mode before = (after, .ok (some plan))) :
    StoredPlan platform after plan := by
  have same : SameCore before after := by
    have core := Flow.sameCore_buildPlan platform planID mode before
    rw [built] at core
    exact core
  unfold buildPlan buildStaticPlan at built
  rw [if_pos mounted] at built
  split at built
  next running =>
    exact .running (same.phase ▸ running) before same planID (staticRunning_of_built built)
  next starting =>
    have starting' : after.status.phase ≠ .running := same.phase ▸ starting
    split at built
    next modeBuilt =>
      obtain ⟨rfl, started⟩ := startup_of_modeBuilt starting modeBuilt
      split at built
      next released =>
        cases built
        exact .startup starting' _ started (.inl ⟨released, rfl⟩)
      next held =>
        cases parked : parkInsteadOfRelease _ with
        | error err => rw [parked] at built; cases built
        | ok result =>
          rw [parked] at built
          cases built
          exact .startup starting' _ started (.inr ⟨held, parked⟩)
    next none_ => exact absurd built (none_ _ _)

/-! ## One reconcile -/

section

variable {ε : Type} {env : Env ε} {platform : Platform}

theorem Ending.frame {flow next : Flow ε} (ending : Ending env platform flow next) :
    next.ctx.node.spec = flow.ctx.node.spec ∧
      next.ctx.node.status.adoptedWorkflow = flow.ctx.node.status.adoptedWorkflow ∧
      next.written = flow.written ∧ next.fresh = flow.fresh := by
  cases ending with
  | idle => exact ⟨rfl, rfl, rfl, rfl⟩
  | cleared _ _ _ same =>
    exact ⟨same.node.spec.symm, same.node.pointer.symm, same.written, same.fresh⟩
  | stored _ _ _ _ _ before after same planID mode plan built _ state is =>
    have core := Flow.sameCore_buildPlan platform planID mode before
    rw [built] at core
    subst is
    exact ⟨(same.trans core).spec.symm, (same.trans core).pointer.symm, rfl, rfl⟩
  | executed _ probed same _ _ plan _ _ is =>
    have body := executePlan_body env platform .seiNode .nodePlan plan probed.ctx
    have spec := congrArg SeiNode.spec body
    have pointer := congrArg (fun node => node.status.adoptedWorkflow) body
    subst is
    exact ⟨spec.trans same.node.spec.symm, pointer.trans same.node.pointer.symm,
      same.written, same.fresh⟩

def Event.isQuiet : Event → Bool
  | .persisted _ | .claimPatched .. | .claimDeleted .. | .forced _ => true
  | _ => false

theorem StillEvent.isQuiet {node : SeiNode} {event : Event} (still : StillEvent node event) :
    event.isQuiet = true := by
  cases still <;> rfl

theorem Kept.symm_of_alive {old new : SeiNode} (kept : Kept old new)
    (alive : old.deletionTimestamp = none) : Kept new old := by
  have phase : new.status.phase = old.status.phase := by
    rcases kept.phase with same | ⟨_, deleting⟩
    · exact same
    · rw [alive] at deleting
      cases deleting
  refine ⟨?_, .inl phase.symm⟩
  rw [kept.core]
  rfl

/-- What stands between the version read and the planning step: the observations of the
reconcile and the conditions resolved from them. -/
structure Prepared (flow planned : Flow ε) : Prop where
  spec : planned.ctx.node.spec = flow.ctx.node.spec
  phase : planned.ctx.node.status.phase = flow.ctx.node.status.phase
  plan : planned.ctx.node.status.plan = flow.ctx.node.status.plan
  pointer : planned.ctx.node.status.adoptedWorkflow = flow.ctx.node.status.adoptedWorkflow
  hold : planned.ctx.node.status.maintenanceHold = flow.ctx.node.status.maintenanceHold
  deletion : planned.ctx.node.deletionTimestamp = flow.ctx.node.deletionTimestamp
  generation :
    planned.ctx.node.status.dataResetGeneration = flow.ctx.node.status.dataResetGeneration ∨
    flow.ctx.node.status.phase ≠ .running ∧
      flow.ctx.node.status.dataResetGeneration < planned.ctx.node.status.dataResetGeneration ∧
      planned.ctx.node.status.dataResetGeneration = flow.ctx.node.spec.dataResetGeneration
  log : Log.Extends (fun event => event.isQuiet = true) flow.ctx.log planned.ctx.log
  fresh : planned.fresh = flow.fresh
  /-- The stores: of the version read first, then of the node as it is planned for. -/
  written : ∃ late early, planned.written = late ++ early ++ flow.written ∧
    (∀ version ∈ early, Kept flow.ctx.node version) ∧
    (∀ version ∈ late, Kept planned.ctx.node version) ∧
    (late ++ early ≠ [] → flow.fresh = true)

theorem prepared_of_still {flow ready planned : Flow ε}
    (alive : flow.ctx.node.deletionTimestamp = none) (finalizer : Still flow ready)
    (unchanged : ready.ctx.node.status = flow.ctx.node.status)
    (prelude : Still (ready.resolveConditions env) planned) : Prepared flow planned := by
  have resolved := resolveConditions_resolved env ready
  have log := resolveConditions_log env ready
  have fresh := resolveConditions_fresh env ready
  have written := resolveConditions_written env ready
  generalize ready.resolveConditions env = started at *
  have first := finalizer.node
  have second := prelude.node
  have startedAlive : started.ctx.node.deletionTimestamp = none :=
    (resolved.deletion.trans first.deletion).trans alive
  have back := second.symm_of_alive startedAlive
  have phase : planned.ctx.node.status.phase = started.ctx.node.status.phase := by
    rcases second.phase with same | ⟨_, deleting⟩
    · exact same
    · rw [startedAlive] at deleting
      cases deleting
  refine
    { spec := second.spec.trans (resolved.spec.trans first.spec)
      phase := phase.trans (resolved.phase.trans (congrArg SeiNodeStatus.phase unchanged))
      plan := second.plan.trans (resolved.plan.trans first.plan)
      pointer := second.pointer.trans (resolved.pointer.trans first.pointer)
      hold := second.hold.trans (resolved.hold.trans first.hold)
      deletion := second.deletion.trans (resolved.deletion.trans first.deletion)
      generation := ?_
      log := ?_
      fresh := prelude.fresh.trans (fresh.trans finalizer.fresh)
      written := ?_ }
  · rw [second.generation, ← unchanged, ← first.spec]
    exact resolved.generation
  · have early := finalizer.log.mono fun _ event => event.isQuiet
    have late := prelude.log.mono fun _ event => event.isQuiet
    rw [log] at late
    exact early.trans late
  · obtain ⟨early, sameEarly, keptEarly, freshEarly, _⟩ := finalizer.written
    obtain ⟨late, sameLate, keptLate, freshLate, _⟩ := prelude.written
    refine ⟨late, early, ?_, keptEarly, fun version member => back.trans (keptLate version member),
      ?_⟩
    · rw [sameLate, written, sameEarly, List.append_assoc]
    · intro nonempty
      cases late with
      | nil => exact freshEarly (by simpa using nonempty)
      | cons => rw [← finalizer.fresh, ← fresh]; exact freshLate (by simp)

/-- The plan after the planning step: the one before, a new one, or the one before as its
execution left it. -/
theorem Ending.plan {flow next : Flow ε} (ending : Ending env platform flow next) {plan : TaskPlan}
    (carried : next.ctx.node.status.plan = some plan) :
    (∃ node, Log.Gained flow.ctx.log next.ctx.log (.stored node plan)) ∨
      ∃ old, flow.ctx.node.status.plan = some old ∧ PlanEvolves old plan := by
  cases ending with
  | idle => exact .inr ⟨plan, carried, .refl plan⟩
  | cleared _ _ _ same =>
    rw [← same.node.plan] at carried
    cases carried
  | stored _ _ _ _ _ before after same planID mode stored built _ state is =>
    subst is
    cases carried
    exact .inl ⟨after, .cons _ _⟩
  | executed _ probed same _ _ old carriedOld active is =>
    subst is
    cases carried
    exact .inr ⟨old, carriedOld, executePlan_evolves .seiNode .nodePlan old probed.ctx⟩

theorem Ending.recorded {flow next : Flow ε} (ending : Ending env platform flow next) :
    Recorded flow.ctx next.ctx := by
  cases ending with
  | idle => exact .of_same rfl rfl
  | cleared _ _ _ same => exact .of_same same.node.generation.symm same.node.hold.symm
  | stored _ _ _ _ _ before after same planID mode stored built _ state is =>
    have core := Flow.sameCore_buildPlan platform planID mode before
    rw [built] at core
    subst is
    exact .of_same (same.trans core).generation.symm (same.trans core).hold.symm
  | executed _ probed same _ _ plan _ active is =>
    obtain ⟨mid, run, sameMid, ended⟩ :=
      executePlan_end env platform .seiNode .nodePlan active probed.ctx
    obtain ⟨phase, hash, node⟩ := ended.node_eq
    subst is
    unfold Flow.executeNodePlan
    generalize executePlan env platform .seiNode .nodePlan plan probed.ctx = result
      at sameMid node
    obtain ⟨nextPlan, after⟩ := result
    dsimp only at sameMid node
    refine run.recorded same.log.symm ?_ same.node.generation same.node.hold ?_ ?_
    · show after.log = mid.log
      rw [sameMid]
    · exact congrArg (fun node => node.status.dataResetGeneration) node
    · exact congrArg (fun node => node.status.maintenanceHold) node

inductive MountedReconcile (env : Env ε) (platform : Platform) (flow next : Flow ε) : Prop
  | still (still : Still flow next)
  | body (alive : flow.ctx.node.deletionTimestamp = none) (planned ended : Flow ε)
      (prepared : Prepared flow planned) (ending : Ending env platform planned ended)
      (flush : Still ended next)

theorem mountsNodeConfig_of_spec {left right : SeiNode} (spec : left.spec = right.spec)
    (mounted : right.mountsNodeConfig = true) : left.mountsNodeConfig = true := by
  unfold SeiNode.mountsNodeConfig at mounted ⊢
  rw [spec]
  exact mounted

theorem Reconciled.mounted {flow next : Flow ε} (shape : Reconciled env platform flow next)
    (mounted : flow.ctx.node.mountsNodeConfig = true)
    (unoccupied : flow.ctx.node.status.adoptedWorkflow = none) :
    MountedReconcile env platform flow next := by
  cases shape with
  | outside moves => exact .still (moves.still mounted unoccupied)
  | body alive ready planned ended finalizer unchanged prelude ending flush =>
    have first := finalizer.still mounted unoccupied
    have resolved := resolveConditions_resolved env ready
    have second := prelude.still
      (mountsNodeConfig_of_spec (resolved.spec.trans first.node.spec) mounted)
      ((resolved.pointer.trans first.node.pointer).trans unoccupied)
    have prepared := prepared_of_still alive first unchanged second
    obtain ⟨spec, pointer, _⟩ := ending.frame
    exact .body alive planned ended prepared ending
      (flush.still (mountsNodeConfig_of_spec (spec.trans prepared.spec) mounted)
        ((pointer.trans prepared.pointer).trans unoccupied))

/-! ## What a reconcile logs -/

/-- What a reconcile that read this version can add to the log. -/
inductive NodeEvent (platform : Platform) (read : SeiNode) : Event → Prop
  | quiet {event : Event} (quiet : event.isQuiet = true) : NodeEvent platform read event
  | stored (node : SeiNode) (plan : TaskPlan) (spec : node.spec = read.spec)
      (phase : node.status.phase = read.status.phase) (stored : StoredPlan platform node plan) :
      NodeEvent platform read (.stored node plan)
  | driven {event : Event} (node : SeiNode) (spec : node.spec = read.spec)
      (phase : node.status.phase = read.status.phase) (plan : TaskPlan)
      (carried : read.status.plan = some plan) (active : plan.phase = .active)
      (on : EventOn node event) (from_ : FromPlan platform .nodePlan plan event) :
      NodeEvent platform read event

theorem NodeEvent.of_read {read earlier : SeiNode} (spec : read.spec = earlier.spec)
    (phase : read.status.phase = earlier.status.phase)
    (plan : read.status.plan = earlier.status.plan) {event : Event}
    (made : NodeEvent platform read event) : NodeEvent platform earlier event := by
  cases made with
  | quiet quiet => exact .quiet quiet
  | stored node stored spec' phase' from_ =>
    exact .stored node stored (spec'.trans spec) (phase'.trans phase) from_
  | driven node spec' phase' driven carried active on from_ =>
    exact .driven node (spec'.trans spec) (phase'.trans phase) driven (plan ▸ carried) active on
      from_

theorem Still.nodeEvents {flow next : Flow ε} (still : Still flow next) (read : SeiNode) :
    Log.Extends (NodeEvent platform read) flow.ctx.log next.ctx.log :=
  still.log.mono fun _ event => .quiet event.isQuiet

theorem Ending.nodeEvents {flow next : Flow ε} (ending : Ending env platform flow next)
    (mounted : flow.ctx.node.mountsNodeConfig = true) :
    Log.Extends (NodeEvent platform flow.ctx.node) flow.ctx.log next.ctx.log := by
  cases ending with
  | idle => exact .refl _
  | cleared _ _ _ same =>
    rw [same.log]
    exact .refl _
  | stored _ _ _ _ _ before after same planID mode plan built _ state is =>
    have core := Flow.sameCore_buildPlan platform planID mode before
    rw [built] at core
    have beforeMounted := mountsNodeConfig_of_spec same.spec.symm mounted
    subst is
    exact .cons (.stored after plan (same.trans core).spec.symm (same.trans core).phase.symm
      (storedPlan_of_built beforeMounted built)) _
  | executed _ probed same _ _ plan carried active is =>
    obtain ⟨mid, run, sameMid, ended⟩ :=
      executePlan_end env platform .seiNode .nodePlan active probed.ctx
    have midLog :
        (executePlan env platform .seiNode .nodePlan plan probed.ctx).2.log = mid.log := by
      rw [sameMid]
    have on := run.log
    rw [← midLog] at on
    have both := on.and (executePlan_log .seiNode .nodePlan plan probed.ctx)
    subst is
    rw [← same.log]
    exact both.mono fun event facts =>
      .driven probed.ctx.node same.node.spec.symm same.node.phase.symm plan carried active
        facts.1 facts.2

theorem MountedReconcile.nodeEvents {flow next : Flow ε}
    (shape : MountedReconcile env platform flow next)
    (mounted : flow.ctx.node.mountsNodeConfig = true) :
    Log.Extends (NodeEvent platform flow.ctx.node) flow.ctx.log next.ctx.log := by
  cases shape with
  | still still => exact still.nodeEvents _
  | body alive planned ended prepared ending flush =>
    have early := prepared.log.mono (Q := NodeEvent platform flow.ctx.node) fun _ quiet =>
      .quiet quiet
    have planning := (ending.nodeEvents (mountsNodeConfig_of_spec prepared.spec mounted)).mono
      fun _ made => made.of_read prepared.spec prepared.phase prepared.plan
    exact (early.trans planning).trans (flush.nodeEvents _)

/-! ## What a reconcile stores -/

/-- A node the reconcile had in memory at some moment: the version read, the node it planned
for, or what the planning step made of it. -/
inductive Visited (env : Env ε) (platform : Platform) (flow next : Flow ε) (version : SeiNode) :
    Prop
  | read (kept : Kept flow.ctx.node version)
  | prepared (planned : Flow ε) (prepared : Prepared flow planned)
      (kept : Kept planned.ctx.node version)
  | ended (planned ended : Flow ε) (prepared : Prepared flow planned)
      (ending : Ending env platform planned ended) (kept : Kept ended.ctx.node version)
      (later : Log.Extends (fun event => event.isQuiet = true) ended.ctx.log next.ctx.log)

theorem MountedReconcile.visited {flow next : Flow ε}
    (shape : MountedReconcile env platform flow next) (start : flow.written = [])
    {version : SeiNode} (member : version ∈ next.written) :
    flow.fresh = true ∧ Visited env platform flow next version := by
  cases shape with
  | still still =>
    obtain ⟨stored, same, kept, fresh, _⟩ := still.written
    rw [start, List.append_nil] at same
    rw [same] at member
    exact ⟨fresh (List.ne_nil_of_mem member), .read (kept version member)⟩
  | body alive planned ended prepared ending flush =>
    obtain ⟨late, early, same, keptEarly, keptLate, fresh⟩ := prepared.written
    obtain ⟨flushed, sameFlushed, keptFlushed, freshFlushed, _⟩ := flush.written
    obtain ⟨_, _, written, endFresh⟩ := ending.frame
    rw [sameFlushed, written, same, start, List.append_nil] at member
    rcases List.mem_append.mp member with last | before
    · refine ⟨?_, .ended planned ended prepared ending (keptFlushed version last)
        (flush.log.mono fun _ event => event.isQuiet)⟩
      rw [← prepared.fresh, ← endFresh]
      exact freshFlushed (List.ne_nil_of_mem last)
    · refine ⟨fresh (List.ne_nil_of_mem before), ?_⟩
      rcases List.mem_append.mp before with middle | first
      · exact .prepared planned prepared (keptLate version middle)
      · exact .read (keptEarly version first)

namespace Visited

variable {flow next : Flow ε} {version : SeiNode}

theorem spec (visited : Visited env platform flow next version) :
    version.spec = flow.ctx.node.spec := by
  cases visited with
  | read kept => exact kept.spec
  | prepared planned prepared kept => exact kept.spec.trans prepared.spec
  | ended planned ended prepared ending kept =>
    exact kept.spec.trans (ending.frame.1.trans prepared.spec)

theorem pointer (visited : Visited env platform flow next version) :
    version.status.adoptedWorkflow = flow.ctx.node.status.adoptedWorkflow := by
  cases visited with
  | read kept => exact kept.pointer
  | prepared planned prepared kept => exact kept.pointer.trans prepared.pointer
  | ended planned ended prepared ending kept =>
    exact kept.pointer.trans (ending.frame.2.1.trans prepared.pointer)

theorem plan (visited : Visited env platform flow next version) {plan : TaskPlan}
    (carried : version.status.plan = some plan) :
    (∃ node, Log.Gained flow.ctx.log next.ctx.log (.stored node plan)) ∨
      ∃ old, flow.ctx.node.status.plan = some old ∧ PlanEvolves old plan := by
  cases visited with
  | read kept => exact .inr ⟨plan, kept.plan ▸ carried, .refl plan⟩
  | prepared planned prepared kept =>
    exact .inr ⟨plan, prepared.plan ▸ kept.plan ▸ carried, .refl plan⟩
  | ended planned ended prepared ending kept later =>
    rw [kept.plan] at carried
    rcases ending.plan carried with ⟨node, gained⟩ | ⟨old, carriedOld, evolved⟩
    · exact .inl ⟨node, (gained.before prepared.log).after later⟩
    · exact .inr ⟨old, prepared.plan ▸ carriedOld, evolved⟩

theorem hold (visited : Visited env platform flow next version) :
    version.status.maintenanceHold = flow.ctx.node.status.maintenanceHold ∨
      ∃ event, Log.Gained flow.ctx.log next.ctx.log event ∧
        RanTask .recordMaintenanceHold
          (fun task => version.status.maintenanceHold = task.params.hold) event := by
  cases visited with
  | read kept => exact .inl kept.hold
  | prepared planned prepared kept => exact .inl (kept.hold.trans prepared.hold)
  | ended planned ended prepared ending kept later =>
    rw [kept.hold, ← prepared.hold]
    refine ending.recorded.hold.imp_right fun ⟨event, gained, ran⟩ => ?_
    exact ⟨event, (gained.before prepared.log).after later, ran⟩

theorem rising (visited : Visited env platform flow next version) :
    flow.ctx.node.status.dataResetGeneration ≤ version.status.dataResetGeneration := by
  have first {planned : Flow ε} (prepared : Prepared flow planned) :
      flow.ctx.node.status.dataResetGeneration ≤
        planned.ctx.node.status.dataResetGeneration := by
    rcases prepared.generation with same | ⟨_, above, _⟩
    · exact Int.le_of_eq same.symm
    · exact Int.le_of_lt above
  cases visited with
  | read kept => exact Int.le_of_eq kept.generation.symm
  | prepared planned prepared kept =>
    rw [kept.generation]
    exact first prepared
  | ended planned ended prepared ending kept =>
    rw [kept.generation]
    exact Int.le_trans (first prepared) ending.recorded.rising

theorem generation (visited : Visited env platform flow next version)
    (running : flow.ctx.node.status.phase = .running) :
    version.status.dataResetGeneration = flow.ctx.node.status.dataResetGeneration ∨
      ∃ event, Log.Gained flow.ctx.log next.ctx.log event ∧
        RanTask .recordDataReset
          (fun task => version.status.dataResetGeneration = task.params.generation) event := by
  have first {planned : Flow ε} (prepared : Prepared flow planned) :
      planned.ctx.node.status.dataResetGeneration =
        flow.ctx.node.status.dataResetGeneration := by
    rcases prepared.generation with same | ⟨stopped, _⟩
    · exact same
    · exact absurd running stopped
  cases visited with
  | read kept => exact .inl kept.generation
  | prepared planned prepared kept => exact .inl (kept.generation.trans (first prepared))
  | ended planned ended prepared ending kept later =>
    rw [kept.generation, ← first prepared]
    refine ending.recorded.generation.imp_right fun ⟨event, gained, ran⟩ => ?_
    exact ⟨event, (gained.before prepared.log).after later, ran⟩

end Visited

/-! ## The invariant of a run -/

def Planned (log : List Event) (plan : TaskPlan) : Prop :=
  ∃ node first, Event.stored node first ∈ log ∧ PlanEvolves first plan

theorem Planned.mono {P : Event → Prop} {old new : List Event} (grown : Log.Extends P old new)
    {plan : TaskPlan} (planned : Planned old plan) : Planned new plan := by
  obtain ⟨node, first, stored, evolved⟩ := planned
  exact ⟨node, first, grown.mem stored, evolved⟩

inductive Explained (platform : Platform) (log : List Event) : Event → Prop
  | quiet {event : Event} (quiet : event.isQuiet = true) : Explained platform log event
  | stored (node : SeiNode) (plan : TaskPlan) (from_ : StoredPlan platform node plan) :
      Explained platform log (.stored node plan)
  | driven {event : Event} (node : SeiNode) (mounted : node.mountsNodeConfig = true)
      (on : EventOn node event) (plan : TaskPlan) (planned : Planned log plan)
      (from_ : FromPlan platform .nodePlan plan event) : Explained platform log event
  | task {event : Event} (cr : SeiNodeTask) (target : SeiNode)
      (mounted : target.mountsNodeConfig = true) (made : TaskEvent platform cr target event) :
      Explained platform log event

theorem Explained.mono {P : Event → Prop} {old new : List Event} (grown : Log.Extends P old new)
    {event : Event} (explained : Explained platform old event) : Explained platform new event := by
  cases explained with
  | quiet quiet => exact .quiet quiet
  | stored node plan from_ => exact .stored node plan from_
  | driven node mounted on plan planned from_ =>
    exact .driven node mounted on plan (planned.mono grown) from_
  | task cr target mounted made => exact .task cr target mounted made

theorem Explained.storedPlan {log : List Event} {node : SeiNode} {plan : TaskPlan}
    (explained : Explained platform log (.stored node plan)) : StoredPlan platform node plan := by
  cases explained with
  | quiet quiet => cases quiet
  | stored _ _ from_ => exact from_
  | driven _ _ _ _ _ from_ =>
    obtain ⟨_, _, _, _, _, _, made⟩ := from_
    cases made
  | task _ _ _ made =>
    obtain ⟨_, _, _, _, _, _, made, _⟩ := made
    cases made

structure MountedInv (platform : Platform) (world : World ε) : Prop where
  mounted : ∀ version ∈ world.versions, version.mountsNodeConfig = true
  unoccupied : ∀ version ∈ world.versions, version.status.adoptedWorkflow = none
  planned : ∀ version ∈ world.versions, ∀ plan, version.status.plan = some plan →
    Planned world.log plan
  events : ∀ event ∈ world.log, Explained platform world.log event

theorem NodeEvent.explained {read : SeiNode} {log : List Event}
    (mounted : read.mountsNodeConfig = true)
    (planned : ∀ plan, read.status.plan = some plan → Planned log plan) {event : Event}
    (made : NodeEvent platform read event) : Explained platform log event := by
  cases made with
  | quiet quiet => exact .quiet quiet
  | stored node plan _ _ from_ => exact .stored node plan from_
  | driven node spec _ plan carried _ on from_ =>
    exact .driven node (mountsNodeConfig_of_spec spec mounted) on plan (planned plan carried) from_

theorem MountedInv.grow {world next : World ε} (inv : MountedInv platform world)
    (log : Log.Extends (Explained platform world.log) world.log next.log)
    (versions : ∀ version ∈ next.versions, version ∈ world.versions ∨
      version.mountsNodeConfig = true ∧ version.status.adoptedWorkflow = none ∧
        ∀ plan, version.status.plan = some plan → Planned next.log plan) :
    MountedInv platform next where
  mounted version member := by
    rcases versions version member with old | new
    · exact inv.mounted version old
    · exact new.1
  unoccupied version member := by
    rcases versions version member with old | new
    · exact inv.unoccupied version old
    · exact new.2.1
  planned version member plan carried := by
    rcases versions version member with old | new
    · exact (inv.planned version old plan carried).mono log
    · exact new.2.2 plan carried
  events := by
    intro event member
    exact (log.forall inv.events event member).mono log

/-- The plan of a logged call, with the plan it came from. -/
theorem MountedInv.storedPlan {world : World ε} (inv : MountedInv platform world)
    {plan : TaskPlan} (planned : Planned world.log plan) :
    ∃ node first, Event.stored node first ∈ world.log ∧ StoredPlan platform node first ∧
      PlanEvolves first plan := by
  obtain ⟨node, first, stored, evolved⟩ := planned
  exact ⟨node, first, stored, (inv.events _ stored).storedPlan, evolved⟩

variable (env) in
theorem MountedInv.reconciled {world : World ε} (inv : MountedInv platform world) {read : SeiNode}
    (member : read ∈ world.versions) (fresh : Bool) :
    MountedReconcile env platform (world.start read fresh)
      (world.reconcile env platform read fresh) :=
  (Flow.reconcile_reconciled env platform _).mounted (inv.mounted read member)
    (inv.unoccupied read member)

theorem mem_versions_of_cached {world : World ε} {newer stale : List SeiNode} {read : SeiNode}
    (cached : world.versions = newer ++ read :: stale) :
    read ∈ world.versions ∧ ∀ version ∈ newer, version ∈ world.versions := by
  rw [cached]
  exact ⟨by simp, fun version member => List.mem_append_left _ member⟩

/-- Only the reconcile that read the latest version replaces it. -/
theorem latest_of_reconcile {world next : World ε} {newer stale written : List SeiNode}
    {read : SeiNode} {fresh : Bool} (cached : world.versions = newer ++ read :: stale)
    (upToDate : fresh = true → newer = []) (stored : written ≠ [] → fresh = true)
    (versions : next.versions = written ++ newer ++ [read]) :
    next.latest = world.latest ∨ read = world.latest ∧ next.latest ∈ written := by
  cases written with
  | nil =>
    refine .inl ?_
    cases newer with
    | nil => exact (List.cons.inj versions).1.trans (List.cons.inj cached).1.symm
    | cons => exact (List.cons.inj versions).1.trans (List.cons.inj cached).1.symm
  | cons version written =>
    have none_ := upToDate (stored (by simp))
    subst none_
    refine .inr ⟨(List.cons.inj cached).1.symm, ?_⟩
    rw [(List.cons.inj versions).1]
    exact List.mem_cons_self

theorem MountedInv.init {world : World ε} (initial : world.Initial) (mounted : world.Mounted) :
    MountedInv platform world := by
  have only : ∀ version ∈ world.versions, version = world.latest := by
    intro version member
    rw [World.versions, initial.older] at member
    exact List.mem_singleton.mp member
  refine ⟨fun version member => ?_, fun version member => ?_, fun version member plan carried => ?_,
    fun event member => ?_⟩
  · rw [only version member]
    exact mounted
  · rw [only version member, initial.status]
  · rw [only version member, initial.status] at carried
    cases carried
  · rw [initial.log] at member
    cases member

theorem MountedInv.step {world next : World ε} {action : Action}
    (inv : MountedInv platform world) (move : World.Step env platform world action next) :
    MountedInv platform next := by
  have kept {next : World ε} (versions : next.versions = world.versions)
      (log : Log.Extends (Explained platform world.log) world.log next.log) :
      MountedInv platform next :=
    inv.grow log fun version member => .inl (versions ▸ member)
  cases move with
  | edit node admitted =>
    refine inv.grow (.refl _) fun version member => ?_
    rcases List.mem_cons.mp member with rfl | old
    · refine .inr ⟨?_, ?_, ?_⟩
      · have was := inv.mounted world.latest List.mem_cons_self
        unfold SeiNode.mountsNodeConfig at was ⊢
        rw [admitted.nodeConfig]
        exact was
      · rw [admitted.status]
        exact inv.unoccupied world.latest List.mem_cons_self
      · rw [admitted.status]
        exact inv.planned world.latest List.mem_cons_self
    · exact .inl old
  | reconcile _ read fresh newer stale cached upToDate flow ran versions workflows tasks claims
      state log =>
      obtain ⟨readMember, newerMember⟩ := mem_versions_of_cached cached
      have shape := inv.reconciled env readMember fresh
      rw [← ran] at shape
      have grown := shape.nodeEvents (inv.mounted read readMember)
      rw [← log] at grown
      refine inv.grow (grown.mono fun event made =>
          made.explained (inv.mounted read readMember) (inv.planned read readMember))
        fun version member => ?_
      rw [versions, List.append_assoc] at member
      rcases List.mem_append.mp member with written | old
      · obtain ⟨_, visited⟩ := shape.visited rfl written
        refine .inr ⟨mountsNodeConfig_of_spec visited.spec (inv.mounted read readMember),
          visited.pointer.trans (inv.unoccupied read readMember), fun plan carried => ?_⟩
        rcases visited.plan carried with ⟨node, gained⟩ | ⟨old, carriedOld, evolved⟩
        · rw [← log] at gained
          exact ⟨node, plan, gained.mem, .refl plan⟩
        · obtain ⟨node, first, stored, before⟩ := inv.planned read readMember old carriedOld
          exact ⟨node, first, grown.mem stored, before.trans evolved⟩
      · refine .inl ?_
        rcases List.mem_append.mp old with newer | same
        · exact newerMember version newer
        · rw [List.mem_singleton.mp same]
          exact readMember
  | reconcileTask task stored target cached tasks written =>
    refine kept rfl ((task.reconcile_log env platform target _).mono fun event made => ?_)
    obtain ⟨node, found, made⟩ := made
    exact .task task node (inv.mounted node (cached node found)) made
  | forceWorkflow uid => exact kept rfl (.cons (.quiet rfl) _)
  | createTask | createWorkflow | deleteWorkflow | collectWorkflow | outside =>
    exact kept rfl (.refl _)

/-- What a step makes of the latest version: the status stays, or the step is a reconcile of
that version. -/
theorem MountedInv.latest_step {world next : World ε} {action : Action}
    (inv : MountedInv platform world) (move : World.Step env platform world action next) :
    next.latest.status = world.latest.status ∨
      ∃ flow : Flow ε, flow.ctx.log = next.log ∧
        Visited env platform (world.start world.latest true) flow next.latest := by
  cases move with
  | edit node admitted => exact .inl admitted.status
  | reconcile _ read fresh newer stale cached upToDate flow ran versions workflows tasks claims
      state log =>
      have shape := inv.reconciled env (mem_versions_of_cached cached).1 fresh
      rw [← ran] at shape
      have stored : flow.written ≠ [] → fresh = true := by
        intro nonempty
        obtain ⟨version, member⟩ := List.exists_mem_of_ne_nil _ nonempty
        exact (shape.visited rfl member).1
      rcases latest_of_reconcile cached upToDate stored versions with same | ⟨same, written⟩
      · exact .inl (congrArg SeiNode.status same)
      · obtain ⟨isFresh, visited⟩ := shape.visited rfl written
        cases (show fresh = true from isFresh)
        rw [same] at visited
        exact .inr ⟨flow, log.symm, visited⟩
  | _ => exact .inl rfl

theorem World.Reached.mountedInv {allowed : World ε → Action → Prop} {world : World ε}
    (reached : World.Reached env platform World.Mounted allowed world) :
    MountedInv platform world :=
  Reachable.invariant (fun _ start => .init start.1 start.2)
    (fun _ _ inv ⟨_, _, move⟩ => inv.step move) reached

end

end SeiController
