import SeiController.Controller.MaintenanceHold

/-!
# The maintenance condition over whole runs

The reasons Held and Armed of `MaintenanceInProgress` invite operators to work inside the pod.
The condition is resolved before the reconcile plans, so what is persisted with a new plan was
resolved without it.  `Trusted` carries through a reconcile that no version which may still be
read has an active plan that disturbs such work while the last reason persisted invites it.
-/

set_option autoImplicit false

namespace SeiController

def startsOrWipes (type : TaskType) : Bool :=
  opensGate type || type == .resetDataKeepSignState

def SeiNode.invitesWork (node : SeiNode) : Bool :=
  match node.status.maintenanceInProgress with
  | some condition => condition.reason == .held || condition.reason == .armed
  | none => false

def invited (log : List Event) : Bool :=
  ((lastPersisted log).map SeiNode.invitesWork).getD false

/-- A task of a plan that starts seid or wipes its data is submitted only while the last reason
persisted invites no work. -/
def keepsInvitation (earlier : List Event) : Event → Bool
  | .submitted (.nodeTask _) _ _ _ => true
  | .submitted _ task _ _ => !(startsOrWipes task.type && invited earlier)
  | _ => true

/-! ## Plans that start seid or wipe its data -/

def TaskPlan.disturbs (plan : TaskPlan) : Bool :=
  plan.types.any startsOrWipes

/-- The node carries an active plan that starts seid or wipes its data. -/
def SeiNode.restless (node : SeiNode) : Bool :=
  match node.status.plan with
  | some plan => plan.phase == .active && plan.disturbs
  | none => false

theorem SeiNode.restless_iff {node : SeiNode} : node.restless = true ↔
    ∃ plan, node.status.plan = some plan ∧ plan.phase = .active ∧ plan.disturbs = true := by
  unfold SeiNode.restless
  split
  next plan carried => simp [carried]
  next uncarried => simp [uncarried]

theorem disturbs_of_evolves {old new : TaskPlan} (evolved : PlanEvolves old new) :
    new.disturbs = old.disturbs ∧ isMaintenancePlan new = isMaintenancePlan old := by
  have types : new.types = old.types := types_of_evolves evolved.tasks
  have records : isMaintenancePlan new = true ↔ isMaintenancePlan old = true := by
    unfold isMaintenancePlan
    rw [TaskPlan.hasTask_iff, TaskPlan.hasTask_iff, types]
  refine ⟨?_, Bool.eq_iff_iff.mpr records⟩
  unfold TaskPlan.disturbs
  rw [types]

variable {platform : Platform} {node : SeiNode} {plan : TaskPlan}

theorem isMaintenancePlan_iff : isMaintenancePlan plan = true ↔ .recordMaintenanceHold ∈ plan.types :=
  plan.hasTask_iff .recordMaintenanceHold

/-- A plan of the Running arm that disturbs records the hold, or there is none; and it was built
for a reset, for a change of the hold, or under none. -/
theorem StaticRunning.disturbs {planID : String} (built : StaticRunning platform planID node plan)
    (disturbs : plan.disturbs = true) :
    (isMaintenancePlan plan = true ∨ node.status.maintenanceHold = .none) ∧
      (dataResetPending node = true ∨ node.spec.holdRequested ≠ node.status.maintenanceHold ∨
        node.status.maintenanceHold = .none) := by
  cases built with
  | reset _ due finished =>
    refine ⟨?_, .inl due⟩
    rw [isMaintenancePlan_iff, types_finishDataReset finished, resetEnding]
    split
    · exact .inl (by decide)
    · split
      · exact .inl (by decide)
      next released => exact .inr (not_not.mp released)
  | hold _ _ held =>
    rw [isMaintenancePlan_iff]
    rcases (buildHoldPlan_some held).2.2 with ⟨_, inEffect, types⟩ | ⟨differ, types⟩
    · -- applying the hold in effect again only closes the gate
      have quiet : (holdTypes node.status.maintenanceHold .none).any startsOrWipes = false := by
        revert inEffect
        cases node.status.maintenanceHold <;> decide
      rw [TaskPlan.disturbs, types, quiet] at disturbs
      cases disturbs
    · refine ⟨.inl ?_, .inr (.inl differ)⟩
      rw [types]
      cases node.spec.holdRequested <;> cases node.status.maintenanceHold <;> decide
  | update _ inEffect =>
    suffices released : node.status.maintenanceHold = .none from ⟨.inr released, .inr (.inr released)⟩
    by_contra held
    rw [if_pos (inEffect ▸ held)] at disturbs
    obtain ⟨type, member, starts⟩ := List.any_eq_true.mp disturbs
    obtain ⟨notReady, listed⟩ := mem_types_withoutMarkReady member
    have quiet := (mem_update listed).resolve_left notReady
    simp only [quietUpdateTypes, List.mem_cons, List.not_mem_nil, or_false] at quiet
    rcases quiet with rfl | rfl | rfl | rfl | rfl | rfl <;> cases starts
  | reapprove _ released inEffect =>
    have none_ := inEffect.symm.trans released
    exact ⟨.inr none_, .inr (.inr none_)⟩

theorem StaticRunning.targets {planID : String} (built : StaticRunning platform planID node plan) :
    plan.phase = .active ∧ plan.targetPhase = .running ∧ plan.failedPhase = .empty :=
  ⟨built.fresh.1.active, built.fresh.1.target, built.fresh.2⟩

/-- A plan that starts a node up ends it Running or Failed. -/
theorem Startup.targets {base : TaskPlan} (started : Startup base)
    (ending : plan = base ∨ parkInsteadOfRelease base = .ok plan) :
    plan.phase = .active ∧ plan.targetPhase = .running ∧ plan.failedPhase = .failed := by
  rcases ending with rfl | parked
  · exact ⟨started.fresh.active, started.fresh.target, started.failedPhase⟩
  · have retasked := retasked_park parked
    have fresh := retasked.fresh started.fresh
    exact ⟨fresh.active, fresh.target, retasked.failedPhase.trans started.failedPhase⟩

/-! ## What keeps a hold apart from plans that ignore it -/

/-- No startup plan is built for the node any more. -/
def SeiNode.placed (node : SeiNode) : Prop :=
  node.status.phase = .running ∨ node.status.phase = .failed ∨ node.deletionTimestamp.isSome = true

structure SeiNode.HoldKept (node : SeiNode) : Prop where
  ends : ∀ plan, node.status.plan = some plan → plan.targetPhase = .running ∧
    (plan.failedPhase = .failed ∨ plan.failedPhase = .empty ∧ node.placed)
  hold : node.status.maintenanceHold = .none ∨ node.placed ∨ node.planActive = true
  disturbs : ∀ plan, node.status.plan = some plan → plan.disturbs = true →
    isMaintenancePlan plan = true ∨ node.status.maintenanceHold = .none

variable {next : SeiNode}

theorem SeiNode.HoldKept.congr (kept : node.HoldKept) (plan : next.status.plan = node.status.plan)
    (hold : next.status.maintenanceHold = node.status.maintenanceHold)
    (placed : node.placed → next.placed) : next.HoldKept where
  ends carried same := by
    obtain ⟨target, failed⟩ := kept.ends carried (plan ▸ same)
    exact ⟨target, failed.imp_right (And.imp_right placed)⟩
  hold := by
    have active : next.planActive = node.planActive := by
      unfold SeiNode.planActive
      rw [plan]
    rw [hold, active]
    exact kept.hold.imp_right (Or.imp_left placed)
  disturbs carried same disturbs := by
    rw [hold]
    exact kept.disturbs carried (plan ▸ same) disturbs

theorem SeiNode.placed_of_same (phase : next.status.phase = node.status.phase)
    (deletion : next.deletionTimestamp = node.deletionTimestamp) (placed : node.placed) :
    next.placed := by
  unfold SeiNode.placed
  rw [phase, deletion]
  exact placed

theorem Kept.placed (kept : Kept node next) (placed : node.placed) : next.placed := by
  rcases kept.phase with same | ⟨_, deleting⟩
  · exact SeiNode.placed_of_same same kept.deletion placed
  · exact .inr (.inr (by rw [kept.deletion]; exact deleting))

theorem Kept.restless (kept : Kept node next) : next.restless = node.restless :=
  kept.read SeiNode.restless fun _ _ _ => rfl

theorem Kept.invitesWork (kept : Kept node next) : next.invitesWork = node.invitesWork :=
  kept.read SeiNode.invitesWork fun _ _ _ => rfl

theorem SeiNode.HoldKept.kept (held : node.HoldKept) (kept : Kept node next) : next.HoldKept :=
  held.congr kept.plan kept.hold kept.placed

/-! ## The condition as it is resolved -/

theorem invites_resolveMaintenance (invites : (resolveMaintenance node).invitesWork = true) :
    node.spec.holdRequested = node.status.maintenanceHold ∧ node.status.maintenanceHold ≠ .none ∧
      ∀ plan, node.status.plan = some plan → plan.phase = .active → isMaintenancePlan plan = false := by
  unfold resolveMaintenance at invites
  dsimp only at invites
  split at invites
  · cases invites
  · split at invites
    · cases invites
    next idle =>
      split at invites
      · cases invites
      next wanted =>
        split at invites
        · cases invites
        next agree =>
          have same := not_not.mp agree
          refine ⟨same, fun none_ => wanted ⟨same.trans none_, none_⟩, fun plan carried active => ?_⟩
          simpa [carried, active] using idle

/-- A reset is requested under a hold that is requested and in effect. -/
def SeiNode.resetsUnderHold (node : SeiNode) : Bool :=
  dataResetPending node && decide (node.spec.holdRequested = node.status.maintenanceHold ∧
    node.status.maintenanceHold ≠ .none)

/-- Held and Armed stand for a hold in effect as requested, with no reset due. -/
def SeiNode.InvitesRightly (node : SeiNode) : Prop :=
  node.invitesWork = true → node.spec.holdRequested = node.status.maintenanceHold ∧
    node.status.maintenanceHold ≠ .none ∧
    (node.status.phase = .running → dataResetPending node = false)

theorem Resolved.invites (resolved : Resolved node next) (invites : next.invitesWork = true) :
    node.spec.holdRequested = node.status.maintenanceHold ∧ node.status.maintenanceHold ≠ .none ∧
      ∀ plan, node.status.plan = some plan → plan.phase = .active → isMaintenancePlan plan = false := by
  obtain ⟨seen, spec, plan, hold, _, condition⟩ := resolved.maintenance
  have same : next.invitesWork = (resolveMaintenance seen).invitesWork := by
    unfold SeiNode.invitesWork
    rw [condition]
  have found := invites_resolveMaintenance (same.symm.trans invites)
  rwa [spec, plan, hold] at found

theorem Resolved.invitesRightly (resolved : Resolved node next)
    (unreset : node.resetsUnderHold = false) : next.InvitesRightly := by
  intro invites
  obtain ⟨agree, held, _⟩ := resolved.invites invites
  rw [resolved.spec, resolved.hold]
  refine ⟨agree, held, fun running => ?_⟩
  have generation : next.status.dataResetGeneration = node.status.dataResetGeneration := by
    rcases resolved.generation with same | ⟨stopped, _⟩
    · exact same
    · exact absurd (resolved.phase.symm.trans running) stopped
  have settled : dataResetPending node = false := by
    simpa [SeiNode.resetsUnderHold, agree, held] using unreset
  rw [← settled]
  unfold dataResetPending
  rw [resolved.spec, generation]

theorem SeiNode.InvitesRightly.kept (rightly : node.InvitesRightly) (kept : Kept node next) :
    next.InvitesRightly := by
  intro invites
  obtain ⟨agree, held, settled⟩ := rightly (kept.invitesWork ▸ invites)
  rw [kept.spec, kept.hold]
  refine ⟨agree, held, fun running => ?_⟩
  have before : node.status.phase = .running := by
    rcases kept.phase with same | ⟨terminating, _⟩
    · exact same.symm.trans running
    · rw [terminating] at running
      cases running
  rw [← settled before]
  unfold dataResetPending
  rw [kept.spec, kept.generation]

/-! ## The planning step -/

def Event.ran? : Event → Option TaskType
  | .submitted _ task _ _ => some task.type
  | .executed _ task _ _ => some task.type
  | _ => none

section

variable {ε : Type} {env : Env ε} {flow ended : Flow ε}

/-- The planning step stores nothing and calls only for the active plan of the node. -/
theorem Ending.calls (ending : Ending env platform flow ended) :
    Log.Extends (fun event => event.persisted? = none ∧ ∀ type, event.ran? = some type →
      ∃ plan, flow.ctx.node.status.plan = some plan ∧ plan.phase = .active ∧ type ∈ plan.types)
      flow.ctx.log ended.ctx.log := by
  cases ending with
  | idle => exact .refl _
  | cleared _ _ _ same =>
    rw [same.log]
    exact .refl _
  | stored _ _ _ _ _ _ _ _ _ _ _ _ _ _ is =>
    subst is
    exact .cons ⟨rfl, nofun⟩ _
  | executed _ probed same _ _ plan carried active is =>
    subst is
    rw [← same.log]
    refine (executePlan_log .seiNode .nodePlan plan probed.ctx).mono fun event from_ => ?_
    obtain ⟨done, task, rest, tasks, _, _, made⟩ := from_
    have listed : task.type ∈ plan.types := by
      unfold TaskPlan.types
      rw [← types_of_evolves tasks]
      simp
    cases made with
    | submitted | executed =>
      refine ⟨rfl, fun type ran => ⟨plan, carried, active, ?_⟩⟩
      cases ran
      exact listed
    | observed | claimCreated => exact ⟨rfl, nofun⟩

theorem Ending.invitesWork (ending : Ending env platform flow ended) :
    ended.ctx.node.invitesWork = flow.ctx.node.invitesWork := by
  suffices same : ended.ctx.node.status.maintenanceInProgress =
      flow.ctx.node.status.maintenanceInProgress by
    unfold SeiNode.invitesWork
    rw [same]
  cases ending with
  | idle => rfl
  | cleared _ _ _ same => exact same.node.maintenance.symm
  | stored _ _ _ _ _ before after same planID mode _ built _ _ is =>
    have core := Flow.sameCore_buildPlan platform planID mode before
    rw [built] at core
    subst is
    exact (same.trans core).maintenance.symm
  | executed _ probed same _ _ plan _ _ is =>
    have body := executePlan_body env platform .seiNode .nodePlan plan probed.ctx
    subst is
    exact (congrArg (fun node => node.status.maintenanceInProgress) body).trans
      same.node.maintenance.symm

theorem PlanEnd.placed {mid : SeiNode} {ran : TaskPlan} (ended : PlanEnd .seiNode plan mid ran next)
    (target : plan.targetPhase = .running)
    (failed : plan.failedPhase = .failed ∨ plan.failedPhase = .empty ∧ mid.placed) :
    (mid.placed → next.placed) ∧ (next.placed ∨ ran.phase = .active) := by
  cases ended with
  | stopped active => exact ⟨id, .inr active⟩
  | completed =>
    have placed : (completeNode .seiNode plan mid).placed := by
      unfold completeNode completePlan
      rw [target]
      exact .inl rfl
    exact ⟨fun _ => placed, .inl placed⟩
  | failed =>
    have placed : (setTargetPhase .seiNode plan.failedPhase mid).placed := by
      rcases failed with phase | ⟨phase, placed⟩
      · rw [phase]
        exact .inr (.inl rfl)
      · rw [phase]
        exact placed
    exact ⟨fun _ => placed, .inl placed⟩

/-- The hold of an executed plan changes only where the plan records it. -/
theorem Ending.hold (ending : Ending env platform flow ended) :
    ended.ctx.node.status.maintenanceHold = flow.ctx.node.status.maintenanceHold ∨
      ∃ plan, flow.ctx.node.status.plan = some plan ∧ isMaintenancePlan plan = true := by
  refine ending.recorded.hold.imp_right ?_
  rintro ⟨event, gained, origin, task, before, after, rfl, type, _⟩
  obtain ⟨plan, carried, _, listed⟩ := (ending.calls.of_gained gained).2 task.type rfl
  exact ⟨plan, carried, isMaintenancePlan_iff.mpr (type ▸ listed)⟩

structure StoredFor (node : SeiNode) (plan : TaskPlan) : Prop where
  active : plan.phase = .active
  target : plan.targetPhase = .running
  failed : plan.failedPhase = .failed ∨ plan.failedPhase = .empty ∧ node.status.phase = .running
  disturbs : plan.disturbs = true →
    (isMaintenancePlan plan = true ∨ node.status.maintenanceHold = .none) ∧
      (node.status.phase = .running ∧ dataResetPending node = true ∨
        node.spec.holdRequested ≠ node.status.maintenanceHold ∨ node.status.maintenanceHold = .none)

theorem SeiNode.HoldKept.built {before after : SeiNode} {planID : String} {mode : ModePlanner}
    (kept : node.HoldKept) (mounted : node.mountsNodeConfig = true)
    (alive : node.deletionTimestamp = none) (unfailed : node.status.phase ≠ .failed)
    (inactive : node.planActive = false) (same : SameCore (clearPlan node) before)
    (built : buildPlan platform planID mode before = (after, .ok (some plan))) :
    StoredFor node plan := by
  have core := Flow.sameCore_buildPlan platform planID mode before
  rw [built] at core
  have whole : SameCore (clearPlan node) after := same.trans core
  cases storedPlan_of_built (mountsNodeConfig_of_spec same.spec.symm mounted) built with
  | running running seen sameSeen _ static =>
    obtain ⟨active, target, failed⟩ := static.targets
    have phase : node.status.phase = .running := whole.phase.trans running
    have from_ : SameCore seen (clearPlan node) := sameSeen.trans whole.symm
    have pending : dataResetPending seen = dataResetPending node :=
      from_.congr dataResetPending fun _ => rfl
    refine ⟨active, target, .inr ⟨failed, phase⟩, fun disturbs => ?_⟩
    have found := static.disturbs disturbs
    rw [from_.spec, from_.hold, pending] at found
    exact ⟨found.1, found.2.imp_left fun due => ⟨phase, due⟩⟩
  | startup starting base started ending =>
    obtain ⟨active, target, failed⟩ := started.targets (ending.imp And.right And.right)
    have none_ : node.status.maintenanceHold = .none := by
      rcases kept.hold with none_ | (running | failed | deleting) | active
      · exact none_
      · exact absurd (whole.phase.symm.trans running) starting
      · exact absurd failed unfailed
      · rw [alive] at deleting
        cases deleting
      · rw [inactive] at active
        cases active
    exact ⟨active, target, .inl failed, fun _ => ⟨.inr none_, .inr (.inr none_)⟩⟩

theorem SeiNode.HoldKept.ending (kept : flow.ctx.node.HoldKept)
    (mounted : flow.ctx.node.mountsNodeConfig = true)
    (alive : flow.ctx.node.deletionTimestamp = none) (ending : Ending env platform flow ended) :
    ended.ctx.node.HoldKept := by
  have recorded := ending.hold
  cases ending with
  | idle => exact kept
  | cleared _ _ inactive same =>
    have plan : ended.ctx.node.status.plan = none := same.node.plan.symm
    refine ⟨fun _ carried => ?_, ?_, fun _ carried => ?_⟩
    · rw [plan] at carried
      cases carried
    · rw [← same.node.hold]
      rcases kept.hold with none_ | placed | active
      · exact .inl none_
      · exact .inr (.inl (SeiNode.placed_of_same same.node.phase.symm same.node.deletion.symm placed))
      · rw [inactive] at active
        cases active
    · rw [plan] at carried
      cases carried
  | stored _ _ unfailed _ inactive before after same planID mode plan built _ _ is =>
    have core := Flow.sameCore_buildPlan platform planID mode before
    rw [built] at core
    have whole := same.trans core
    have made := kept.built mounted alive unfailed inactive same built
    have hold : after.status.maintenanceHold = flow.ctx.node.status.maintenanceHold := whole.hold.symm
    subst is
    refine ⟨?_, .inr (.inr ?_), ?_⟩
    · rintro _ ⟨⟩
      refine ⟨made.target, made.failed.imp_right (And.imp_right fun running => .inl ?_)⟩
      have phase : after.status.phase = .running := whole.phase.symm.trans running
      simp [Flow.withCtx, storePlan, phase]
    · simp [Flow.withCtx, storePlan, SeiNode.planActive, made.active]
    · rintro _ ⟨⟩ disturbs
      exact (made.disturbs disturbs).1.imp_right hold.trans
  | executed _ probed same _ _ plan carried active is =>
    obtain ⟨mid, run, -, planEnd⟩ :=
      executePlan_end env platform .seiNode .nodePlan active probed.ctx
    have evolved : PlanEvolves plan (executePlan env platform .seiNode .nodePlan plan probed.ctx).1 :=
      executePlan_evolves .seiNode .nodePlan plan probed.ctx
    obtain ⟨target, failed⟩ := kept.ends plan carried
    have before : flow.ctx.node.placed → mid.node.placed :=
      SeiNode.placed_of_same (same.node.phase.trans run.frame.phase).symm
        (same.node.deletion.trans (run.frame.congr SeiNode.deletionTimestamp fun _ => rfl)).symm
    obtain ⟨stay, inactive⟩ := planEnd.placed target (failed.imp_right (And.imp_right before))
    subst is
    unfold Flow.executeNodePlan at recorded ⊢
    generalize executePlan env platform .seiNode .nodePlan plan probed.ctx = result at *
    obtain ⟨ran, after⟩ := result
    refine ⟨?_, .inr (inactive.imp id fun active => ?_), ?_⟩
    · rintro _ ⟨⟩
      rw [evolved.targetPhase, evolved.failedPhase]
      exact ⟨target, failed.imp_right (And.imp_right fun placed => stay (before placed))⟩
    · simpa [Flow.withCtx, Flow.mapNode, Flow.setPlan, SeiNode.planActive] using active
    · rintro _ ⟨⟩ disturbs
      obtain ⟨sameTasks, sameRecord⟩ := disturbs_of_evolves evolved
      rw [sameTasks] at disturbs
      rw [sameRecord]
      rcases recorded with same' | ⟨plan', carried', records⟩
      · rw [same']
        exact kept.disturbs plan carried disturbs
      · cases carried'.symm.trans carried
        exact .inl records

/-- A plan that disturbs was there before, or was stored where the reason invites no work. -/
theorem Ending.restless (ending : Ending env platform flow ended) (kept : flow.ctx.node.HoldKept)
    (mounted : flow.ctx.node.mountsNodeConfig = true)
    (alive : flow.ctx.node.deletionTimestamp = none) (rightly : flow.ctx.node.InvitesRightly)
    (restless : ended.ctx.node.restless = true) :
    flow.ctx.node.restless = true ∨ flow.ctx.node.invitesWork = false := by
  obtain ⟨plan, carried, active, disturbs⟩ := SeiNode.restless_iff.mp restless
  cases ending with
  | idle => exact .inl restless
  | cleared _ _ _ same =>
    rw [← same.node.plan] at carried
    cases carried
  | stored _ _ unfailed _ inactive before after same planID mode plan built _ _ is =>
    subst is
    cases carried
    refine .inr ?_
    rw [← Bool.not_eq_true]
    intro invites
    obtain ⟨agree, held, settled⟩ := rightly invites
    have made := kept.built mounted alive unfailed inactive same built
    rcases (made.disturbs disturbs).2 with ⟨running, due⟩ | differ | none_
    · rw [settled running] at due
      cases due
    · exact differ agree
    · exact held none_
  | executed _ probed same _ _ old carriedOld activeOld is =>
    subst is
    cases carried
    have evolved : PlanEvolves old (executePlan env platform .seiNode .nodePlan old probed.ctx).1 :=
      executePlan_evolves .seiNode .nodePlan old probed.ctx
    exact .inl (SeiNode.restless_iff.mpr
      ⟨old, carriedOld, activeOld, (disturbs_of_evolves evolved).1.symm.trans disturbs⟩)

/-! ## One reconcile -/

/-- What a reconcile keeps of the condition: no version that may still be read is at work while
the last reason persisted invites work, and persisting the node as it is would not change that. -/
structure Flow.Trusted (old : List Event) (read : SeiNode) (flow : Flow ε) : Prop where
  mounted : flow.ctx.node.mountsNodeConfig = true
  unoccupied : flow.ctx.node.status.adoptedWorkflow = none
  node : flow.ctx.node.HoldKept
  written : ∀ version ∈ flow.written, version.HoldKept
  memory : flow.fresh = true → ∀ version ∈ flow.ctx.node :: (flow.written ++ [read]),
    version.restless = true → flow.ctx.node.invitesWork = false
  stored : ∀ version ∈ flow.written ++ [read], version.restless = true →
    invited flow.ctx.log = false
  reason : invited flow.ctx.log =
    (flow.written.head?.map SeiNode.invitesWork).getD (invited old)
  log : Log.each keepsInvitation flow.ctx.log = true

namespace Flow.Trusted

variable {old : List Event} {read : SeiNode}

theorem still (trusted : flow.Trusted old read) (still : Still flow ended) :
    ended.Trusted old read := by
  obtain ⟨stored, same, kept, fresh, last⟩ := still.written
  have invites := still.node.invitesWork
  have now : invited ended.ctx.log =
      (stored.head?.map SeiNode.invitesWork).getD (invited flow.ctx.log) := by
    unfold invited
    rw [last]
    cases stored.head? <;> rfl
  have memory (isFresh : flow.fresh = true) : ∀ version ∈ ended.ctx.node :: (ended.written ++ [read]),
      version.restless = true → flow.ctx.node.invitesWork = false := by
    have before := trusted.memory isFresh
    rw [same, List.append_assoc]
    intro version member restless
    rcases List.mem_cons.mp member with rfl | member
    · exact before _ List.mem_cons_self (still.node.restless ▸ restless)
    · rcases List.mem_append.mp member with new | earlier
      · exact before _ List.mem_cons_self ((kept version new).restless ▸ restless)
      · exact before version (List.mem_cons_of_mem _ earlier) restless
  refine
    { mounted := mountsNodeConfig_of_spec still.node.spec trusted.mounted
      unoccupied := still.node.pointer.trans trusted.unoccupied
      node := trusted.node.kept still.node
      written := fun version member => ?_
      memory := fun isFresh version member restless => ?_
      stored := fun version member restless => ?_
      reason := ?_
      log := Log.each_extends still.log trusted.log fun _ _ _ event => ?_ }
  · rw [same] at member
    rcases List.mem_append.mp member with new | earlier
    · exact trusted.node.kept (kept version new)
    · exact trusted.written version earlier
  · rw [invites]
    exact memory (still.fresh ▸ isFresh) version member restless
  · rw [now]
    cases stored with
    | nil =>
      rw [same] at member
      exact trusted.stored version member restless
    | cons first rest =>
      show first.invitesWork = false
      rw [(kept first List.mem_cons_self).invitesWork]
      exact memory (fresh (List.cons_ne_nil _ _)) version (List.mem_cons_of_mem _ member) restless
  · rw [now, same]
    cases stored with
    | nil => exact trusted.reason
    | cons => rfl
  · cases event <;> rfl

theorem resolve (trusted : flow.Trusted old read)
    (plans : ∀ version ∈ flow.written ++ [read], version.status.plan = flow.ctx.node.status.plan) :
    (flow.resolveConditions env).Trusted old read := by
  have resolved := resolveConditions_resolved env flow
  obtain ⟨log, written, fresh, -⟩ := resolveConditions_frame env flow
  generalize flow.resolveConditions env = ended at *
  refine
    { mounted := mountsNodeConfig_of_spec resolved.spec trusted.mounted
      unoccupied := resolved.pointer.trans trusted.unoccupied
      node := trusted.node.congr resolved.plan resolved.hold
        (SeiNode.placed_of_same resolved.phase resolved.deletion)
      written := written ▸ trusted.written
      memory := fun _ version member restless => ?_
      stored := by rw [written, log]; exact trusted.stored
      reason := by rw [written, log]; exact trusted.reason
      log := by rw [log]; exact trusted.log }
  obtain ⟨plan, carried, active, disturbs⟩ := SeiNode.restless_iff.mp restless
  have same : flow.ctx.node.status.plan = some plan := by
    rw [written] at member
    rcases List.mem_cons.mp member with rfl | member
    · exact resolved.plan.symm.trans carried
    · exact (plans version member).symm.trans carried
  rw [← Bool.not_eq_true]
  intro invites
  obtain ⟨_, held, idle⟩ := resolved.invites invites
  rcases trusted.node.disturbs plan same disturbs with maintains | none_
  · rw [idle plan same active] at maintains
    cases maintains
  · exact held none_

theorem ending (trusted : flow.Trusted old read) (rightly : flow.ctx.node.InvitesRightly)
    (alive : flow.ctx.node.deletionTimestamp = none)
    (plan : flow.ctx.node.status.plan = read.status.plan)
    (ending : Ending env platform flow ended) : ended.Trusted old read := by
  obtain ⟨spec, pointer, written, fresh⟩ := ending.frame
  have calls := ending.calls
  have now : invited ended.ctx.log = invited flow.ctx.log := by
    unfold invited lastPersisted
    rw [Log.last?_extends (calls.mono fun _ call => call.1)]
  have read_ (restless : flow.ctx.node.restless = true) : read.restless = true := by
    unfold SeiNode.restless at restless ⊢
    rwa [plan] at restless
  refine
    { mounted := mountsNodeConfig_of_spec spec trusted.mounted
      unoccupied := pointer.trans trusted.unoccupied
      node := trusted.node.ending trusted.mounted alive ending
      written := written ▸ trusted.written
      memory := fun isFresh version member restless => ?_
      stored := by rw [written, now]; exact trusted.stored
      reason := by rw [written, now]; exact trusted.reason
      log := Log.each_extends calls trusted.log fun mid event grown call => ?_ }
  · have before := trusted.memory (fresh ▸ isFresh)
    rw [ending.invitesWork]
    rw [written] at member
    rcases List.mem_cons.mp member with rfl | member
    · rcases ending.restless trusted.node trusted.mounted alive rightly restless with old | quiet
      · exact before _ List.mem_cons_self old
      · exact quiet
    · exact before version (List.mem_cons_of_mem _ member) restless
  · have same : invited mid = invited flow.ctx.log := by
      unfold invited lastPersisted
      rw [Log.last?_extends (grown.mono fun _ call => call.1)]
    unfold keepsInvitation
    split
    · rfl
    next origin task node accepted _ =>
      obtain ⟨plan, carried, active, listed⟩ := call.2 task.type rfl
      rw [same]
      cases starts : startsOrWipes task.type with
      | false => rfl
      | true =>
        have restless : flow.ctx.node.restless = true := SeiNode.restless_iff.mpr
          ⟨plan, carried, active, List.any_eq_true.mpr ⟨_, listed, starts⟩⟩
        rw [trusted.stored read (by simp) (read_ restless)]
        rfl
    · rfl

end Flow.Trusted

theorem Reconciled.trusted {old : List Event} (shape : Reconciled env platform flow ended)
    (trusted : flow.Trusted old flow.ctx.node) (start : flow.written = [])
    (unreset : flow.ctx.node.resetsUnderHold = false) : ended.Trusted old flow.ctx.node := by
  cases shape with
  | outside moves => exact trusted.still (moves.still trusted.mounted trusted.unoccupied)
  | body alive ready planned ended finalizer unchanged prelude ending flush =>
    have first := finalizer.still trusted.mounted trusted.unoccupied
    have readied := trusted.still first
    have resolved := resolveConditions_resolved env ready
    have conditions : (ready.resolveConditions env).Trusted old flow.ctx.node := by
      refine readied.resolve fun version member => ?_
      obtain ⟨stored, same, kept, -⟩ := first.written
      rw [same, start, List.append_nil] at member
      rw [first.node.plan]
      rcases List.mem_append.mp member with new | read
      · exact (kept version new).plan
      · rw [List.mem_singleton.mp read]
    have second := prelude.still conditions.mounted conditions.unoccupied
    have rightly : planned.ctx.node.InvitesRightly := by
      refine (resolved.invitesRightly ?_).kept second.node
      rw [← unreset]
      unfold SeiNode.resetsUnderHold dataResetPending
      rw [first.node.spec, unchanged]
    have planning := (conditions.still second).ending rightly
      ((second.node.deletion.trans (resolved.deletion.trans first.node.deletion)).trans alive)
      (second.node.plan.trans (resolved.plan.trans first.node.plan)) ending
    exact planning.still (flush.still planning.mounted planning.unoccupied)

/-! ## Whole runs -/

structure World.Trusted (platform : Platform) (world : World ε) : Prop
    extends MountedInv platform world where
  kept : ∀ version ∈ world.versions, version.HoldKept
  stored : ∀ version ∈ world.versions, version.restless = true → invited world.log = false
  reason : invited world.log = world.latest.invitesWork
  log : Log.each keepsInvitation world.log = true

/-- The reconcile does not meet a reset requested under a hold that is requested and in effect. -/
def Action.unreset : Action → Prop
  | .reconcile read _ => read.resetsUnderHold = false
  | _ => True

namespace World.Trusted

variable {world after : World ε} {action : Action}

theorem init (initial : world.Initial) (mounted : world.Mounted) : world.Trusted platform := by
  have only : ∀ version ∈ world.versions,
      version.status.plan = none ∧ version.status.maintenanceHold = .none := by
    intro version member
    rw [World.versions, initial.older, List.mem_singleton] at member
    rw [member, initial.status]
    exact ⟨rfl, rfl⟩
  refine ⟨.init initial mounted, fun version member => ?_, fun version member restless => ?_, ?_, ?_⟩
  · obtain ⟨unplanned, none_⟩ := only version member
    refine ⟨fun plan carried => ?_, .inl none_, fun _ _ _ => .inr none_⟩
    rw [unplanned] at carried
    cases carried
  · obtain ⟨plan, carried, _⟩ := SeiNode.restless_iff.mp restless
    rw [(only version member).1] at carried
    cases carried
  · unfold invited SeiNode.invitesWork
    rw [initial.log, initial.status]
    rfl
  · rw [initial.log]
    rfl

theorem grow (trusted : world.Trusted platform) (inv : MountedInv platform after)
    (versions : after.versions = world.versions)
    (log : Log.Extends (fun event => event.persisted? = none ∧
      ∀ earlier, keepsInvitation earlier event = true) world.log after.log) :
    after.Trusted platform := by
  have same : invited after.log = invited world.log := by
    unfold invited lastPersisted
    rw [Log.last?_extends (log.mono fun _ event => event.1)]
  refine ⟨inv, versions ▸ trusted.kept, ?_, ?_, ?_⟩
  · rw [versions, same]
    exact trusted.stored
  · rw [same, (List.cons.inj versions).1]
    exact trusted.reason
  · exact Log.each_extends log trusted.log fun mid _ _ event => event.2 mid

theorem reconcile (trusted : world.Trusted platform) {read : SeiNode} {fresh : Bool}
    (move : World.Step env platform world (.reconcile read fresh) after)
    (unreset : read.resetsUnderHold = false) : after.Trusted platform := by
  have inv := trusted.toMountedInv
  have invAfter := inv.step move
  cases move with
  | reconcile _ _ _ newer stale cached upToDate flow ran versions workflows tasks claims state log =>
    obtain ⟨member, newerMember⟩ := mem_versions_of_cached cached
    have started : (world.start read fresh).Trusted world.log read := by
      refine ⟨inv.mounted read member, inv.unoccupied read member, trusted.kept read member,
        fun version none_ => absurd none_ List.not_mem_nil, fun isFresh version seen restless => ?_,
        fun version seen => ?_, rfl, trusted.log⟩
      · have latest : read = world.latest := by
          rw [upToDate isFresh] at cached
          exact (List.cons.inj cached).1.symm
        have same : version = read := by simpa [World.start, Flow.start] using seen
        show read.invitesWork = false
        rw [latest, ← trusted.reason]
        exact trusted.stored version (same ▸ member) restless
      · rw [List.mem_singleton.mp seen]
        exact trusted.stored read member
    have done : flow.Trusted world.log read := by
      rw [ran]
      have shape := Flow.reconcile_reconciled env platform (world.start read fresh)
      exact shape.trusted started rfl unreset
    have silent : fresh = false → flow.written = [] := by
      intro stale
      by_contra nonempty
      obtain ⟨version, stored⟩ := List.exists_mem_of_ne_nil _ nonempty
      have shape := inv.reconciled env member fresh
      rw [← ran] at shape
      have isFresh : fresh = true := (shape.visited rfl stored).1
      rw [stale] at isFresh
      cases isFresh
    have versionsOf {version : SeiNode} (seen : version ∈ after.versions) :
        version ∈ flow.written ++ [read] ∨ version ∈ newer := by
      rw [versions] at seen
      simp only [List.mem_append] at seen ⊢
      tauto
    refine ⟨invAfter, fun version seen => ?_, fun version seen restless => ?_, ?_, log ▸ done.log⟩
    · rcases versionsOf seen with new | old
      · rcases List.mem_append.mp new with stored | same
        · exact done.written version stored
        · exact List.mem_singleton.mp same ▸ trusted.kept read member
      · exact trusted.kept version (newerMember version old)
    · rw [log]
      rcases versionsOf seen with new | old
      · exact done.stored version new restless
      · have unwritten := silent (by
          cases fresh with
          | false => rfl
          | true => rw [upToDate rfl] at old; cases old)
        rw [done.reason, unwritten]
        exact trusted.stored version (newerMember version old) restless
    · rw [log, done.reason]
      cases written : flow.written with
      | nil =>
        rw [written] at versions
        rcases latest_of_reconcile cached upToDate (fun nonempty => absurd rfl nonempty) versions with
          same | ⟨_, none_⟩
        · rw [same]
          exact trusted.reason
        · cases none_
      | cons version rest =>
        rw [written] at versions
        rw [(List.cons.inj versions).1]
        rfl

theorem step (trusted : world.Trusted platform) (may : action.unreset)
    (move : World.Step env platform world action after) : after.Trusted platform := by
  have inv := trusted.toMountedInv.step move
  cases move with
  | edit node admitted =>
    have same : ∀ version ∈ node :: world.versions, ∃ seen ∈ world.versions,
        version.status = seen.status ∧ (seen.placed → version.placed) := by
      intro version member
      rcases List.mem_cons.mp member with rfl | old
      · refine ⟨world.latest, List.mem_cons_self, admitted.status, fun placed => ?_⟩
        rcases placed with running | failed | deleting
        · exact .inl (admitted.status ▸ running)
        · exact .inr (.inl (admitted.status ▸ failed))
        · exact .inr (.inr (by rw [admitted.deletion deleting]; exact deleting))
      · exact ⟨version, old, rfl, id⟩
    refine ⟨inv, fun version member => ?_, fun version member restless => ?_, ?_, trusted.log⟩
    · obtain ⟨seen, old, status, placed⟩ := same version member
      exact (trusted.kept seen old).congr (by rw [status]) (by rw [status]) placed
    · obtain ⟨seen, old, status, _⟩ := same version member
      refine trusted.stored seen old ?_
      unfold SeiNode.restless at restless ⊢
      rwa [status] at restless
    · show invited world.log = node.invitesWork
      rw [trusted.reason]
      unfold SeiNode.invitesWork
      rw [admitted.status]
  | reconcile _ read fresh newer stale cached upToDate flow ran versions workflows tasks claims
      state log =>
    exact trusted.reconcile (.reconcile world after read fresh newer stale cached upToDate flow
      ran versions workflows tasks claims state log) may
  | reconcileTask task stored target cached tasks written =>
    refine trusted.grow inv rfl ((task.reconcile_log env platform target _).mono fun event made => ?_)
    obtain ⟨_, _, _, _, _, _, _, _, made, _⟩ := made
    cases made <;> exact ⟨rfl, fun _ => rfl⟩
  | forceWorkflow uid => exact trusted.grow inv rfl (.cons ⟨rfl, fun _ => rfl⟩ _)
  | createTask | createWorkflow | deleteWorkflow | collectWorkflow | outside =>
    exact trusted.grow inv rfl (.refl _)

end World.Trusted

end

/-- In every run of a node that mounts its configuration, if no reconcile meets a reset requested
under a hold that is requested and in effect: whenever a task of a plan that starts seid or wipes
its data is submitted, the last reason persisted is neither Held nor Armed. -/
theorem invitation_kept_without_reset {ε : Type} (env : Env ε) (platform : Platform)
    (world : World ε)
    (reached : World.Reached env platform World.Mounted (fun _ action => action.unreset) world) :
    Log.each keepsInvitation world.log = true := by
  have trusted : world.Trusted platform :=
    Reachable.invariant (fun _ start => .init start.1 start.2)
      (fun _ _ trusted ⟨_, may, move⟩ => trusted.step may move) reached
  exact trusted.log

/-! ### A reset under a hold -/

def heldWorld : World Unit := holdingWorld.reconciled.reconciled

def resetHeldWorld : World Unit :=
  (heldWorld.afterEdit (requestReset heldWorld.latest)).reconciled.reconciled

def unheldWorld : World Unit :=
  (heldWorld.afterEdit (requestHold .none heldWorld.latest)).reconciled.reconciled

theorem reset_under_hold_breaks_invitation :
    World.Reached rolledEnv samplePlatform World.Mounted (fun _ _ => True) resetHeldWorld ∧
      Log.each keepsInvitation resetHeldWorld.log = false := by
  refine ⟨?_, by decide +kernel⟩
  have held := reached_reconciled (reached_reconciled reached_holdingWorld)
  refine reached_reconciled (reached_reconciled (held.step rolledEnv samplePlatform trivial
    (.edit heldWorld (requestReset heldWorld.latest) ⟨rfl, rfl, rfl, rfl, rfl, rfl, ?_, rfl, ?_⟩)))
  · exact fun _ => rfl
  · decide +kernel

def ReachedUnreset : World Unit → Prop :=
  World.Reached rolledEnv samplePlatform World.Mounted fun _ action => action.unreset

theorem ReachedUnreset.reconciled {world : World Unit} (reached : ReachedUnreset world)
    (unreset : world.latest.resetsUnderHold = false) : ReachedUnreset world.reconciled :=
  World.Reached.step rolledEnv samplePlatform reached
    (show Action.unreset (.reconcile world.latest true) from unreset)
    (.afterReconcile rolledEnv samplePlatform world)

theorem ReachedUnreset.requested {world : World Unit} (reached : ReachedUnreset world)
    (hold : MaintenanceHold) :
    ReachedUnreset (world.afterEdit (requestHold hold world.latest)) :=
  World.Reached.step rolledEnv samplePlatform reached
    (show Action.unreset (.edit (requestHold hold world.latest)) from trivial)
    (.edit world (requestHold hold world.latest)
      ⟨rfl, rfl, rfl, rfl, rfl, rfl, fun _ => rfl, rfl, Int.le_refl _⟩)

theorem reachedUnreset_heldWorld : ReachedUnreset heldWorld := by
  have initial : ReachedUnreset mountedWorld := .start ⟨⟨rfl, rfl, rfl, rfl, rfl, rfl, rfl⟩, rfl⟩
  have started : ReachedUnreset startedWorld :=
    (initial.reconciled (by decide +kernel)).reconciled (by decide +kernel)
  have holding := (started.requested .immediate).reconciled (by decide +kernel)
  exact (holding.reconciled (by decide +kernel)).reconciled (by decide +kernel)

/-- The release is submitted after the reason Held was persisted and withdrawn. -/
theorem release_keeps_invitation :
    invited heldWorld.log = true ∧ unheldWorld.latest.status.maintenanceHold = .none ∧
      Log.each keepsInvitation unheldWorld.log = true := by
  have released := ((reachedUnreset_heldWorld.requested .none).reconciled
    (by decide +kernel)).reconciled (by decide +kernel)
  exact ⟨by decide +kernel, by decide +kernel,
    invitation_kept_without_reset rolledEnv samplePlatform unheldWorld released⟩

end SeiController
