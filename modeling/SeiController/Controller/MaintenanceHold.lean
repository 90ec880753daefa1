import SeiController.Controller.DataReset

/-!
# The maintenance hold over whole runs

While a hold is requested on a Running node, the start guard and the builders leave
`start-seid-once` under AfterExit as the only way the start gate opens, and the hold in
effect moves only when its record runs behind its plan.
-/

set_option autoImplicit false

namespace SeiController

def opensGate (type : TaskType) : Bool :=
  ((sidecarRequest type).map fun request => decide (request.1 = .markReady)).getD false

theorem opensGate_cases {type : TaskType} (opens : opensGate type = true) :
    type = .markReady ∨ type = .startSeidOnce := by
  cases type with
  | markReady => exact .inl rfl
  | startSeidOnce => exact .inr rfl
  | _ => cases opens

def Action.object : Action → Option SeiNode
  | .reconcile read _ => some read
  | .reconcileTask _ (.ok target) => some target
  | _ => none

variable {platform : Platform}

/-! ## Starts under a requested hold -/

variable {node read : SeiNode}

theorem start_under_hold {type : TaskType} (passes : GuardPasses type node)
    (opens : opensGate type = true) (running : node.status.phase = .running)
    (held : node.spec.holdRequested ≠ .none) :
    type = .startSeidOnce ∧ node.spec.holdRequested = .afterExit ∧ dataResetPending node = false := by
  rcases opensGate_cases opens with rfl | rfl
  · obtain ⟨_, free | stopped⟩ := (startBlocked_eq_none node).mp (passes .startBlocked rfl)
    · exact absurd free held
    · exact absurd running stopped
  · obtain ⟨settled, afterExit⟩ := (startOnceBlocked_eq_none node).mp (passes .startOnceBlocked rfl)
    exact ⟨rfl, afterExit, settled⟩

/-- What a submission of a reconcile that worked on `read` says of the node it was made for. -/
theorem start_of_made {seen : SeiNode} {origin at_ : Origin} {task current : PlannedTask}
    {accepted : Bool} (spec : seen.spec = read.spec) (phase : seen.status.phase = read.status.phase)
    (on : EventOn seen (.submitted origin task node accepted))
    (made : MadeBy platform at_ current (.submitted origin task node accepted))
    (opens : opensGate task.type = true) (running : read.status.phase = .running)
    (held : read.spec.holdRequested ≠ .none) :
    task.type = .startSeidOnce ∧ read.spec.holdRequested = .afterExit ∧
      dataResetPending node = false := by
  have frame : SameFrame seen node := on
  cases made with
  | submitted _ _ _ _ _ passes =>
    have nodeSpec : node.spec = read.spec := frame.spec.symm.trans spec
    have nodePhase : node.status.phase = .running := (frame.phase.symm.trans phase).trans running
    rw [← nodeSpec] at held ⊢
    exact start_under_hold passes opens nodePhase held

theorem NodeEvent.start {origin : Origin} {task : PlannedTask} {accepted : Bool}
    (event : NodeEvent platform read (.submitted origin task node accepted))
    (opens : opensGate task.type = true) (running : read.status.phase = .running)
    (held : read.spec.holdRequested ≠ .none) :
    task.type = .startSeidOnce ∧ read.spec.holdRequested = .afterExit ∧
      dataResetPending node = false := by
  cases event with
  | quiet quiet => cases quiet
  | driven seen spec phase plan _ _ on from_ =>
    obtain ⟨_, _, _, _, _, _, made⟩ := from_
    exact start_of_made spec phase on made opens running held

theorem TaskEvent.start {cr : SeiNodeTask} {origin : Origin} {task : PlannedTask} {accepted : Bool}
    (event : TaskEvent platform cr read (.submitted origin task node accepted))
    (opens : opensGate task.type = true) (running : read.status.phase = .running)
    (held : read.spec.holdRequested ≠ .none) :
    task.type = .startSeidOnce ∧ read.spec.holdRequested = .afterExit ∧
      dataResetPending node = false := by
  obtain ⟨on, _, _, _, _, _, made, _⟩ := event
  exact start_of_made rfl rfl on made opens running held

/-- A plan stored for a Running node with a hold requested carries no mark-ready. -/
theorem NodeEvent.stored_gate {plan : TaskPlan}
    (event : NodeEvent platform read (.stored node plan)) (running : read.status.phase = .running)
    (held : read.spec.holdRequested ≠ .none) : .markReady ∉ plan.types := by
  cases event with
  | quiet quiet => cases quiet
  | driven _ _ _ _ _ _ _ from_ =>
    obtain ⟨_, _, _, _, _, _, made⟩ := from_
    cases made
  | stored _ _ spec phase stored =>
    cases stored with
    | running _ before same planID built =>
      exact built.no_markReady (by rw [same.spec, spec]; exact held)
    | startup starting => exact absurd (phase.trans running) starting

theorem TaskEvent.not_stored {cr : SeiNodeTask} {plan : TaskPlan}
    (event : TaskEvent platform cr read (.stored node plan)) : False := by
  obtain ⟨_, _, _, _, _, _, made, _⟩ := event
  cases made

/-! ## The record of the hold -/

/-- Since `old`, `record-maintenance-hold` ran with every earlier task of its plan Complete. -/
def RecordedHold (old new : List Event) (value : MaintenanceHold) : Prop :=
  ∃ plan task before after done rest,
    Log.Gained old new (.executed (.nodePlan plan) task before after) ∧
    task.type = .recordMaintenanceHold ∧ value = task.params.hold ∧
    plan.tasks = done ++ task :: rest ∧ ∀ earlier ∈ done, earlier.status = .complete

theorem taskType_ne_hold (kind : SeiNodeTaskKind) :
    SeiNodeTask.taskType kind ≠ some .recordMaintenanceHold := by
  cases kind <;> simp [SeiNodeTask.taskType]

section

variable {ε : Type} {world next : World ε} {env : Env ε} {action : Action}

theorem MountedInv.recordedHold (inv : MountedInv platform world) {old : List Event}
    {value : MaintenanceHold} {event : Event} (gained : Log.Gained old world.log event)
    (ran : RanTask .recordMaintenanceHold (fun task => value = task.params.hold) event) :
    RecordedHold old world.log value := by
  obtain ⟨origin, task, before, after, rfl, type, same⟩ := ran
  cases inv.events _ gained.mem with
  | quiet quiet => cases quiet
  | driven _ _ _ plan planned from_ =>
    obtain ⟨done, current, rest, tasks, passed, _, made⟩ := from_
    cases made with
    | executed => exact ⟨_, task, before, after, done, rest, gained, type, same, rfl, passed⟩
  | task cr target _ made =>
    obtain ⟨_, execution, type', params, _, kind, made, _⟩ := made
    cases made with
    | executed => exact absurd (kind.trans (congrArg some type)) (taskType_ne_hold cr.kind)

theorem MountedInv.hold_step (inv : MountedInv platform world)
    (move : World.Step env platform world action next)
    (changed : next.latest.status.maintenanceHold ≠ world.latest.status.maintenanceHold) :
    RecordedHold world.log next.log next.latest.status.maintenanceHold := by
  rcases inv.latest_step move with same | ⟨flow, log, visited⟩
  · rw [same] at changed
    exact absurd rfl changed
  · rcases visited.hold with same | ⟨event, gained, ran⟩
    · exact absurd same changed
    · rw [log] at gained
      exact (inv.step move).recordedHold gained ran

theorem MountedInv.object_step (inv : MountedInv platform world)
    (move : World.Step env platform world action next) (object : action.object = some read)
    {event : Event} (gained : Log.Gained world.log next.log event) :
    NodeEvent platform read event ∨ ∃ cr, TaskEvent platform cr read event := by
  cases move with
  | reconcile _ seen fresh newer stale cached upToDate flow ran versions workflows tasks claims
      state log =>
      cases object
      have member := (mem_versions_of_cached cached).1
      have grown := (inv.reconciled env member fresh).nodeEvents (inv.mounted read member)
      rw [← ran, ← log] at grown
      exact .inl (grown.of_gained gained)
  | reconcileTask task stored target cached tasks written =>
    cases target with
    | error err => cases object
    | ok target =>
      cases object
      have grown := task.reconcile_log env platform (.ok read)
        { node := world.latest, claims := world.claims, env := world.env, log := world.log }
      obtain ⟨node, same, event⟩ := grown.of_gained gained
      cases same
      exact .inr ⟨task, event⟩
  | _ => cases object

end

/-! ## The hold over runs -/

/-- In every run of a node that mounts its configuration: a reconcile of either controller that
works on a Running node with a hold requested opens the start gate only by `start-seid-once`,
under AfterExit and with no reset pending, and stores no plan with mark-ready; and the hold in
effect changes only when `record-maintenance-hold` runs behind its plan. -/
theorem requested_hold_keeps_gate {ε : Type} (env : Env ε) (platform : Platform) (world : World ε)
    (reached : World.Reached env platform World.Mounted (fun _ _ => True) world) (action : Action)
    (next : World ε) (move : World.Step env platform world action next) :
    (∀ read, action.object = some read → read.status.phase = .running →
      read.spec.holdRequested ≠ .none →
      (∀ origin task node accepted,
        Log.Gained world.log next.log (.submitted origin task node accepted) →
        opensGate task.type = true →
        task.type = .startSeidOnce ∧ read.spec.holdRequested = .afterExit ∧
          dataResetPending node = false) ∧
      ∀ node plan, Log.Gained world.log next.log (.stored node plan) → .markReady ∉ plan.types) ∧
    (next.latest.status.maintenanceHold ≠ world.latest.status.maintenanceHold →
      RecordedHold world.log next.log next.latest.status.maintenanceHold) := by
  have inv := reached.mountedInv
  refine ⟨fun read object running held => ⟨?_, ?_⟩, inv.hold_step move⟩
  · intro origin task node accepted gained opens
    rcases inv.object_step move object gained with event | ⟨cr, event⟩
    · exact event.start opens running held
    · exact event.start opens running held
  · intro node plan gained
    rcases inv.object_step move object gained with event | ⟨cr, event⟩
    · exact event.stored_gate running held
    · exact event.not_stored.elim

def requestHold (hold : MaintenanceHold) (node : SeiNode) : SeiNode :=
  { node with spec := { node.spec with maintenance := some hold } }

def holdingWorld : World Unit :=
  (startedWorld.afterEdit (requestHold .immediate startedWorld.latest)).reconciled

theorem reached_holdingWorld :
    World.Reached rolledEnv samplePlatform World.Mounted (fun _ _ => True) holdingWorld := by
  refine reached_reconciled (reached_startedWorld.step rolledEnv samplePlatform trivial
    (.edit startedWorld (requestHold .immediate startedWorld.latest)
      ⟨rfl, rfl, rfl, rfl, rfl, rfl, ?_, rfl, ?_⟩))
  · exact fun _ => rfl
  · exact Int.le_refl _

theorem sample_run_records_hold :
    holdingWorld.latest.status.phase = .running ∧
      holdingWorld.latest.spec.holdRequested = .immediate ∧
      holdingWorld.latest.status.maintenanceHold = .none ∧
      RecordedHold holdingWorld.log holdingWorld.reconciled.log .immediate := by
  have before : holdingWorld.latest.status.maintenanceHold = .none := by decide +kernel
  have after : holdingWorld.reconciled.latest.status.maintenanceHold = .immediate := by
    decide +kernel
  have recorded := (requested_hold_keeps_gate rolledEnv samplePlatform holdingWorld
    reached_holdingWorld _ holdingWorld.reconciled
    (.afterReconcile rolledEnv samplePlatform holdingWorld)).2
  rw [before, after] at recorded
  exact ⟨by decide +kernel, by decide +kernel, before, recorded (by decide)⟩

end SeiController
