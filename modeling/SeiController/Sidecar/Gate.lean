import SeiController.Sidecar.EngineStep

/-!
# The start gate

The ready flag is written by the goroutines of `mark-ready` and `mark-not-ready`
after their handlers return, so a flag store belongs to the run that makes it and not
to the order of submission.  A hold is therefore only as good as the runs in flight
when it starts: once its row is Completed the flag stays false, provided no earlier
`mark-ready` still has its store to make.
-/

set_option autoImplicit false

namespace SeiController

/-- The run has not yet reached the hook that writes the ready flag. -/
def TaskRun.flagPending (run : TaskRun) : Bool :=
  match run.stage with
  | .handling | .returned _ => true
  | .executed _ | .saved => false

variable {engine after : Engine} {request : TaskRequest}

namespace Engine

/-! ## A hold over the actions after it -/

/-- No `mark-ready` has its flag store still to make. -/
def NoReleasePending (engine : Engine) : Prop :=
  ∀ run ∈ engine.runs, run.type = .markReady → run.flagPending = false

def HoldCompleted (engine : Engine) (id : TaskID) : Prop :=
  ∃ row, engine.row id = some row ∧ row.type = .markNotReady ∧ row.status = .completed

structure Holding (id : TaskID) (engine : Engine) : Prop where
  wf : engine.WellFormed
  noRelease : engine.NoReleasePending
  executed : ∀ run ∈ engine.runs, run.id = id → run.type = .markNotReady →
    run.stage = .executed none → engine.ready = false
  completed : engine.HoldCompleted id → engine.ready = false

def Action.isRelease : Action → Bool
  | .submit request _ _ => request.type == .markReady
  | .run _ => false

theorem flip_of_ne_markReady {type : TaskType} {err : Option String} {ready : Bool}
    (other : type ≠ .markReady) (closed : ready = false) : flip type err ready = false := by
  unfold flip
  split
  · contradiction
  · rfl
  · exact closed

/-- The only flag store that opens the gate is one of a pending `mark-ready`. -/
theorem NoReleasePending.flip_closed {run : TaskRun} {err : Option String}
    (noRelease : engine.NoReleasePending) (found : engine.findRun run.gen = some run)
    (stage : run.stage = .returned err) (closed : engine.ready = false) :
    flip run.type err engine.ready = false := by
  refine flip_of_ne_markReady (fun release => ?_) closed
  have settled := noRelease run (findRun_mem found) release
  simp [TaskRun.flagPending, stage] at settled

theorem NoReleasePending.setStage (wf : engine.WellFormed) {run : TaskRun} {stage : RunStage}
    (noRelease : engine.NoReleasePending) (found : engine.findRun run.gen = some run)
    (runs : after.runs = engine.setStage run.gen stage)
    (settles : run.type = .markReady → { run with stage }.flagPending = false) :
    after.NoReleasePending := by
  intro other member release
  rw [runs] at member
  rcases wf.mem_setStage found member with ⟨old, _⟩ | rfl
  · exact noRelease other old release
  · exact settles release

theorem NoReleasePending.start (noRelease : engine.NoReleasePending)
    (other : request.type ≠ .markReady) (now run : Nat) :
    (engine.start request now run).NoReleasePending := by
  intro started member release
  rcases List.mem_cons.mp member with rfl | older
  · exact absurd release other
  · exact noRelease started older release

theorem NoReleasePending.advanced (noRelease : engine.NoReleasePending) (wf : engine.WellFormed)
    (step : Advanced engine after) : after.NoReleasePending := by
  cases step with
  | idle => exact noRelease
  | handled run err found stage =>
    refine noRelease.setStage wf found rfl fun release => ?_
    have settled := noRelease run (findRun_mem found) release
    simp [TaskRun.flagPending, stage] at settled
  | flagged run err found stage | recorded run err storeErr found stage =>
    exact noRelease.setStage wf found rfl fun _ => rfl
  | cleared run found stage =>
    exact fun other member => noRelease other (List.mem_of_mem_filter member)

theorem NoReleasePending.advanced_closed (noRelease : engine.NoReleasePending)
    (step : Advanced engine after) (closed : engine.ready = false) : after.ready = false := by
  cases step with
  | idle | handled | recorded | cleared => exact closed
  | flagged run err found stage => exact noRelease.flip_closed found stage closed

theorem Submitted.ready {now : Nat} {fault : StoreFault}
    (step : Submitted engine request now fault after) : after.ready = engine.ready := by
  cases step <;> rfl

theorem Holding.start {id : TaskID} (holding : Holding id engine)
    (other : request.type ≠ .markReady) (now run : Nat) :
    Holding id (engine.start request now run) where
  wf := holding.wf.start request now run
  noRelease := holding.noRelease.start other now run
  executed := by
    intro started member sameId hold stage
    rcases List.mem_cons.mp member with rfl | older
    · cases stage
    · exact holding.executed started older sameId hold stage
  completed := by
    rintro ⟨row, found, hold, done⟩
    rw [row_start] at found
    split at found
    · cases found
      cases done
    · exact holding.completed ⟨row, found, hold, done⟩

theorem Holding.submitted {id : TaskID} (holding : Holding id engine) {now : Nat}
    {fault : StoreFault} (other : request.type ≠ .markReady)
    (step : Submitted engine request now fault after) : Holding id after := by
  cases step with
  | refused => exact holding
  | unread | first | again => exact holding.start other now _

theorem Holding.advanced {id : TaskID} (holding : Holding id engine) (step : Advanced engine after) :
    Holding id after := by
  have wf := holding.wf
  refine ⟨wf.advanced step, holding.noRelease.advanced wf step, ?_, ?_⟩
  · intro other member sameId hold stage
    cases step with
    | idle => exact holding.executed other member sameId hold stage
    | handled run err found handling =>
      rcases wf.mem_setStage found member with ⟨old, _⟩ | rfl
      · exact holding.executed other old sameId hold stage
      · cases stage
    | flagged run err found returned =>
      rcases wf.mem_setStage found member with ⟨old, _⟩ | rfl
      · exact holding.noRelease.flip_closed found returned
          (holding.executed other old sameId hold stage)
      · cases stage
        simp [flagged, flip, show run.type = .markNotReady from hold]
    | recorded run err storeErr found executed =>
      rcases wf.mem_setStage found member with ⟨old, _⟩ | rfl
      · exact holding.executed other old sameId hold stage
      · cases stage
    | cleared run found saved =>
      exact holding.executed other (List.mem_of_mem_filter member) sameId hold stage
  · rintro ⟨row, foundRow, hold, done⟩
    cases step with
    | idle => exact holding.completed ⟨row, foundRow, hold, done⟩
    | handled run err found handling =>
      exact holding.completed ⟨row, row_handled foundRow, hold, done⟩
    | flagged run err found returned =>
      exact holding.noRelease.flip_closed found returned
        (holding.completed ⟨row, foundRow, hold, done⟩)
    | recorded run err storeErr found executed =>
      rcases row_recorded engine run err storeErr id with same | ⟨sameId, result⟩
      · exact holding.completed ⟨row, same ▸ foundRow, hold, done⟩
      · -- The row is this run's own result, so the run succeeded and has stored its flag.
        cases result.symm.trans foundRow
        cases err with
        | some text => simp [resultRow] at done
        | none => exact holding.executed run (findRun_mem found) sameId hold executed
    | cleared run found saved => exact holding.completed ⟨row, foundRow, hold, done⟩

theorem Holding.act {registered : TaskType → Bool} {id : TaskID} {engine : Engine}
    (holding : Holding id engine) :
    ∀ action : Action, action.isRelease = false → Holding id (engine.act registered action)
  | .submit request now fault, other =>
    holding.submitted (by simpa [Action.isRelease] using other)
      (submit_submitted registered engine request now fault)
  | .run event, _ => holding.advanced (advance_advanced engine event)

theorem Holding.runAll (registered : TaskType → Bool) {id : TaskID} (holding : Holding id engine)
    (actions : List Action) (noRelease : ∀ action ∈ actions, action.isRelease = false) :
    Holding id (engine.runAll registered actions) :=
  List.foldlRecOn actions _ holding fun _ holds action member =>
    holds.act action (noRelease action member)

/-- A closed gate with no release in flight stays closed. -/
theorem Holding.runAll_closed (registered : TaskType → Bool) {id : TaskID}
    (holding : Holding id engine) (closed : engine.ready = false) (actions : List Action)
    (noRelease : ∀ action ∈ actions, action.isRelease = false) :
    Holding id (engine.runAll registered actions) ∧
      (engine.runAll registered actions).ready = false := by
  induction actions generalizing engine with
  | nil => exact ⟨holding, closed⟩
  | cons action rest ih =>
    rw [runAll_cons]
    refine ih (holding.act action (noRelease action List.mem_cons_self)) ?_
      fun next member => noRelease next (List.mem_cons_of_mem action member)
    cases action with
    | submit request now fault =>
      exact (submit_submitted registered engine request now fault).ready.trans closed
    | run event => exact holding.noRelease.advanced_closed (advance_advanced engine event) closed

/-- The submission starts a run: it is not answered by the row of an earlier one. -/
def StartsRun (registered : TaskType → Bool) (engine : Engine) (request : TaskRequest) (now : Nat)
    (fault : StoreFault) : Prop :=
  (engine.submit registered request now fault).1.gen = engine.gen + 1

theorem StartsRun.submit_eq {registered : TaskType → Bool} {now : Nat} {fault : StoreFault}
    (starts : StartsRun registered engine request now fault) :
    ∃ run, (engine.submit registered request now fault).1 = engine.start request now run := by
  have minted : (engine.submit registered request now fault).1.gen = engine.gen + 1 := starts
  generalize outcome : (engine.submit registered request now fault).1 = after at minted
  have step := submit_submitted registered engine request now fault
  rw [outcome] at step
  cases step with
  | refused => exact absurd minted (Nat.ne_of_lt (Nat.lt_succ_self _))
  | unread | first | again => exact ⟨_, rfl⟩

/-- A hold starts clean when no release, and no earlier run of the same task, is
still in flight. -/
theorem Holding.of_start (wf : engine.WellFormed) (now run : Nat)
    (hold : request.type = .markNotReady) (noRelease : engine.NoReleasePending)
    (alone : ∀ run ∈ engine.runs, run.id = request.id → run.recordPending = false) :
    Holding request.id (engine.start request now run) where
  wf := wf.start request now run
  noRelease := noRelease.start (by simp [hold]) now run
  executed := by
    intro started member sameId _ stage
    rcases List.mem_cons.mp member with rfl | older
    · cases stage
    · have ended := alone started older sameId
      simp [TaskRun.recordPending, stage] at ended
  completed := by
    rintro ⟨row, found, _, done⟩
    rw [row_start, if_pos rfl] at found
    cases found
    cases done

/-- Once a hold that started with no release in flight is recorded Completed, the
gate is closed and stays closed as long as no release is submitted. -/
theorem completed_hold_keeps_gate_closed (registered : TaskType → Bool)
    (rows : Keyed TaskRow.id) (before upTo later : List Action)
    (request : TaskRequest) (now : Nat) (fault : StoreFault)
    (hold : request.type = .markNotReady)
    (starts : StartsRun registered ((boot rows).runAll registered before) request now fault)
    (noRelease : ((boot rows).runAll registered before).NoReleasePending)
    (alone : ∀ run ∈ ((boot rows).runAll registered before).runs,
      run.id = request.id → run.recordPending = false)
    (held : ∀ action ∈ upTo ++ later, action.isRelease = false)
    (completed : HoldCompleted
      ((boot rows).runAll registered (before ++ .submit request now fault :: upTo)) request.id) :
    ((boot rows).runAll registered (before ++ .submit request now fault :: upTo)).ready = false ∧
      ((boot rows).runAll registered
        (before ++ .submit request now fault :: (upTo ++ later))).ready = false := by
  obtain ⟨run, started⟩ := starts.submit_eq
  have wf := (boot_wellFormed rows).runAll registered before
  have holding := Holding.of_start wf now run hold noRelease alone
  have split (actions : List Action) :
      (boot rows).runAll registered (before ++ .submit request now fault :: actions) =
        (((boot rows).runAll registered before).start request now run).runAll registered actions := by
    rw [runAll_append, runAll_cons, Engine.act, started]
  rw [split] at completed ⊢
  rw [split]
  have atCompletion := holding.runAll registered upTo
    fun action member => held action (List.mem_append_left later member)
  have closed := atCompletion.completed completed
  refine ⟨closed, ?_⟩
  rw [runAll_append]
  exact (atCompletion.runAll_closed registered closed later
    fun action member => held action (List.mem_append_right upTo member)).2

def sampleHold : TaskRequest := ⟨⟨"hold", .markNotReady, 0⟩, .markNotReady, .absent⟩

def sampleRelease : TaskRequest := ⟨⟨"init", .markReady, 0⟩, .markReady, .absent⟩

def runToEnd (gen : Nat) : List Action :=
  [.run (.handlerReturns gen none), .run (.storeFlag gen), .run (.saveResult gen false)]

/-- A release that has run to its end, then a hold that runs to its end. -/
theorem completed_hold_closes_open_gate :
    ((boot .empty).runAll (fun _ => true) (.submit sampleRelease 0 .none :: runToEnd 1)).ready =
        true ∧
      ((boot .empty).runAll (fun _ => true) ((.submit sampleRelease 0 .none :: runToEnd 1) ++
        .submit sampleHold 1 .none :: runToEnd 2)).ready = false :=
  ⟨by decide,
    (completed_hold_keeps_gate_closed (fun _ => true) .empty
      (.submit sampleRelease 0 .none :: runToEnd 1) (runToEnd 2) [] sampleHold 1 .none rfl
      rfl (by unfold NoReleasePending; decide) (by decide) (by decide)
      ⟨_, rfl, rfl, rfl⟩).1⟩

/-- The last submission among `actions` that concerns the gate. -/
def lastGateRequest (actions : List Action) : Option TaskRequest :=
  actions.reverse.findSome? fun
    | .submit request _ _ =>
      if request.type = .markReady ∨ request.type = .markNotReady then some request else none
    | .run _ => none

/-- A release whose flag store comes after the hold's opens the gate although the
hold was submitted last and is recorded Completed. -/
theorem late_release_opens_held_gate :
    ∃ actions : List Action, lastGateRequest actions = some sampleHold ∧
      HoldCompleted ((boot .empty).runAll (fun _ => true) actions) sampleHold.id ∧
      ((boot .empty).runAll (fun _ => true) actions).ready = true :=
  ⟨[.submit sampleRelease 0 .none, .run (.handlerReturns 1 none), .submit sampleHold 1 .none] ++
      runToEnd 2 ++ [.run (.storeFlag 1)],
    by decide, ⟨_, rfl, rfl, rfl⟩, by decide⟩

end Engine

end SeiController
