import SeiController.Sidecar.Engine

/-!
# What one engine step can do

The outcomes of a submission and of a goroutine step, what they do to one row, and
the generations that name the runs.
-/

set_option autoImplicit false

namespace SeiController

variable {engine : Engine}

namespace Engine

/-! ## What one step can do -/

inductive Submitted (engine : Engine) (request : TaskRequest) (now : Nat) (fault : StoreFault) :
    Engine → Prop
  | refused : Submitted engine request now fault engine
  | unread (failed : fault.get = true) :
      Submitted engine request now fault (engine.start request now 1)
  | first (absent : engine.row request.id = none) :
      Submitted engine request now fault (engine.start request now 1)
  | again (row : TaskRow) (found : engine.row request.id = some row)
      (failed : row.status = .failed) :
      Submitted engine request now fault (engine.start request now (row.run + 1))

inductive Advanced (engine : Engine) : Engine → Prop
  | idle : Advanced engine engine
  | handled (run : TaskRun) (err : Option String) (found : engine.findRun run.gen = some run)
      (stage : run.stage = .handling) : Advanced engine (engine.handled run err)
  | flagged (run : TaskRun) (err : Option String) (found : engine.findRun run.gen = some run)
      (stage : run.stage = .returned err) : Advanced engine (engine.flagged run err)
  | recorded (run : TaskRun) (err : Option String) (storeErr : Bool)
      (found : engine.findRun run.gen = some run) (stage : run.stage = .executed err) :
      Advanced engine (engine.recorded run err storeErr)
  | cleared (run : TaskRun) (found : engine.findRun run.gen = some run)
      (stage : run.stage = .saved) : Advanced engine (engine.cleared run)

theorem findRun_gen {gen : Nat} {run : TaskRun} (found : engine.findRun gen = some run) :
    run.gen = gen := by
  have hit := List.find?_some found
  simpa using hit

theorem findRun_mem {gen : Nat} {run : TaskRun} (found : engine.findRun gen = some run) :
    run ∈ engine.runs :=
  List.mem_of_find?_eq_some found

theorem persist_cases (engine : Engine) (request : TaskRequest) (now : Nat) (fault : StoreFault)
    (run : Nat) :
    (engine.persist request now fault run).1 = engine ∨
      (engine.persist request now fault run).1 = engine.start request now run := by
  unfold persist
  cases fault.save with
  | some err => exact .inl rfl
  | none => exact .inr rfl

theorem submit_submitted (registered : TaskType → Bool) (engine : Engine) (request : TaskRequest)
    (now : Nat) (fault : StoreFault) :
    Submitted engine request now fault (engine.submit registered request now fault).1 := by
  -- A save that fails is a refusal whatever the row says.
  have persisted (run : Nat)
      (starts : Submitted engine request now fault (engine.start request now run)) :
      Submitted engine request now fault (engine.persist request now fault run).1 := by
    rcases persist_cases engine request now fault run with same | started
    · rw [same]; exact .refused
    · rw [started]; exact starts
  unfold submit
  split
  · exact .refused
  · split
    next unread => exact persisted 1 (.unread unread)
    next =>
      cases found : engine.row request.id with
      | none => exact persisted 1 (.first found)
      | some row =>
        cases status : row.status with
        | running => simpa [status] using Submitted.refused
        | completed => simpa [status] using Submitted.refused
        | failed => simpa [status] using persisted (row.run + 1) (.again row found status)

theorem advance_advanced (engine : Engine) (event : RunEvent) :
    Advanced engine (engine.advance event) := by
  unfold advance
  cases found : engine.findRun event.gen with
  | none => exact .idle
  | some run =>
    have self : engine.findRun run.gen = some run := by rw [findRun_gen found, found]
    dsimp only
    split
    next err stage => exact .handled run err self stage
    next err stage => exact .flagged run err self stage
    next storeErr err stage => exact .recorded run err storeErr self stage
    next stage => exact .cleared run self stage
    next => exact .idle

/-! ## What one step does to one row -/

theorem row_start (engine : Engine) (request : TaskRequest) (now run : Nat) (id : TaskID) :
    (engine.start request now run).row id =
      if request.id = id then some (runningRow request now run) else engine.row id :=
  Keyed.get_put id (runningRow request now run) engine.rows

theorem row_handled {run : TaskRun} {err : Option String} {id : TaskID} {row : TaskRow}
    (found : (engine.handled run err).row id = some row) : engine.row id = some row := by
  unfold Engine.row handled purge at found
  split at found
  · exact (Keyed.get_filter_eq_some.mp found).1
  · exact found

theorem row_recorded (engine : Engine) (run : TaskRun) (err : Option String) (storeErr : Bool)
    (id : TaskID) :
    (engine.recorded run err storeErr).row id = engine.row id ∨
      run.id = id ∧ (engine.recorded run err storeErr).row id = some (resultRow run err) := by
  unfold Engine.row recorded savedRows
  dsimp only
  split
  · exact .inl rfl
  · rw [Keyed.get_put]
    split
    next same => exact .inr ⟨same, rfl⟩
    next => exact .inl rfl

/-! ## Generations name runs -/

structure WellFormed (engine : Engine) : Prop where
  distinct : (engine.runs.map TaskRun.gen).Nodup
  issued : ∀ run ∈ engine.runs, run.gen ≤ engine.gen

theorem boot_wellFormed (rows : Keyed TaskRow.id) : (boot rows).WellFormed where
  distinct := List.nodup_nil
  issued := by simp [boot]

theorem setStage_gens (engine : Engine) (gen : Nat) (stage : RunStage) :
    (engine.setStage gen stage).map TaskRun.gen = engine.runs.map TaskRun.gen := by
  simp only [setStage, List.map_map]
  apply List.map_congr_left
  intro run _
  by_cases same : run.gen = gen <;> simp [same]

theorem WellFormed.setStage {after : Engine} (wf : engine.WellFormed) {gen : Nat} {stage : RunStage}
    (runs : after.runs = engine.setStage gen stage) (sameGen : after.gen = engine.gen) :
    after.WellFormed where
  distinct := by rw [runs, setStage_gens]; exact wf.distinct
  issued := by
    intro run member
    have inGens : run.gen ∈ engine.runs.map TaskRun.gen := by
      rw [← setStage_gens engine gen stage, ← runs]
      exact List.mem_map_of_mem member
    obtain ⟨old, oldMember, same⟩ := List.mem_map.mp inGens
    rw [sameGen, ← same]
    exact wf.issued old oldMember

theorem WellFormed.start (wf : engine.WellFormed) (request : TaskRequest) (now run : Nat) :
    (engine.start request now run).WellFormed where
  distinct := by
    have fresh : engine.gen + 1 ∉ engine.runs.map TaskRun.gen := by
      intro issued
      obtain ⟨old, member, same⟩ := List.mem_map.mp issued
      have bound := wf.issued old member
      omega
    simpa [Engine.start] using ⟨by simpa using fresh, wf.distinct⟩
  issued := by
    intro other member
    rcases List.mem_cons.mp member with rfl | older
    · exact Nat.le_refl _
    · exact Nat.le_succ_of_le (wf.issued other older)

theorem WellFormed.submitted {after : Engine} {request : TaskRequest} {now : Nat}
    {fault : StoreFault} (wf : engine.WellFormed) (step : Submitted engine request now fault after) :
    after.WellFormed := by
  cases step with
  | refused => exact wf
  | unread | first | again => exact wf.start request now _

theorem WellFormed.advanced {after : Engine} (wf : engine.WellFormed) (step : Advanced engine after) :
    after.WellFormed := by
  cases step with
  | idle => exact wf
  | handled | flagged | recorded => exact wf.setStage rfl rfl
  | cleared run found stage =>
    exact
      { distinct := wf.distinct.sublist (List.filter_sublist.map _)
        issued := fun other member => wf.issued other (List.mem_of_mem_filter member) }

theorem WellFormed.act {registered : TaskType → Bool} {engine : Engine} (wf : engine.WellFormed) :
    ∀ action : Action, (engine.act registered action).WellFormed
  | .submit request now fault => wf.submitted (submit_submitted registered engine request now fault)
  | .run event => wf.advanced (advance_advanced engine event)

theorem WellFormed.runAll (registered : TaskType → Bool) (wf : engine.WellFormed)
    (actions : List Action) : (engine.runAll registered actions).WellFormed :=
  List.foldlRecOn actions _ wf fun _ holds action _ => holds.act action

theorem WellFormed.mem_setStage (wf : engine.WellFormed) {run other : TaskRun} {stage : RunStage}
    (found : engine.findRun run.gen = some run) (member : other ∈ engine.setStage run.gen stage) :
    other ∈ engine.runs ∧ other.gen ≠ run.gen ∨ other = { run with stage } := by
  obtain ⟨old, oldMember, rfl⟩ := List.mem_map.mp member
  by_cases same : old.gen = run.gen
  · have this : old = run := List.inj_on_of_nodup_map wf.distinct oldMember (findRun_mem found) same
    exact .inr (by simp [this])
  · exact .inl (by simpa [same] using oldMember)

end Engine

end SeiController
