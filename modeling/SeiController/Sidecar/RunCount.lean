import SeiController.Sidecar.EngineStep

/-!
# Counting a task's runs

The row of a task carries the number of its latest run.  As long as the store
answers, that number is also how often the engine started the handler, and at most
one run of the task is ever in flight.
-/

set_option autoImplicit false

namespace SeiController

namespace Engine

/-- How often the engine has started the handler of task `id`. -/
def handlerRuns (engine : Engine) (id : TaskID) : Nat :=
  engine.started.countP fun entry => entry.1 == id

def rowRun (engine : Engine) (id : TaskID) : Nat :=
  ((engine.row id).map TaskRow.run).getD 0

/-- The bookkeeping of task `id`, of type `type`, with runs numbered up to `bound`. -/
structure Counted (id : TaskID) (type : TaskType) (bound : Nat) (engine : Engine) : Prop where
  count : engine.handlerRuns id = engine.rowRun id
  bounded : engine.rowRun id ≤ bound
  typed : ∀ row, engine.row id = some row → row.type = type
  pending : ∀ run ∈ engine.runs, run.id = id → run.recordPending = true →
    run.type = type ∧ ∃ row, engine.row id = some row ∧ row.status = .running ∧ row.run = run.run
  single : ∀ run ∈ engine.runs, ∀ other ∈ engine.runs, run.id = id → other.id = id →
    run.recordPending = true → other.recordPending = true → run = other

namespace Counted

variable {id : TaskID} {type : TaskType} {bound : Nat} {engine after : Engine}

theorem mono (counted : Counted id type bound engine) {bound' : Nat} (le : bound ≤ bound') :
    Counted id type bound' engine :=
  { counted with bounded := Nat.le_trans counted.bounded le }

/-- A step that leaves the row and the count alone, and under which pending runs
were pending before. -/
theorem of_row_eq (counted : Counted id type bound engine)
    (started : after.started = engine.started) (row : after.row id = engine.row id)
    (older : ∀ run ∈ after.runs, run.recordPending = true →
      ∃ old ∈ engine.runs, old.gen = run.gen ∧ old.id = run.id ∧ old.type = run.type ∧
        old.run = run.run ∧ old.recordPending = true)
    (wf : after.WellFormed) : Counted id type bound after where
  count := by
    have same := counted.count
    simp only [handlerRuns, rowRun, started, row] at same ⊢
    exact same
  bounded := by
    have le := counted.bounded
    simp only [rowRun, row] at le ⊢
    exact le
  typed := by rw [row]; exact counted.typed
  pending := by
    intro run member sameId isPending
    obtain ⟨old, oldMember, _, oldId, oldType, oldRun, oldPending⟩ := older run member isPending
    rw [row, ← oldType, ← oldRun]
    exact counted.pending old oldMember (oldId.trans sameId) oldPending
  single := by
    intro run member other member' sameId sameId' isPending isPending'
    obtain ⟨old, oldMember, gen, oldId, _, _, oldPending⟩ := older run member isPending
    obtain ⟨old', oldMember', gen', oldId', _, _, oldPending'⟩ := older other member' isPending'
    have same := counted.single old oldMember old' oldMember' (oldId.trans sameId)
      (oldId'.trans sameId') oldPending oldPending'
    have gens : run.gen = other.gen := by rw [← gen, ← gen', same]
    exact List.inj_on_of_nodup_map wf.distinct member member' gens

theorem older_setStage (wf : engine.WellFormed) {run : TaskRun} {stage : RunStage}
    (found : engine.findRun run.gen = some run) (isPending : run.recordPending = true)
    {moved : TaskRun} (member : moved ∈ engine.setStage run.gen stage)
    (movedPending : moved.recordPending = true) :
    ∃ old ∈ engine.runs, old.gen = moved.gen ∧ old.id = moved.id ∧ old.type = moved.type ∧
      old.run = moved.run ∧ old.recordPending = true := by
  rcases wf.mem_setStage found member with ⟨old, _⟩ | rfl
  · exact ⟨moved, old, rfl, rfl, rfl, rfl, movedPending⟩
  · exact ⟨run, findRun_mem found, rfl, rfl, rfl, rfl, isPending⟩

theorem row_handled_eq (counted : Counted id type bound engine) (other : type ≠ .markReady)
    (run : TaskRun) (err : Option String) :
    (engine.handled run err).row id = engine.row id := by
  unfold Engine.row handled purge
  dsimp only
  split
  · rw [Keyed.get_filter]
    cases found : engine.rows.get id with
    | none => rfl
    | some row =>
      have typed := counted.typed row found
      simp [typed, other]
  · rfl

theorem recorded (counted : Counted id type bound engine) (wf : engine.WellFormed) {run : TaskRun}
    {err : Option String} (storeErr : Bool) (found : engine.findRun run.gen = some run)
    (stage : run.stage = .executed err) :
    Counted id type bound (engine.recorded run err storeErr) := by
  have isPending : run.recordPending = true := by simp [TaskRun.recordPending, stage]
  have wf' : (engine.recorded run err storeErr).WellFormed := wf.setStage rfl rfl
  rcases row_recorded engine run err storeErr id with same | ⟨sameId, result⟩
  · exact counted.of_row_eq rfl same
      (fun _ member pending => older_setStage wf found isPending member pending) wf'
  · -- The row of the run in flight: its result has the row's own number.
    obtain ⟨typed, row, rowFound, _, number⟩ :=
      counted.pending run (findRun_mem found) sameId isPending
    have settled : ∀ moved ∈ (engine.recorded run err storeErr).runs, moved.id = id →
        moved.recordPending = false := by
      intro moved member movedId
      rcases wf.mem_setStage found member with ⟨old, different⟩ | rfl
      · by_contra isOpen
        have open_ : moved.recordPending = true := by simpa using isOpen
        have equal := counted.single moved old run (findRun_mem found) movedId sameId open_ isPending
        exact different (by rw [equal])
      · rfl
    have sameRun : (engine.recorded run err storeErr).rowRun id = engine.rowRun id := by
      simp [rowRun, result, rowFound, resultRow, number]
    exact
      { count := by rw [sameRun]; exact counted.count
        bounded := by rw [sameRun]; exact counted.bounded
        typed := by
          intro row' found'
          cases result.symm.trans found'
          exact typed
        pending := by
          intro moved member movedId open_
          simp [settled moved member movedId] at open_
        single := by
          intro moved member _ _ movedId _ open_
          simp [settled moved member movedId] at open_ }

theorem advanced (counted : Counted id type bound engine) (wf : engine.WellFormed)
    (other : type ≠ .markReady) (step : Advanced engine after) :
    Counted id type bound after := by
  have wf' := wf.advanced step
  cases step with
  | idle => exact counted
  | handled run err found stage =>
    have isPending : run.recordPending = true := by simp [TaskRun.recordPending, stage]
    exact counted.of_row_eq rfl (counted.row_handled_eq other run err)
      (fun _ member pending => older_setStage wf found isPending member pending) wf'
  | flagged run err found stage =>
    have isPending : run.recordPending = true := by simp [TaskRun.recordPending, stage]
    exact counted.of_row_eq rfl rfl
      (fun _ member pending => older_setStage wf found isPending member pending) wf'
  | recorded run err storeErr found stage => exact counted.recorded wf storeErr found stage
  | cleared run found stage =>
    exact counted.of_row_eq rfl rfl
      (fun kept member pending =>
        ⟨kept, List.mem_of_mem_filter member, rfl, rfl, rfl, rfl, pending⟩) wf'

theorem start_other (counted : Counted id type bound engine)
    {request : TaskRequest} (different : request.id ≠ id) (now run : Nat) :
    Counted id type bound (engine.start request now run) := by
  have row : (engine.start request now run).row id = engine.row id := by
    rw [row_start, if_neg different]
  have sameRun : (engine.start request now run).rowRun id = engine.rowRun id := by
    simp only [rowRun, row]
  have sameCount : (engine.start request now run).handlerRuns id = engine.handlerRuns id := by
    simp [handlerRuns, start, different]
  have older : ∀ live ∈ (engine.start request now run).runs, live.id = id → live ∈ engine.runs := by
    intro live member sameId
    rcases List.mem_cons.mp member with rfl | old
    · exact absurd sameId different
    · exact old
  exact
    { count := by rw [sameRun, sameCount]; exact counted.count
      bounded := by rw [sameRun]; exact counted.bounded
      typed := by rw [row]; exact counted.typed
      pending := by
        intro live member sameId open_
        rw [row]
        exact counted.pending live (older live member sameId) sameId open_
      single := by
        intro live member live' member' sameId sameId'
        exact counted.single live (older live member sameId) live' (older live' member' sameId')
          sameId sameId' }

theorem start_self (counted : Counted id type bound engine) {request : TaskRequest}
    (sameId : request.id = id) (sameType : request.type = type) (now : Nat) {number : Nat}
    (next : number = engine.rowRun id + 1)
    (idle : ∀ row, engine.row id = some row → row.status ≠ .running) (budget : number ≤ bound) :
    Counted id type bound (engine.start request now number) := by
  have row : (engine.start request now number).row id = some (runningRow request now number) := by
    rw [row_start, if_pos sameId]
  have latest : (engine.start request now number).rowRun id = number := by
    simp [rowRun, row, runningRow]
  have quiet : ∀ run ∈ engine.runs, run.id = id → run.recordPending = false := by
    intro run member runId
    by_contra isOpen
    obtain ⟨_, found, foundRow, running, _⟩ :=
      counted.pending run member runId (by simpa using isOpen)
    exact idle found foundRow running
  exact
    { count := by
        have before := counted.count
        rw [latest, next, ← before]
        simp [handlerRuns, start, sameId]
      bounded := by rw [latest]; exact budget
      typed := by
        intro found foundRow
        cases row.symm.trans foundRow
        exact sameType
      pending := by
        intro live member liveId open_
        rcases List.mem_cons.mp member with rfl | old
        · exact ⟨sameType, _, row, rfl, rfl⟩
        · simp [quiet live old liveId] at open_
      single := by
        intro live member live' member' liveId liveId' open_ open'
        rcases List.mem_cons.mp member with rfl | old
        · rcases List.mem_cons.mp member' with rfl | old'
          · rfl
          · simp [quiet live' old' liveId'] at open'
        · simp [quiet live old liveId] at open_ }

theorem submitted (counted : Counted id type bound engine)
    {request : TaskRequest} {now : Nat} {fault : StoreFault}
    (own : request.id = id → request.type = type ∧ fault.get = false ∧ 1 ≤ bound ∧
      ∀ row, engine.row id = some row → row.status = .failed → row.run < bound)
    (step : Submitted engine request now fault after) : Counted id type bound after := by
  by_cases sameId : request.id = id
  · obtain ⟨sameType, answered, room, spent⟩ := own sameId
    cases step with
    | refused => exact counted
    | unread failed =>
      rw [answered] at failed
      cases failed
    | first absent =>
      have none_ : engine.row id = none := sameId ▸ absent
      have zero : engine.rowRun id = 0 := by simp [rowRun, none_]
      exact counted.start_self sameId sameType now (by omega) (by simp [none_]) room
    | again row found failed =>
      have found' : engine.row id = some row := sameId ▸ found
      have number : engine.rowRun id = row.run := by simp [rowRun, found']
      have budget := spent row found' failed
      refine counted.start_self sameId sameType now (by omega) ?_ budget
      intro other foundOther running
      cases found'.symm.trans foundOther
      rw [failed] at running
      cases running
  · cases step with
    | refused => exact counted
    | unread | first | again => exact counted.start_other sameId now _

end Counted

end Engine

end SeiController
