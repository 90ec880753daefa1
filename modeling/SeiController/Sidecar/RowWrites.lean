import SeiController.Sidecar.TaskLife

/-!
# Who writes a task's row

A run that was told to stop before its handler returned leaves the store untouched,
unless its handler succeeded: a success is always persisted.  So between a deletion and
the next submission such a run can bring the row back only as completed, and it can
overwrite the row of a newer registration only so.
-/

set_option autoImplicit false

namespace SeiController

def LifeRow.Success (row : LifeRow) : Prop :=
  row.status = .completed ∧ row.error = none

namespace TaskLife

def written : LifeEvent → Option LifeRow
  | .submitted run => some (runningRow run)
  | .deleted _ => none
  | .saved _ row _ => some row

/-- A run that was stopped before its handler returned goes on to save only a success. -/
def Stopped (run : LifeRun) : Prop :=
  match run.stage with
  | .handling => True
  | .returned _ => run.stopped = true → run.cancelled = true
  | .saving err => run.stopped = true → err = none
  | .clearing => True

structure WriteInv (life : TaskLife) : Prop where
  stopped : ∀ run ∈ life.runs, Stopped run
  saved : ∀ gen (row : LifeRow), .saved gen row true ∈ life.log → row.Success
  row : ∀ row, life.row = some row →
    life.log = [] ∨ ∃ event rest, life.log = event :: rest ∧ written event = some row

namespace WriteInv

variable {life next : TaskLife}

theorem started (started : life.Started) : WriteInv life := by
  obtain ⟨-, -, -, log, ⟨-, -, runs⟩ | ⟨row, -, -, -, -, runs⟩⟩ := started
  · exact ⟨by simp [runs], by simp [log], fun _ _ => .inl log⟩
  · exact ⟨by simp [runs, Stopped], by simp [log], fun _ _ => .inl log⟩

theorem unwritten (inv : WriteInv life) (runs : ∀ run ∈ next.runs, Stopped run)
    (row : next.row = life.row ∨ next.row = none) (log : next.log = life.log) : WriteInv next where
  stopped := runs
  saved := by
    rw [log]
    exact inv.saved
  row found stored := by
    rw [log]
    rcases row with same | gone
    · exact inv.row found (same.symm.trans stored)
    · rw [gone] at stored
      cases stored

theorem write (inv : WriteInv life) {event : LifeEvent} (runs : ∀ run ∈ next.runs, Stopped run)
    (row : next.row = written event) (log : next.log = event :: life.log)
    (success : ∀ gen (row : LifeRow), event = .saved gen row true → row.Success) : WriteInv next where
  stopped := runs
  saved gen found member := by
    rw [log] at member
    rcases List.mem_cons.mp member with same | member
    · exact success gen found same.symm
    · exact inv.saved gen found member
  row found stored := .inr ⟨event, life.log, log, row.symm.trans stored⟩

theorem setRun (inv : WriteInv life) (gen : Nat) {f : LifeRun → LifeRun}
    (stopped : ∀ run ∈ life.runs, run.gen = gen → Stopped run → Stopped (f run)) :
    ∀ run ∈ setRun gen f life.runs, Stopped run := by
  intro run member
  obtain ⟨old, inside, rfl⟩ := List.mem_map.mp member
  split
  next same => exact stopped old inside same (inv.stopped old inside)
  · exact inv.stopped old inside

theorem stopped_cancelled {run : LifeRun} (stopped : Stopped run) :
    Stopped { run with cancelled := true } := by
  unfold Stopped at stopped ⊢
  cases stage : run.stage with
  | handling => trivial
  | returned err => exact fun _ => rfl
  | saving err =>
    rw [stage] at stopped
    exact stopped
  | clearing => trivial

theorem stopped_checked {run : LifeRun} (stopped : Stopped run) : Stopped (checkCancelled run) := by
  unfold checkCancelled
  split
  next failure returned =>
    unfold Stopped at stopped
    rw [returned] at stopped
    split
    · trivial
    next uncancelled =>
      intro wasStopped
      simp [stopped wasStopped] at uncancelled
  · exact fun _ => rfl
  · exact stopped

theorem stopped_lookUp (inv : WriteInv life) : ∀ run ∈ life.lookUp.runs, Stopped run := by
  unfold lookUp
  cases life.entry with
  | none => exact inv.stopped
  | some gen => exact inv.setRun gen fun run _ _ stopped => stopped_cancelled stopped

theorem resultRow_success {run : LifeRun} {err : Option HandlerError} (saving : run.stage = .saving err)
    (stopped : Stopped run) (wasStopped : run.stopped = true) : (resultRow run err).Success := by
  unfold Stopped at stopped
  rw [saving] at stopped
  rw [stopped wasStopped]
  exact ⟨rfl, rfl⟩

theorem submitSaved (inv : WriteInv life) (run : Nat) (outcome : StoreOutcome) :
    WriteInv (life.submitSave run outcome) := by
  match outcome with
  | .ok => exact inv.write inv.stopped rfl rfl (by intro gen row never; cases never)
  | .failed true => exact inv.write inv.stopped rfl rfl (by intro gen row never; cases never)
  | .failed false => exact inv.unwritten inv.stopped (.inl rfl) rfl

theorem deleted (inv : WriteInv life) (removal : Removal) (outcome : StoreOutcome) :
    WriteInv (life.delete removal outcome) := by
  match outcome with
  | .ok => exact inv.write inv.stopped rfl rfl (by intro gen row never; cases never)
  | .failed true => exact inv.unwritten inv.stopped (.inr rfl) rfl
  | .failed false => exact inv.unwritten inv.stopped (.inl rfl) rfl

theorem resultSaved (inv : WriteInv life) {run : LifeRun} (member : run ∈ life.runs)
    {err : Option HandlerError} (saving : run.stage = .saving err) (outcome : StoreOutcome) :
    WriteInv (life.saveResult run err outcome) := by
  have cleared : ∀ other ∈ TaskLife.setRun run.gen (fun run => { run with stage := .clearing }) life.runs,
      Stopped other := inv.setRun run.gen fun _ _ _ _ => trivial
  unfold saveResult
  dsimp only
  split
  · refine inv.write cleared rfl rfl ?_
    intro gen row same
    obtain ⟨-, rfl, wasStopped⟩ := LifeEvent.saved.inj same
    exact resultRow_success saving (inv.stopped run member) wasStopped
  · exact inv.unwritten cleared (.inl rfl) rfl

theorem step (inv : WriteInv life) {action : LifeAction} (moved : life.step action = some next) :
    WriteInv next := by
  cases action with
  | submit =>
    simp only [TaskLife.step, Option.ite_none_right_eq_some, Option.some.injEq] at moved
    obtain ⟨-, rfl⟩ := moved
    exact inv.unwritten inv.stopped (.inl rfl) rfl
  | submitRead fault =>
    simp only [TaskLife.step, Option.ite_none_right_eq_some, Option.some.injEq] at moved
    obtain ⟨-, rfl⟩ := moved
    exact inv.unwritten inv.stopped (.inl rfl) rfl
  | submitSave outcome =>
    simp only [TaskLife.step] at moved
    split at moved
    · cases moved
      exact inv.submitSaved _ outcome
    · cases moved
  | register =>
    simp only [TaskLife.step] at moved
    split at moved
    · cases moved
      refine inv.unwritten ?_ (.inl rfl) rfl
      intro run member
      rcases List.mem_cons.mp member with rfl | inside
      · trivial
      · exact inv.stopped run inside
    · cases moved
  | remove =>
    simp only [TaskLife.step, Option.ite_none_right_eq_some, Option.some.injEq] at moved
    obtain ⟨-, rfl⟩ := moved
    exact inv.unwritten inv.stopped_lookUp (.inl rfl) rfl
  | delete removal outcome =>
    simp only [TaskLife.step, Option.ite_none_right_eq_some, Option.some.injEq] at moved
    obtain ⟨-, rfl⟩ := moved
    exact inv.deleted removal outcome
  | unregister removal =>
    simp only [TaskLife.step, Option.ite_none_right_eq_some, Option.some.injEq] at moved
    obtain ⟨-, rfl⟩ := moved
    exact inv.unwritten inv.stopped (.inl rfl) rfl
  | handlerReturns gen err =>
    simp only [TaskLife.step] at moved
    split at moved
    · simp only [Option.ite_none_right_eq_some, Option.some.injEq] at moved
      obtain ⟨-, rfl⟩ := moved
      exact inv.unwritten (inv.setRun gen fun _ _ _ _ => id) (.inl rfl) rfl
    · cases moved
  | checkCancelled gen =>
    simp only [TaskLife.step] at moved
    split at moved
    · split at moved
      · cases moved
        exact inv.unwritten (inv.setRun gen fun _ _ _ stopped => stopped_checked stopped) (.inl rfl) rfl
      · cases moved
    · cases moved
  | saveResult gen outcome =>
    simp only [TaskLife.step] at moved
    split at moved
    next run found =>
      split at moved
      next err saving =>
        cases moved
        exact inv.resultSaved (List.mem_of_find?_eq_some found) saving outcome
      · cases moved
    · cases moved
  | clearCancel gen =>
    simp only [TaskLife.step] at moved
    split at moved
    · simp only [Option.ite_none_right_eq_some, Option.some.injEq] at moved
      obtain ⟨-, rfl⟩ := moved
      exact inv.unwritten (fun run member => inv.stopped run (List.mem_of_mem_filter member))
        (.inl rfl) rfl
    · cases moved

end WriteInv

/-- In every interleaving, a run that was cancelled before its handler returned writes the
row only as completed, whether the row was deleted or belongs to a newer registration by
then; and a row found after a deletion and before the next submission was saved by a run. -/
theorem stopped_run_saves_only_success {life : TaskLife} (reached : life.Reached fun _ _ => True) :
    (∀ later found earlier (row : LifeRow), life.log = later ++ .deleted found :: earlier →
      (∀ run, .submitted run ∉ later) → life.row = some row →
      ∃ gen stopped, .saved gen row stopped ∈ later ∧ (stopped = true → row.Success)) ∧
    ∀ gen (row : LifeRow), .saved gen row true ∈ life.log → row.Success := by
  have inv : WriteInv life :=
    Reachable.invariant (fun _ started => .started started)
      (fun _ _ inv ⟨_, _, moved⟩ => inv.step moved) reached
  refine ⟨?_, inv.saved⟩
  intro later found earlier row log unsubmitted stored
  rcases inv.row row stored with empty | ⟨event, rest, newest, wrote⟩
  · rw [empty] at log
    exact absurd log.symm (List.append_ne_nil_of_right_ne_nil _ (List.cons_ne_nil _ _))
  · cases later with
    | nil =>
      obtain ⟨rfl, -⟩ := List.cons.inj (newest.symm.trans log)
      cases wrote
    | cons first later =>
      obtain ⟨rfl, -⟩ := List.cons.inj (newest.symm.trans log)
      cases event with
      | submitted run => exact absurd (List.mem_cons_self ..) (unsubmitted run)
      | deleted found => cases wrote
      | saved gen saved stopped =>
        obtain rfl : saved = row := Option.some.inj wrote
        refine ⟨gen, stopped, List.mem_cons_self .., ?_⟩
        rintro rfl
        exact inv.saved gen saved (log ▸ List.mem_append_left _ (List.mem_cons_self ..))

/-- A task that is removed while its handler runs, and whose handler succeeds. -/
def removedThenSucceeds : List LifeAction :=
  [.submit, .submitRead false, .submitSave .ok, .register, .remove,
    .delete ⟨some 1, .deleting, 1⟩ .ok, .unregister ⟨some 1, .unregistering, 1⟩,
    .handlerReturns 1 none, .checkCancelled 1, .saveResult 1 .ok]

theorem removed_then_succeeds :
    ∃ life : TaskLife, life.Reached (fun _ _ => True) ∧ life.removals = [] ∧
      life.row = some ⟨.completed, 1, none⟩ ∧
      life.log = [.saved 1 ⟨.completed, 1, none⟩ true, .deleted true, .submitted 1] := by
  have started : Started ⟨none, none, 0, .idle, [], [], 0, []⟩ :=
    ⟨rfl, rfl, rfl, rfl, .inl ⟨rfl, rfl, rfl⟩⟩
  refine ⟨_, Reached.play (fun _ _ => true) (.start started) (fun _ _ _ => trivial)
    removedThenSucceeds rfl, ?_⟩
  decide

/-- The removal has returned, nothing was submitted since, and the row is back. -/
theorem success_after_removal_restores_row :
    ∃ life : TaskLife, life.Reached (fun _ _ => True) ∧ life.removals = [] ∧ life.row ≠ none ∧
      ∃ later earlier, life.log = later ++ .deleted true :: earlier ∧ ∀ run, .submitted run ∉ later := by
  obtain ⟨life, reached, returned, row, log⟩ := removed_then_succeeds
  refine ⟨life, reached, returned, ?_, [.saved 1 ⟨.completed, 1, none⟩ true], [.submitted 1], log, ?_⟩
  · rw [row]
    exact Option.some_ne_none _
  · simp

theorem restored_row_is_a_success :
    ∃ life : TaskLife, life.Reached (fun _ _ => True) ∧
      ∃ gen stopped, .saved gen ⟨.completed, 1, none⟩ stopped ∈
        ([.saved 1 ⟨.completed, 1, none⟩ true] : List LifeEvent) ∧
        (stopped = true → (LifeRow.mk .completed 1 none).Success) := by
  obtain ⟨life, reached, -, row, log⟩ := removed_then_succeeds
  exact ⟨life, reached, (stopped_run_saves_only_success reached).1
    [.saved 1 ⟨.completed, 1, none⟩ true] true [.submitted 1] ⟨.completed, 1, none⟩ log (by simp) row⟩

end TaskLife

end SeiController
