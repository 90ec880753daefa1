import SeiController.Lib.System
import SeiController.Task.Env
import Mathlib.Data.List.Nodup

/-!
# One task ID under concurrent calls

`Submit` holds the engine's mutex from its read of the row to the registration of the
new run; `RemoveResult` holds it to look up and cancel the registered context, and again
to drop the registration, but not while it deletes the row; a run holds it only to clear
its own registration.  The store serves reads, saves and deletes in any order the mutex
leaves open, and any of them may fail.
-/

set_option autoImplicit false

namespace SeiController

/-- The stored row, as far as the engine reads it back. -/
structure LifeRow where
  status : SidecarTaskStatus
  run : Nat
  error : Option String
deriving DecidableEq

structure HandlerError where
  text : String
  /-- The error wraps `context.Canceled`. -/
  canceled : Bool
deriving DecidableEq

/-- Where a run's goroutine stands, with what its handler returned. -/
inductive LifeStage
  | handling
  | returned (err : Option HandlerError)
  | saving (err : Option HandlerError)
  | clearing
deriving DecidableEq

structure LifeRun where
  gen : Nat
  run : Nat
  cancelled : Bool
  stage : LifeStage
  /-- The context was cancelled before the handler returned. -/
  stopped : Bool
  /-- How many rows `Submit` had saved when the run was registered. -/
  saves : Nat
deriving DecidableEq

def LifeRun.live (run : LifeRun) : Bool :=
  run.stage = .handling && !run.cancelled

/-- The `Submit` that holds the mutex, if one does. -/
inductive SubmitStage
  | idle
  | reading
  | saving (run : Nat)
  | registering (run : Nat)
deriving DecidableEq

inductive RemovalStage
  | deleting
  | unregistering
deriving DecidableEq

/-- A `RemoveResult` under way, with the registration it looked up. -/
structure Removal where
  entry : Option Nat
  stage : RemovalStage
  /-- How many rows `Submit` had saved when the registration was looked up. -/
  saves : Nat
deriving DecidableEq

/-- A write that reports an error may have been made all the same. -/
inductive StoreOutcome
  | ok
  | failed (written : Bool)
deriving DecidableEq

def StoreOutcome.writes : StoreOutcome → Bool
  | .ok => true
  | .failed written => written

inductive LifeEvent
  /-- `Submit` saved a running row. -/
  | submitted (run : Nat)
  /-- `RemoveResult` deleted without error, and there was a row or not. -/
  | deleted (found : Bool)
  /-- The run of this generation saved its result. -/
  | saved (gen : Nat) (row : LifeRow) (stopped : Bool)
deriving DecidableEq

structure TaskLife where
  row : Option LifeRow
  /-- The generation of the registered cancel function. -/
  entry : Option Nat
  gen : Nat
  submit : SubmitStage
  removals : List Removal
  runs : List LifeRun
  saves : Nat
  /-- The writes to the row so far, newest first. -/
  log : List LifeEvent
deriving DecidableEq

inductive LifeAction
  | submit
  | submitRead (fault : Bool)
  | submitSave (outcome : StoreOutcome)
  | register
  | remove
  | delete (removal : Removal) (outcome : StoreOutcome)
  | unregister (removal : Removal)
  | handlerReturns (gen : Nat) (err : Option HandlerError)
  | checkCancelled (gen : Nat)
  | saveResult (gen : Nat) (outcome : StoreOutcome)
  | clearCancel (gen : Nat)
deriving DecidableEq

namespace TaskLife

/-! ## Submit -/

/-- A failed read counts as no row. -/
def afterRead (life : TaskLife) (fault : Bool) : SubmitStage :=
  if fault then .saving 1
  else
    match life.row with
    | none => .saving 1
    | some row =>
      match row.status with
      | .running | .completed => .idle
      | .failed => .saving (row.run + 1)

def runningRow (run : Nat) : LifeRow := ⟨.running, run, none⟩

def submitted (life : TaskLife) (run : Nat) : TaskLife :=
  { life with
    row := some (runningRow run)
    saves := life.saves + 1
    log := .submitted run :: life.log }

def submitSave (life : TaskLife) (run : Nat) : StoreOutcome → TaskLife
  | .ok => { life.submitted run with submit := .registering run }
  | .failed true => { life.submitted run with submit := .idle }
  | .failed false => { life with submit := .idle }

/-- `newTaskContext` and the new goroutine. -/
def register (life : TaskLife) (run : Nat) : TaskLife :=
  { life with
    entry := some (life.gen + 1)
    gen := life.gen + 1
    submit := .idle
    runs := ⟨life.gen + 1, run, false, .handling, false, life.saves⟩ :: life.runs }

/-! ## RemoveResult -/

def setRun (gen : Nat) (f : LifeRun → LifeRun) (runs : List LifeRun) : List LifeRun :=
  runs.map fun run => if run.gen = gen then f run else run

def cancel (gen : Nat) (runs : List LifeRun) : List LifeRun :=
  setRun gen (fun run => { run with cancelled := true }) runs

def lookUp (life : TaskLife) : TaskLife :=
  { life with
    runs := (life.entry.map fun gen => cancel gen life.runs).getD life.runs
    removals := ⟨life.entry, .deleting, life.saves⟩ :: life.removals }

/-- The registration is kept until the row is gone, and dropped only if it is still the
one that was looked up. -/
def delete (life : TaskLife) (removal : Removal) : StoreOutcome → TaskLife
  | .ok =>
    { life with
      row := none
      removals :=
        if removal.entry.isSome then
          { removal with stage := .unregistering } :: life.removals.erase removal
        else life.removals.erase removal
      log := .deleted life.row.isSome :: life.log }
  | .failed written =>
    { life with
      row := if written then none else life.row
      removals := life.removals.erase removal }

def unregister (life : TaskLife) (removal : Removal) : TaskLife :=
  { life with
    entry := if life.entry = removal.entry then none else life.entry
    removals := life.removals.erase removal }

/-! ## The goroutine of a run -/

def handlerReturns (run : LifeRun) (err : Option HandlerError) : LifeRun :=
  { run with stage := .returned err, stopped := run.cancelled }

/-- An error under a cancelled context leaves the store untouched; a success is always
persisted. -/
def checkCancelled (run : LifeRun) : LifeRun :=
  match run.stage with
  | .returned (some failure) =>
    if failure.canceled || run.cancelled then { run with stage := .clearing }
    else { run with stage := .saving (some failure) }
  | .returned none => { run with stage := .saving none }
  | _ => run

def resultRow (run : LifeRun) (err : Option HandlerError) : LifeRow :=
  ⟨if err.isSome then .failed else .completed, run.run, err.map HandlerError.text⟩

def saveResult (life : TaskLife) (run : LifeRun) (err : Option HandlerError)
    (outcome : StoreOutcome) : TaskLife :=
  let runs := setRun run.gen (fun run => { run with stage := .clearing }) life.runs
  if outcome.writes then
    { life with
      row := some (resultRow run err)
      runs
      log := .saved run.gen (resultRow run err) run.stopped :: life.log }
  else
    { life with runs }

/-- Drop the registration if it is still this run's, and end. -/
def clearCancel (life : TaskLife) (run : LifeRun) : TaskLife :=
  { life with
    entry := if life.entry = some run.gen then none else life.entry
    runs := life.runs.filter fun other => other.gen != run.gen }

def findRun (life : TaskLife) (gen : Nat) : Option LifeRun :=
  life.runs.find? fun run => run.gen == gen

/-! ## Steps -/

/-- One step, where the mutex and the stages permit it. -/
def step (life : TaskLife) : LifeAction → Option TaskLife
  | .submit => if life.submit = .idle then some { life with submit := .reading } else none
  | .submitRead fault =>
    if life.submit = .reading then some { life with submit := life.afterRead fault } else none
  | .submitSave outcome =>
    match life.submit with
    | .saving run => some (life.submitSave run outcome)
    | _ => none
  | .register =>
    match life.submit with
    | .registering run => some (life.register run)
    | _ => none
  | .remove => if life.submit = .idle then some life.lookUp else none
  | .delete removal outcome =>
    if removal ∈ life.removals ∧ removal.stage = .deleting then some (life.delete removal outcome)
    else none
  | .unregister removal =>
    if life.submit = .idle ∧ removal ∈ life.removals ∧ removal.stage = .unregistering then
      some (life.unregister removal)
    else none
  | .handlerReturns gen err =>
    match life.findRun gen with
    | some run =>
      if run.stage = .handling then
        some { life with runs := setRun gen (fun run => handlerReturns run err) life.runs }
      else none
    | none => none
  | .checkCancelled gen =>
    match life.findRun gen with
    | some run =>
      match run.stage with
      | .returned _ => some { life with runs := setRun gen checkCancelled life.runs }
      | _ => none
    | none => none
  | .saveResult gen outcome =>
    match life.findRun gen with
    | some run =>
      match run.stage with
      | .saving err => some (life.saveResult run err outcome)
      | _ => none
    | none => none
  | .clearCancel gen =>
    match life.findRun gen with
    | some run =>
      if life.submit = .idle ∧ run.stage = .clearing then some (life.clearCancel run) else none
    | none => none

/-- The engine at startup: whatever row is stored, with its run rehydrated or not. -/
def Started (life : TaskLife) : Prop :=
  life.submit = .idle ∧ life.removals = [] ∧ life.saves = 0 ∧ life.log = [] ∧
    (life.entry = none ∧ life.gen = 0 ∧ life.runs = [] ∨
      ∃ row, life.row = some row ∧ row.status = .running ∧ life.entry = some 1 ∧ life.gen = 1 ∧
        life.runs = [⟨1, row.run, false, .handling, false, 0⟩])

/-- The states one ID can reach, with every step meeting `allowed`. -/
def Reached (allowed : TaskLife → LifeAction → Prop) (life : TaskLife) : Prop :=
  Reachable Started (fun before after => ∃ action, allowed before action ∧
    before.step action = some after) life

/-- A schedule played step by step, as long as `check` passes. -/
def play (check : TaskLife → LifeAction → Bool) (life : TaskLife) : List LifeAction → Option TaskLife
  | [] => some life
  | action :: actions =>
    if check life action then (life.step action).bind fun next => play check next actions else none

theorem Reached.play {allowed : TaskLife → LifeAction → Prop} (check : TaskLife → LifeAction → Bool)
    {life after : TaskLife} (reached : life.Reached allowed)
    (checked : ∀ life action, check life action = true → allowed life action)
    (actions : List LifeAction) (played : life.play check actions = some after) :
    after.Reached allowed := by
  induction actions generalizing life with
  | nil =>
    cases played
    exact reached
  | cons action actions ih =>
    unfold TaskLife.play at played
    split at played
    next passes =>
      obtain ⟨next, moved, rest⟩ := Option.bind_eq_some_iff.mp played
      exact ih (.next reached ⟨action, checked life action passes, moved⟩) rest
    · cases played

end TaskLife

end SeiController
