import SeiController.Lib.Keyed
import SeiController.Task.Env

/-!
# The sidecar's task engine

`Submit` decides under the engine's mutex whether a task starts a run; each run is a
goroutine that calls the handler, then flips the ready flag, then saves its row, with
nothing ordering these steps against those of another run.  The store keeps one row
per task ID.
-/

set_option autoImplicit false

namespace SeiController

structure TaskRow where
  id : TaskID
  type : TaskType
  status : SidecarTaskStatus
  run : Nat
  params : TaskParams
  submittedAt : Nat
  error : Option String
deriving DecidableEq

/-- Where a run's goroutine stands.  The carried error is the handler's. -/
inductive RunStage
  | handling
  | returned (err : Option String)
  | executed (err : Option String)
  | saved
deriving DecidableEq

structure TaskRun where
  id : TaskID
  type : TaskType
  params : TaskParams
  run : Nat
  gen : Nat
  submittedAt : Nat
  cancelled : Bool
  stage : RunStage
deriving DecidableEq

def TaskRun.recordPending (run : TaskRun) : Bool :=
  run.stage != .saved

structure Engine where
  rows : Keyed TaskRow.id
  /-- The goroutines that have not ended. -/
  runs : List TaskRun
  /-- The registered cancel functions, by the generation that registered them. -/
  cancels : Keyed (Prod.fst : TaskID × Nat → TaskID)
  gen : Nat
  ready : Bool
  /-- Every handler run ever started, newest first. -/
  started : List (TaskID × TaskType)

/-- The store errors one `Submit` meets. -/
structure StoreFault where
  get : Bool
  save : Option String
deriving DecidableEq

def StoreFault.none : StoreFault := ⟨false, .none⟩

namespace Engine

def row (engine : Engine) (id : TaskID) : Option TaskRow :=
  engine.rows.get id

def runningRow (request : TaskRequest) (now run : Nat) : TaskRow :=
  { id := request.id, type := request.type, status := .running, run
    params := request.params, submittedAt := now, error := none }

def start (engine : Engine) (request : TaskRequest) (now run : Nat) : Engine :=
  { engine with
    rows := engine.rows.put (runningRow request now run)
    runs := { id := request.id, type := request.type, params := request.params, run
              gen := engine.gen + 1, submittedAt := now, cancelled := false
              stage := .handling } :: engine.runs
    cancels := engine.cancels.put (request.id, engine.gen + 1)
    gen := engine.gen + 1
    started := (request.id, request.type) :: engine.started }

def persist (engine : Engine) (request : TaskRequest) (now : Nat) (fault : StoreFault) (run : Nat) :
    Engine × Option String :=
  match fault.save with
  | some err => (engine, some ("persist task: " ++ err))
  | none => (engine.start request now run, none)

/-- A running or completed row answers the submission; a failed one is run again
with the next run number; without a row, or when the read fails, it is run 1. -/
def submit (registered : TaskType → Bool) (engine : Engine) (request : TaskRequest) (now : Nat)
    (fault : StoreFault) : Engine × Option String :=
  if !registered request.type then
    (engine, some ("unknown task type: " ++ request.type.wire))
  else if fault.get then
    engine.persist request now fault 1
  else
    match engine.row request.id with
    | none => engine.persist request now fault 1
    | some row =>
      match row.status with
      | .running | .completed => (engine, none)
      | .failed => engine.persist request now fault (row.run + 1)

/-- `GetResult` as the HTTP API answers it. -/
def getTask (engine : Engine) (id : TaskID) : Except GetTaskError TaskResult :=
  match engine.row id with
  | none => .error .notFound
  | some row => .ok ⟨row.status, row.error⟩

/-! ## The steps of a run's goroutine -/

/-- The steps of the goroutine with generation `gen`. -/
inductive RunEvent
  | handlerReturns (gen : Nat) (err : Option String)
  | storeFlag (gen : Nat)
  | saveResult (gen : Nat) (storeErr : Bool)
  | clearCancel (gen : Nat)
deriving DecidableEq

def RunEvent.gen : RunEvent → Nat
  | .handlerReturns gen _ | .storeFlag gen | .saveResult gen _ | .clearCancel gen => gen

def setStage (engine : Engine) (gen : Nat) (stage : RunStage) : List TaskRun :=
  engine.runs.map fun run => if run.gen = gen then { run with stage } else run

def findRun (engine : Engine) (gen : Nat) : Option TaskRun :=
  engine.runs.find? fun run => run.gen == gen

/-- The handler of `mark-not-ready` purges the recorded `mark-ready` rows before it
returns success. -/
def purge (type : TaskType) (err : Option String) (rows : Keyed TaskRow.id) : Keyed TaskRow.id :=
  if type = .markNotReady ∧ err = none then
    rows.filter fun row => row.type != .markReady
  else
    rows

/-- The two hooks that write the ready flag, on handler success only. -/
def flip (type : TaskType) (err : Option String) (ready : Bool) : Bool :=
  match type, err with
  | .markReady, none => true
  | .markNotReady, none => false
  | _, _ => ready

def resultRow (run : TaskRun) (err : Option String) : TaskRow :=
  { id := run.id, type := run.type, status := if err.isSome then .failed else .completed
    run := run.run, params := run.params, submittedAt := run.submittedAt, error := err }

/-- An error under a cancelled context leaves the store untouched. -/
def savedRows (run : TaskRun) (err : Option String) (storeErr : Bool) (rows : Keyed TaskRow.id) :
    Keyed TaskRow.id :=
  if (err.isSome && run.cancelled) || storeErr then rows
  else rows.put (resultRow run err)

def handled (engine : Engine) (run : TaskRun) (err : Option String) : Engine :=
  { engine with
    rows := purge run.type err engine.rows
    runs := engine.setStage run.gen (.returned err) }

def flagged (engine : Engine) (run : TaskRun) (err : Option String) : Engine :=
  { engine with
    ready := flip run.type err engine.ready
    runs := engine.setStage run.gen (.executed err) }

def recorded (engine : Engine) (run : TaskRun) (err : Option String) (storeErr : Bool) : Engine :=
  { engine with
    rows := savedRows run err storeErr engine.rows
    runs := engine.setStage run.gen .saved }

def cleared (engine : Engine) (run : TaskRun) : Engine :=
  { engine with
    runs := engine.runs.filter fun other => other.gen != run.gen
    cancels := engine.cancels.filter fun entry => entry != (run.id, run.gen) }

/-- One goroutine step.  A step the named run is not ready for changes nothing. -/
def advance (engine : Engine) (event : RunEvent) : Engine :=
  match engine.findRun event.gen with
  | none => engine
  | some run =>
    match event, run.stage with
    | .handlerReturns _ err, .handling => engine.handled run err
    | .storeFlag _, .returned err => engine.flagged run err
    | .saveResult _ storeErr, .executed err => engine.recorded run err storeErr
    | .clearCancel _, .saved => engine.cleared run
    | _, _ => engine

/-- What reaches the engine: a submission or a step of one of its goroutines. -/
inductive Action
  | submit (request : TaskRequest) (now : Nat) (fault : StoreFault)
  | run (event : RunEvent)
deriving DecidableEq

def act (registered : TaskType → Bool) (engine : Engine) : Action → Engine
  | .submit request now fault => (engine.submit registered request now fault).1
  | .run event => engine.advance event

def runAll (registered : TaskType → Bool) (engine : Engine) (actions : List Action) : Engine :=
  actions.foldl (act registered) engine

theorem runAll_append (registered : TaskType → Bool) (engine : Engine) (front back : List Action) :
    engine.runAll registered (front ++ back) =
      (engine.runAll registered front).runAll registered back :=
  List.foldl_append

theorem runAll_cons (registered : TaskType → Bool) (engine : Engine) (action : Action)
    (actions : List Action) :
    engine.runAll registered (action :: actions) =
      (engine.act registered action).runAll registered actions :=
  rfl

/-- An engine over the rows an earlier process left in the store. -/
def boot (rows : Keyed TaskRow.id) : Engine :=
  { rows, runs := [], cancels := .empty, gen := 0, ready := false, started := [] }

end Engine

end SeiController
