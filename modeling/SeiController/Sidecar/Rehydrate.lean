import SeiController.Sidecar.EngineStep

/-!
# Crash recovery

`RehydrateStaleTasks` runs the stale holds first and one after another, lists the stale
tasks again, and then dispatches what is left, each into a goroutine of its own.  A
`mark-ready` is dispatched only after a check against the newest hold in the store.  Any
store call may fail, and between two calls of the second pass the goroutines already
dispatched make any steps they can.
-/

set_option autoImplicit false

namespace SeiController

/-- What the surroundings decide at one store call of the recovery: the steps the
goroutines made since the last call, whether the call fails, and, for a hold that is run,
what its handler returns. -/
structure Chance where
  goroutines : List Engine.RunEvent
  fails : Bool
  handler : Option String

/-- `LatestByType` for holds: a record with the greatest submission time. -/
structure LatestHold where
  latest : List TaskRow → Option TaskRow
  none_of : ∀ rows, latest rows = none → ∀ row ∈ rows, row.type ≠ .markNotReady
  newest : ∀ rows hold, latest rows = some hold →
    ∀ row ∈ rows, row.type = .markNotReady → row.submittedAt ≤ hold.submittedAt

namespace Engine

/-- `newTaskContext` and the goroutine for a stored row; the row stays as it is. -/
def rehydrate (engine : Engine) (row : TaskRow) : Engine :=
  { engine with
    runs := { id := row.id, type := row.type, params := row.params, run := row.run
              gen := engine.gen + 1, submittedAt := row.submittedAt, cancelled := false
              stage := .handling } :: engine.runs
    cancels := engine.cancels.put (row.id, engine.gen + 1)
    gen := engine.gen + 1
    started := (row.id, row.type) :: engine.started }

def save (engine : Engine) (row : TaskRow) (fails : Bool) : Engine :=
  if fails then engine else { engine with rows := engine.rows.put row }

def goroutines (engine : Engine) (events : List RunEvent) : Engine :=
  events.foldl advance engine

/-- `ListStaleTasks`. -/
def stale (engine : Engine) : List TaskRow :=
  engine.rows.records.filter fun row => row.status = .running

end Engine

def TaskRow.failed (row : TaskRow) (text : String) : TaskRow :=
  { row with status := .failed, error := some text }

inductive StoreCall
  | listStale
  | hold (row : TaskRow)
  | latestHold (release : TaskRow)
  | save (row : TaskRow)

structure Recovery where
  engine : Engine
  /-- The calls made, newest first. -/
  calls : List StoreCall
  /-- The tasks dispatched, with the store's rows at that moment, newest first. -/
  dispatched : List (TaskRow × List TaskRow)

namespace Recovery

section Passes

variable (registered : TaskType → Bool) (holds : LatestHold) (chance : Nat → Chance)

def next (recovery : Recovery) : Chance :=
  chance recovery.calls.length

/-- One store call: the goroutines have moved on when it is served. -/
def call (recovery : Recovery) (made : StoreCall) : Recovery :=
  { recovery with
    engine := recovery.engine.goroutines (recovery.next chance).goroutines
    calls := made :: recovery.calls }

def save (recovery : Recovery) (row : TaskRow) : Recovery :=
  let called := recovery.call chance (.save row)
  { called with engine := called.engine.save row (recovery.next chance).fails }

def noHandler : String := "no handler registered for task type"

def superseded : String := "superseded by hold"

def runHold (recovery : Recovery) (row : TaskRow) : Recovery :=
  if registered row.type then
    let started := recovery.engine.rehydrate row
    let now := recovery.next chance
    { recovery with
      engine := started.goroutines
        [.handlerReturns started.gen now.handler, .storeFlag started.gen,
          .saveResult started.gen now.fails, .clearCancel started.gen]
      calls := .hold row :: recovery.calls }
  else
    recovery.save chance (row.failed noHandler)

def firstPass (stale : List TaskRow) (recovery : Recovery) : Recovery :=
  (stale.filter fun row => row.type = .markNotReady).foldl (runHold registered chance) recovery

/-- `resolveStaleHandler`, then the goroutine. -/
def dispatch (recovery : Recovery) (row : TaskRow) : Recovery :=
  if registered row.type then
    { recovery with
      engine := recovery.engine.rehydrate row
      dispatched := (row, recovery.engine.rows.records) :: recovery.dispatched }
  else
    recovery.save chance (row.failed noHandler)

/-- `markReadySuperseded` and what follows; a failed read refuses the release. -/
def release (recovery : Recovery) (row : TaskRow) : Recovery :=
  let checked := recovery.call chance (.latestHold row)
  if (recovery.next chance).fails then checked
  else
    match holds.latest checked.engine.rows.records with
    | none => checked.dispatch registered chance row
    | some hold =>
      if hold.submittedAt < row.submittedAt then checked.dispatch registered chance row
      else checked.save chance (row.failed superseded)

def resume (recovery : Recovery) (row : TaskRow) : Recovery :=
  match row.type with
  | .markNotReady => recovery
  | .markReady => recovery.release registered holds chance row
  | _ => recovery.dispatch registered chance row

def secondPass (stale : List TaskRow) (recovery : Recovery) : Recovery :=
  stale.foldl (resume registered holds chance) recovery

def boot (rows : Keyed TaskRow.id) : Recovery :=
  { engine := .boot rows, calls := [], dispatched := [] }

def rehydrateStaleTasks (rows : Keyed TaskRow.id) : Recovery :=
  let start := (boot rows).call chance .listStale
  if ((boot rows).next chance).fails then start
  else
    let stale := start.engine.stale
    let held := firstPass registered chance stale start
    if stale.any fun row => row.type = .markNotReady then
      let relisted := held.call chance .listStale
      if (held.next chance).fails then relisted
      else secondPass registered holds chance relisted.engine.stale relisted
    else
      secondPass registered holds chance stale held

end Passes

end Recovery

end SeiController
