import SeiController.Planner.ExecutorEnv
import SeiController.Sidecar.EngineStep

/-!
# The sidecar as an environment

An `Env` whose submissions and polls are served by the engine.  Each call first lets
the engine's goroutines run on, as the call's tick says, so every interleaving of a
reconcile with handler completions is a choice of ticks.
-/

set_option autoImplicit false

namespace SeiController

inductive Delivery
  | served | replyLost | dropped
deriving DecidableEq

/-- What happens in the sidecar until one call reaches it, and the call's fate. -/
structure Tick where
  events : List Engine.RunEvent
  now : Nat
  fault : StoreFault
  delivery : Delivery

/-- A submission that reached the engine, with the engine as it found it. -/
structure Arrival where
  request : TaskRequest
  engine : Engine
  fault : StoreFault

structure SidecarState (ρ : Type) where
  engine : Engine
  ticks : List Tick
  arrivals : List Arrival
  rest : ρ

namespace SidecarState

variable {ρ : Type}

/-- Let the sidecar run on until the next call; without a tick the call is lost. -/
def nextTick (state : SidecarState ρ) : SidecarState ρ × Option Tick :=
  match state.ticks with
  | [] => (state, none)
  | tick :: ticks =>
    ({ state with engine := tick.events.foldl Engine.advance state.engine, ticks }, some tick)

def submitTask (registered : TaskType → Bool) (state : SidecarState ρ) (request : TaskRequest) :
    SidecarState ρ × Option String :=
  match state.nextTick with
  | (state, none) => (state, some "connection refused")
  | (state, some tick) =>
    let (engine, err) := state.engine.submit registered request tick.now tick.fault
    let reached :=
      { state with
        engine
        arrivals := ⟨request, state.engine, tick.fault⟩ :: state.arrivals }
    match tick.delivery with
    | .dropped => (state, some "connection refused")
    | .replyLost => (reached, some "timeout")
    | .served => (reached, err)

def getTask (state : SidecarState ρ) (id : TaskID) :
    SidecarState ρ × Except GetTaskError TaskResult :=
  match state.nextTick with
  | (state, none) => (state, .error (.other "connection refused"))
  | (state, some tick) =>
    match tick.delivery with
    | .served => (state, state.engine.getTask id)
    | .replyLost | .dropped => (state, .error (.other "timeout"))

def outside {α : Type} (state : SidecarState ρ) (answer : ρ × α) : SidecarState ρ × α :=
  ({ state with rest := answer.1 }, answer.2)

end SidecarState

/-- The environment whose sidecar is the engine; everything else is `base`. -/
def engineEnv {ρ : Type} (registered : TaskType → Bool) (base : Env ρ) : Env (SidecarState ρ) where
  now state := base.now state.rest
  newUUID state := state.outside (base.newUUID state.rest)
  checks := base.checks
  buildSidecarClient state node := state.outside (base.buildSidecarClient state.rest node)
  submitTask := SidecarState.submitTask registered
  getTask := SidecarState.getTask
  inclusionStatus state := base.inclusionStatus state.rest
  healthz state := (state, .ok state.engine.ready)
  getStatefulSet state node := state.outside (base.getStatefulSet state.rest node)
  runControllerTask state type node := state.outside (base.runControllerTask state.rest type node)
  getSeiNode state name nameSpace := state.outside (base.getSeiNode state.rest name nameSpace)
  patchImage state node image := state.outside (base.patchImage state.rest node image)
  validateImport state node name := state.outside (base.validateImport state.rest node name)
  volumeAttributesClassHold state := base.volumeAttributesClassHold state.rest
  storageRequest state := base.storageRequest state.rest
  claimCall state claims := state.outside (base.claimCall state.rest claims)
  listSeiNodes state := state.outside (base.listSeiNodes state.rest)
  canonicalSyncers state := state.outside (base.canonicalSyncers state.rest)
  reconcileStatefulSet state node := state.outside (base.reconcileStatefulSet state.rest node)
  resolvePeers state node := state.outside (base.resolvePeers state.rest node)
  podNodeIsolation state node := state.outside (base.podNodeIsolation state.rest node)
  write state := state.outside (base.write state.rest)
  read state := state.outside (base.read state.rest)

/-- A property of the engine and its arrivals that goroutine steps and submissions
keep survives every call. -/
theorem engineEnv_closed {ρ : Type} {registered : TaskType → Bool} {base : Env ρ}
    {requests : TaskRequest → Prop} {Q : Engine → List Arrival → Prop}
    (advance : ∀ engine arrivals event, Q engine arrivals → Q (engine.advance event) arrivals)
    (submit : ∀ engine arrivals request now fault, requests request → Q engine arrivals →
      Q (engine.submit registered request now fault).1 (⟨request, engine, fault⟩ :: arrivals)) :
    EnvClosed (engineEnv registered base) (.submitting requests)
      fun state => Q state.engine state.arrivals := by
  have runOn (events : List Engine.RunEvent) (engine : Engine) (arrivals : List Arrival)
      (holds : Q engine arrivals) : Q (events.foldl Engine.advance engine) arrivals :=
    List.foldlRecOn (motive := fun now => Q now arrivals) events _ holds
      fun now kept event _ => advance now arrivals event kept
  refine
    { newUUID := fun _ holds => holds
      buildSidecarClient := fun _ _ _ holds => holds
      submitTask := ?_
      getTask := ?_
      getStatefulSet := fun _ _ _ _ holds => holds
      runControllerTask := fun _ _ _ _ _ holds => holds
      getSeiNode := fun _ _ _ holds => holds
      patchImage := fun _ _ _ _ holds => holds
      validateImport := fun _ _ _ _ holds => holds
      claimCall := fun _ _ holds => holds
      stamped := fun _ _ known => known }
  · rintro ⟨engine, ticks, arrivals, rest⟩ request requested holds
    cases ticks with
    | nil => exact holds
    | cons tick ticks =>
      have now := runOn tick.events engine arrivals holds
      have reached := submit _ arrivals request tick.now tick.fault requested now
      obtain ⟨events, time, fault, delivery⟩ := tick
      cases delivery with
      | dropped => exact now
      | replyLost | served => exact reached
  · rintro ⟨engine, ticks, arrivals, rest⟩ id holds
    cases ticks with
    | nil => exact holds
    | cons tick ticks =>
      have now := runOn tick.events engine arrivals holds
      obtain ⟨events, time, fault, delivery⟩ := tick
      cases delivery <;> exact now

end SeiController
