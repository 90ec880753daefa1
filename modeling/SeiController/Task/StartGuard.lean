import SeiController.Api.Node

/-!
# The start guard

Why the sidecar's start gate must stay closed on a node.  Plans and SeiNodeTasks
check it at the moment of submission, so a plan built before a spec edit cannot
release seid against the edited spec.  `none` is the source's empty reason.
-/

set_option autoImplicit false

namespace SeiController

def dataResetPending (node : SeiNode) : Bool :=
  node.spec.nodeConfig.isSome &&
    decide (node.status.dataResetGeneration < node.spec.dataResetGeneration)

def resetBlocks (node : SeiNode) : Option String :=
  if dataResetPending node then
    some ("data reset pending: spec.dataResetGeneration=" ++ toString node.spec.dataResetGeneration
      ++ ", status.dataResetGeneration=" ++ toString node.status.dataResetGeneration)
  else
    none

/-- The guard of `mark-ready`.  Its hold half acts only on a Running node. -/
def startBlocked (node : SeiNode) : Option String :=
  match resetBlocks node with
  | some reason => some reason
  | none =>
    if node.spec.holdRequested ≠ .none ∧ node.status.phase = .running then
      some ("maintenance hold " ++ node.spec.holdRequested.text ++ " is set")
    else
      none

/-- The guard of `start-seid-once`: any request other than AfterExit blocks it. -/
def startOnceBlocked (node : SeiNode) : Option String :=
  match resetBlocks node with
  | some reason => some reason
  | none =>
    if node.spec.holdRequested ≠ .afterExit then
      some ("start once needs maintenance hold AfterExit, requested now: \""
        ++ node.spec.holdRequested.text ++ "\"")
    else
      none

def startGuardRefusal : String := "mark-ready refused by the start guard"

theorem resetBlocks_eq_none (node : SeiNode) :
    resetBlocks node = none ↔ dataResetPending node = false := by
  unfold resetBlocks
  cases dataResetPending node <;> simp

theorem startBlocked_eq_none (node : SeiNode) :
    startBlocked node = none ↔
      dataResetPending node = false ∧
        (node.spec.holdRequested = .none ∨ node.status.phase ≠ .running) := by
  rw [← resetBlocks_eq_none, startBlocked]
  cases resetBlocks node with
  | some reason => simp
  | none =>
    by_cases held : node.spec.holdRequested = .none
    · simp [held]
    · simp [held]

theorem startOnceBlocked_eq_none (node : SeiNode) :
    startOnceBlocked node = none ↔
      dataResetPending node = false ∧ node.spec.holdRequested = .afterExit := by
  rw [← resetBlocks_eq_none, startOnceBlocked]
  cases resetBlocks node with
  | some reason => simp
  | none => simp

end SeiController
