import SeiController.Task.Env

/-!
# A reconcile in progress

The in-memory node, the version it was read as, and what has been written since.  A
status write carries the resource version of the last version known, so it fails when
the node was read from a version that is no longer the latest.
-/

set_option autoImplicit false

namespace SeiController

structure Flow (ε : Type) where
  ctx : Ctx ε
  /-- The last version known to be stored: `before` in the source. -/
  base : SeiNode
  /-- The versions this reconcile has stored, newest first. -/
  written : List SeiNode
  /-- The version read was the latest. -/
  fresh : Bool
  flushFailed : Bool
  workflows : List Workflow

namespace Flow

variable {ε : Type} (env : Env ε)

def start (node : SeiNode) (fresh : Bool) (claims : List PersistentVolumeClaim)
    (workflows : List Workflow) (state : ε) (log : List Event) : Flow ε where
  ctx := { node, claims, env := state, log }
  base := node
  written := []
  fresh := fresh
  flushFailed := false
  workflows := workflows

def conflict : String := "the object has been modified; please apply your changes to the latest version"

def store (flow : Flow ε) : Flow ε × Option String :=
  if !flow.fresh then (flow, some conflict)
  else
    match env.write flow.ctx.env with
    | (state, some err) => ({ flow with ctx := { flow.ctx with env := state } }, some err)
    | (state, none) =>
      ({ flow with
          ctx := { flow.ctx with env := state, log := .persisted flow.ctx.node :: flow.ctx.log }
          base := flow.ctx.node
          written := flow.ctx.node :: flow.written }, none)

/-- `flushStatus`: nothing to do when the status is the stored one. -/
def flushStatus (flow : Flow ε) : Flow ε × Option String :=
  if flow.base.status = flow.ctx.node.status then (flow, none)
  else
    match flow.store env with
    | (flow, some err) => ({ flow with flushFailed := true }, some err)
    | (flow, none) => (flow, none)

/-- The flush deferred to the way out.  The error that ended the reconcile wins. -/
def flushOnExit : Flow ε × Option String → Flow ε × Option String
  | (flow, failure) =>
    if flow.flushFailed then (flow, failure)
    else
      match flow.flushStatus env, failure with
      | (flow, some err), none => (flow, some ("flushing status: " ++ err))
      | (flow, _), failure => (flow, failure)

def mapNode (f : SeiNode → SeiNode) (flow : Flow ε) : Flow ε :=
  { flow with ctx := { flow.ctx with node := f flow.ctx.node } }

def withCtx (flow : Flow ε) (ctx : Ctx ε) : Flow ε :=
  { flow with ctx }

end Flow

end SeiController
