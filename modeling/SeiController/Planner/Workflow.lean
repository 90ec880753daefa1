import SeiController.Planner.Build

/-!
# The StateSync workflow's plan
-/

set_option autoImplicit false

namespace SeiController

def minStateSyncWitnesses : Nat := 2

def gigaStoreConfigPatch (backend : String) : PatchFiles :=
  [("app.toml",
    [("state-commit", .obj [("sc-enable", .bool true)]),
      ("state-store", .obj
        [("evm-ss-split", .bool true),
          ("ss-backend", .str (if backend ≠ "" then backend else "pebbledb")),
          ("ss-enable", .bool true)])])]

/-- The patch of a migration; a migration must not translate to nothing. -/
def migrationConfigPatch : Option ConfigMigration → Except String PatchFiles
  | none => .ok []
  | some (.gigaStore backend) => .ok (gigaStoreConfigPatch backend)
  | some (.unknown kind) => .error ("unknown config migration kind \"" ++ kind ++ "\"")

def validateStateSyncWorkflow (node : SeiNode) (workflow : Workflow) :
    Except String StateSyncWorkflow :=
  match workflow.spec.stateSync with
  | none => .error "stateSync recipe params are nil"
  | some recipe =>
    if node.spec.fullNode.isNone then
      .error ("stateSync workflow refuses non-full/RPC target " ++ node.nameSpace ++ "/" ++ node.name)
    else if node.mountsNodeConfig then
      .error ("stateSync workflow refuses static-config target " ++ node.nameSpace ++ "/" ++ node.name)
    else
      .ok recipe

/-- A network resync never uses a local snapshot. -/
def resyncTask (node : SeiNode) (witnesses : List String) : TaskParams :=
  match configureStateSyncTask node with
  | .configureStateSync _ _ trustPeriod backfillBlocks =>
    .configureStateSync false witnesses trustPeriod backfillBlocks
  | params => params

def stateSyncSteps (node : SeiNode) (witnesses : List String) (patch : PatchFiles) : List PlanStep :=
  [⟨.markNotReady, .empty⟩, ⟨.stopSeid, .upCheck (upCheckForNode node)⟩, ⟨.resetData, .empty⟩]
    ++ (if patch.isEmpty then [] else [⟨.configPatch, .configPatch patch⟩])
    ++ [⟨.configureStateSync, resyncTask node witnesses⟩, ⟨.markReady, .empty⟩]

/-- The recipe ends at mark-ready.  It drives no phase of the node. -/
def buildStateSyncPlan (planID : String) (node : SeiNode) (recipe : StateSyncWorkflow) :
    Except String TaskPlan :=
  let witnesses :=
    if recipe.rpcServers.isEmpty then node.status.resolvedStateSyncers else recipe.rpcServers
  if witnesses.length < minStateSyncWitnesses then
    .error ("stateSync workflow fail-closed: need >=2 resolved witnesses (recipe rpcServers or "
      ++ "node.status.resolvedStateSyncers), have " ++ toString witnesses.length)
  else
    match migrationConfigPatch recipe.migration with
    | .error err => .error ("stateSync workflow config migration: " ++ err)
    | .ok patch =>
      .ok { assembleSteps planID (stateSyncSteps node witnesses patch) with targetPhase := .empty }

def buildWorkflowPlan (planID : String) (node : SeiNode) (workflow : Workflow) :
    Except String TaskPlan :=
  match workflow.spec.kind with
  | .unknown kind => .error ("unknown workflow kind \"" ++ kind ++ "\"")
  | .stateSync =>
    match validateStateSyncWorkflow node workflow with
    | .error err => .error err
    | .ok recipe => buildStateSyncPlan planID node recipe

end SeiController
