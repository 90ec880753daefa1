import SeiController.Api.Plan
import SeiController.Lib.GoInt
import SeiController.Lib.GoText

/-!
# The client-side validation of the sidecar tasks

The `Validate` methods of the sidecar client: a task's parameters are checked before they are
submitted, and the check depends on them alone.  What other packages decide is a parameter.
-/

set_option autoImplicit false

namespace SeiController

/-- What `Validate` takes from other packages; each returns its own error. -/
structure ClientChecks where
  /-- `seiconfig.ValidateIntent`, with its diagnostics; none is the zero intent. -/
  validateIntent : Option ConfigIntent → Option String
  /-- `bech32.Decode`, up to the human-readable part. -/
  bech32 : String → Except String String
  parseDuration : String → Except String Int
  /-- `json.Unmarshal` into a map. -/
  unmarshalObject : String → Option String
  isPrint : Char → Bool

abbrev firstError (checks : List (Option String)) : Option String :=
  checks.findSome? id

def check (holds : Bool) (message : String) : Option String :=
  if holds then none else some message

def required (task field value : String) : Option String :=
  check (value != "") (task ++ ": " ++ field ++ " required")

def requiredPositive (task field : String) (value : Int) : Option String :=
  check (0 < value) (task ++ ": " ++ field ++ " required (must be > 0)")

def missingField (task field value : String) : Option String :=
  check (value != "") (task ++ ": missing required field " ++ field)

/-- `unicode.ToLower`, as far as its result is ASCII. -/
def lowerRune (c : Char) : Char :=
  if c = '\u0130' then 'i' else if c = '\u212a' then 'k' else c.toLower

section

variable (lib : ClientChecks)

def validateSeiAccountAddress (addr : String) : Option String :=
  match lib.bech32 addr with
  | .error err => some ("address " ++ GoText.quote lib.isPrint addr ++ ": " ++ err)
  | .ok hrp =>
    check (hrp == "sei") ("address " ++ GoText.quote lib.isPrint addr ++ ": hrp "
      ++ GoText.quote lib.isPrint hrp ++ ", expected \"sei\"")

def parseVoteOption (option : String) : Option String :=
  check (["yes", "no", "abstain", "no_with_veto", "no-with-veto"].any fun allowed =>
      option.toList.map lowerRune == allowed.toList)
    ("invalid vote option " ++ GoText.quote lib.isPrint option
      ++ " (allowed: yes | no | abstain | no_with_veto)")

/-- The three checks a node is given pass with the ports of sei-config. -/
def UpCheck.validate : UpCheck → Option String
  | .evmRoot | .p2p | .rpcStatus => none
  | .custom scheme port path =>
    if port < 1 ∨ 65535 < port then
      some ("upCheck: port " ++ GoInt.formatInt port ++ " is outside 1-65535")
    else if scheme = "tcp" then
      check (path == "")
        ("upCheck: path " ++ GoText.quote lib.isPrint path ++ " is meaningless for scheme tcp")
    else if scheme = "http" then
      check (path.toList.head? == some '/')
        ("upCheck: http path " ++ GoText.quote lib.isPrint path ++ " must start with /")
    else
      some ("upCheck: unknown scheme " ++ GoText.quote lib.isPrint scheme
        ++ " (want tcp or http)")

def AwaitConditionTask.validate (task : AwaitConditionTask) : Option String :=
  firstError [
    if task.condition = "height" then
      check (0 < task.targetHeight)
        "await-condition: height condition requires TargetHeight > 0"
    else
      check (task.condition == "catchingUp")
        ("await-condition: unknown condition " ++ GoText.quote lib.isPrint task.condition),
    check (task.action == "" || task.action == "SIGTERM_SEID")
      ("await-condition: unknown action " ++ GoText.quote lib.isPrint task.action)]

def GovVoteTask.validate (task : GovVoteTask) : Option String :=
  firstError [
    required "gov-vote" "chainId" task.chainID,
    required "gov-vote" "keyName" task.keyName,
    requiredPositive "gov-vote" "proposalId" task.proposalID,
    (parseVoteOption lib task.option).map ("gov-vote: " ++ ·),
    required "gov-vote" "fees" task.fees,
    requiredPositive "gov-vote" "gas" task.gas]

def UnjailTask.validate (task : UnjailTask) : Option String :=
  firstError [
    required "unjail" "chainId" task.chainID,
    required "unjail" "keyName" task.keyName,
    required "unjail" "fees" task.fees,
    requiredPositive "unjail" "gas" task.gas]

/-- The checks of a proposal, with its own ones in the middle. -/
def ProposalParams.validate (name : String) (own : List (Option String)) (task : ProposalParams) :
    Option String :=
  firstError ([
    required name "chainId" task.chainID,
    required name "keyName" task.keyName,
    required name "title" task.title,
    required name "description" task.description]
      ++ own ++ [
    required name "initialDeposit" task.initialDeposit,
    required name "fees" task.fees,
    requiredPositive name "gas" task.gas])

def GovSoftwareUpgradeTask.validate (task : GovSoftwareUpgradeTask) : Option String :=
  task.toProposalParams.validate "gov-software-upgrade" [
    required "gov-software-upgrade" "upgradeName" task.upgradeName,
    requiredPositive "gov-software-upgrade" "upgradeHeight" task.upgradeHeight]

def indexed (list : String) (i : Nat) (field : String) : String :=
  list ++ "[" ++ GoInt.formatInt i ++ "]" ++ field

def GovParamChangeTask.validate (task : GovParamChangeTask) : Option String :=
  task.toProposalParams.validate "gov-param-change" [
    check (!task.changes.isEmpty) "gov-param-change: at least one change required",
    task.changes.zipIdx.findSome? fun (change, i) => firstError [
      required "gov-param-change" (indexed "changes" i ".subspace") change.subspace,
      required "gov-param-change" (indexed "changes" i ".key") change.key,
      required "gov-param-change" (indexed "changes" i ".value") change.value]]

/-- The loop over the updates; `seen` are the code IDs before the `i`-th. -/
def validateUpdates (seen : List Nat) (i : Nat) : List InstantiateConfigUpdateInput → Option String
  | [] => none
  | update :: rest => firstError [
      requiredPositive "gov-update-instantiate-config" (indexed "updates" i ".codeId") update.codeID,
      check (!seen.contains update.codeID)
        ("gov-update-instantiate-config: duplicate codeId " ++ GoInt.formatInt update.codeID),
      if update.permission = "nobody" ∨ update.permission = "everybody" then none
      else if update.permission = "" then
        required "gov-update-instantiate-config" (indexed "updates" i ".permission") ""
      else
        (validateSeiAccountAddress lib update.permission).map
          ("gov-update-instantiate-config: " ++ indexed "updates" i ".permission: " ++ ·),
      validateUpdates (update.codeID :: seen) (i + 1) rest]

def GovUpdateInstantiateConfigTask.validate (task : GovUpdateInstantiateConfigTask) :
    Option String :=
  task.toProposalParams.validate "gov-update-instantiate-config" [
    check (!task.updates.isEmpty) "gov-update-instantiate-config: at least one update required",
    validateUpdates lib [] 0 task.updates]

def AutobahnConfigParams.validate (config : AutobahnConfigParams) : Option String :=
  firstError [
    if config.blockInterval = "" then none
    else
      match lib.parseDuration config.blockInterval with
      | .error err => some ("AutobahnConfig.BlockInterval "
          ++ GoText.quote lib.isPrint config.blockInterval ++ ": " ++ err)
      | .ok interval => check (0 < interval) ("AutobahnConfig.BlockInterval "
          ++ GoText.quote lib.isPrint config.blockInterval ++ " must be positive"),
    config.maxTxsPerBlock.bind fun most => check (1 ≤ most && most ≤ 2000)
      ("AutobahnConfig.MaxTxsPerBlock " ++ GoInt.formatInt most ++ " must be in [1, 2000]")]

def validateGenesisAccounts (name : String) (accounts : List GenesisAccountEntry) : Option String :=
  accounts.zipIdx.findSome? fun (account, i) => firstError [
    check (account.address != "")
      (name ++ ": " ++ indexed "accounts" i " missing required field Address"),
    check (account.balance != "")
      (name ++ ": " ++ indexed "accounts" i " missing required field Balance"),
    (validateSeiAccountAddress lib account.address).map
      (name ++ ": " ++ indexed "accounts" i ": " ++ ·),
    account.vesting.bind fun vesting => firstError [
      check (vesting.amount != "")
        (name ++ ": " ++ indexed "accounts" i ".vesting missing required field Amount"),
      check (0 < vesting.endTime) (name ++ ": "
        ++ indexed "accounts" i ".vesting: EndTime must be a positive unix timestamp")]]

def AssembleAndUploadGenesisTask.validate (task : AssembleAndUploadGenesisTask) : Option String :=
  let name := "assemble-and-upload-genesis"
  firstError [
    missingField name "AccountBalance" task.accountBalance,
    missingField name "Namespace" task.nameSpace,
    check (!task.nodes.isEmpty) (name ++ ": at least one node is required"),
    if task.consensusParams = "" then none
    else (lib.unmarshalObject task.consensusParams).map
      (name ++ ": ConsensusParams must be a JSON object: " ++ ·),
    check (task.autobahnConfig.isNone || task.autobahn)
      (name ++ ": AutobahnConfig requires Autobahn"),
    (task.autobahnConfig.bind (·.validate lib)).map (name ++ ": " ++ ·),
    validateGenesisAccounts lib name task.accounts]

/-- `Validate` of the task type's parameters.  A payload of another shape unmarshals to the
zero value; the types that are not named have nothing to check. -/
def TaskParams.validate (type : TaskType) (params : TaskParams) : Option String :=
  match type, params with
  | .configPatch, .configPatch (_ :: _) => none
  | .configPatch, _ => some "config-patch: at least one file is required"
  | .configApply, params =>
    (lib.validateIntent (match params with | .configApply intent => some intent | _ => none)).map
      ("config-apply: invalid intent: " ++ ·)
  | .restartSeid, .upCheck up => (up.validate lib).map ("restart-seid: " ++ ·)
  | .stopSeid, .upCheck up => (up.validate lib).map ("stop-seid: " ++ ·)
  | .generateIdentity, params =>
    let (chainID, moniker) :=
      match params with
      | .generateIdentity chainID moniker => (chainID, moniker)
      | _ => ("", "")
    firstError [missingField "generate-identity" "ChainID" chainID,
      missingField "generate-identity" "Moniker" moniker]
  | .generateGentx, params =>
    let (chainID, stakingAmount, accountBalance) :=
      match params with
      | .generateGentx chainID stakingAmount accountBalance => (chainID, stakingAmount, accountBalance)
      | _ => ("", "", "")
    firstError [missingField "generate-gentx" "ChainID" chainID,
      missingField "generate-gentx" "StakingAmount" stakingAmount,
      missingField "generate-gentx" "AccountBalance" accountBalance]
  | .uploadGenesisArtifacts, .uploadGenesisArtifacts nodeName nameSpace autobahn =>
    firstError [missingField "upload-genesis-artifacts" "NodeName" nodeName,
      check (!autobahn || nameSpace != "")
        "upload-genesis-artifacts: Namespace is required when Autobahn is set"]
  | .uploadGenesisArtifacts, _ => missingField "upload-genesis-artifacts" "NodeName" ""
  | .assembleGenesis, .assembleGenesis task => task.validate lib
  | .assembleGenesis, _ => ({} : AssembleAndUploadGenesisTask).validate lib
  | .awaitCondition, .awaitCondition task => task.validate lib
  | .awaitCondition, _ => ({} : AwaitConditionTask).validate lib
  | .govVote, .govVote task => task.validate lib
  | .govVote, _ => ({} : GovVoteTask).validate lib
  | .unjail, .unjail task => task.validate
  | .unjail, _ => ({} : UnjailTask).validate
  | .govSoftwareUpgrade, .govSoftwareUpgrade task => task.validate
  | .govSoftwareUpgrade, _ => ({} : GovSoftwareUpgradeTask).validate
  | .govParamChange, .govParamChange task => task.validate
  | .govParamChange, _ => ({} : GovParamChangeTask).validate
  | .govUpdateInstantiateConfig, .govUpdateInstantiateConfig task => task.validate lib
  | .govUpdateInstantiateConfig, _ => ({} : GovUpdateInstantiateConfigTask).validate lib
  | _, _ => none

end

end SeiController
