import SeiController.Lib.GoText
import SeiController.Lib.Program
import Mathlib.Data.List.Infix

/-!
# Signing and broadcasting a transaction

The path every sign-tx handler takes: validate the request, prove the chain's identity,
adopt the transaction an earlier run left a marker for or sign a new one, store its
marker, broadcast it and poll for its inclusion.  The path is a program over what it
asks of the keyring, the local node, the marker store, the clock and its context.
-/

set_option autoImplicit false

namespace SeiController

namespace SignTx

abbrev TxBytes := List UInt8

/-- A message of the chain, by its encoding. -/
structure Msg where
  encoding : String
deriving DecidableEq

structure Coin where
  denom : String
  amount : Int
deriving DecidableEq

structure SignAndBroadcastInput where
  chainID : String
  keyName : String
  msg : Option Msg
  fees : String
  gas : Nat
  memo : String
  taskID : String
deriving DecidableEq

/-- The durable record of a signed transaction, stored before it is broadcast. -/
structure TxMarker where
  taskID : String
  txHash : String
  txBytes : TxBytes
  accountNumber : Nat
  sequence : Nat
  chainID : String
deriving DecidableEq

structure TxResponse where
  txHash : String
  height : Int
  code : Nat
  codespace : String
  data : String
  rawLog : String
  gasWanted : Int
  gasUsed : Int
deriving DecidableEq

/-- What the node's `/tx` answers for a hash it has indexed. -/
structure ResultTx where
  height : Int
  code : Nat
  codespace : String
  data : String
  log : String
  gasWanted : Int
  gasUsed : Int
deriving DecidableEq

structure SignAndBroadcastResult where
  txHash : String
  height : Int := 0
  code : Nat := 0
  codespace : String := ""
  rawLog : String := ""
  gasWanted : Int := 0
  gasUsed : Int := 0
  sequence : Nat
  accountNumber : Nat
  chainID : String
  broadcastedAt : Int
  proposalID : Nat := 0
  includedAt : Option Int := none
  unverifiable : Bool := false
deriving DecidableEq

/-- The errors of the path, as far as a caller tells them apart: `Terminal`, the
indexing-disabled sentinel, the context's own error, and the rest. -/
inductive TxError
  | terminal (text : String)
  | indexingDisabled (text : String)
  | cancelled
  | plain (text : String)
deriving DecidableEq

/-- The chain's libraries and Unicode's tables, as far as the path uses them. -/
structure ChainSdk where
  validateBasic : Msg → Option String
  parseCoinsNormalized : String → Except String (List Coin)
  /-- The SHA-256 digest in upper-case hexadecimal. -/
  txHash : TxBytes → String
  parseProposalID : TxResponse → Nat
  isPrint : Char → Bool
  toLower : String → String

structure ExecutionConfig where
  keyring : Bool
  rpc : Bool
  checkpointer : Bool
  seiChainID : String
deriving DecidableEq

/-! ## What the path asks of its surroundings -/

structure SignRequest where
  input : SignAndBroadcastInput
  accountNumber : Nat
  sequence : Nat
deriving DecidableEq

inductive SignError
  | build (text : String)
  | sign (text : String)
  | encode (text : String)
deriving DecidableEq

inductive StatusReply
  | failed (text : String)
  | undecodable (text : String)
  | network (name : String)
deriving DecidableEq

/-- A gRPC error with the part of its code that is read. -/
structure AccountError where
  notFound : Bool
  text : String
deriving DecidableEq

/-- An error of `/tx`; a JSON-RPC error carries its data. -/
structure QueryFailure where
  rpcData : Option String
  text : String
deriving DecidableEq

inductive TxOp
  | now
  | ctxErr
  /-- Wait for the interval or for the context, whichever comes first. -/
  | pause (interval : Int)
  | key (keyName : String)
  | newTxClient
  | status
  | getTxMarker (taskID : String)
  | accountNumberSequence (fromAddr : String)
  | signTx (request : SignRequest)
  | saveTxMarker (marker : TxMarker)
  | broadcastSync (txBytes : TxBytes)
  | tx (txHash : String)
deriving DecidableEq

def TxReply : TxOp → Type
  | .now => Int
  | .ctxErr => Bool
  | .pause _ => Bool
  | .key _ => Except String String
  | .newTxClient => Option String
  | .status => StatusReply
  | .getTxMarker _ => Except String (Option TxMarker)
  | .accountNumberSequence _ => Except AccountError (Nat × Nat)
  | .signTx _ => Except SignError TxBytes
  | .saveTxMarker _ => Option String
  | .broadcastSync _ => Except String TxResponse
  | .tx _ => Except QueryFailure ResultTx

/-- Errors are returned as values: the callers look at them and go on. -/
abbrev TxProgram (α : Type) := Program TxOp TxReply Empty α

namespace Ask

open Program (perform)

def now : TxProgram Int := perform TxOp.now
def ctxErr : TxProgram Bool := perform TxOp.ctxErr
def pause (interval : Int) : TxProgram Bool := perform (TxOp.pause interval)
def key (keyName : String) : TxProgram (Except String String) := perform (TxOp.key keyName)
def newTxClient : TxProgram (Option String) := perform TxOp.newTxClient
def status : TxProgram StatusReply := perform TxOp.status

def getTxMarker (taskID : String) : TxProgram (Except String (Option TxMarker)) :=
  perform (TxOp.getTxMarker taskID)

def accountNumberSequence (fromAddr : String) : TxProgram (Except AccountError (Nat × Nat)) :=
  perform (TxOp.accountNumberSequence fromAddr)

def signTx (request : SignRequest) : TxProgram (Except SignError TxBytes) :=
  perform (TxOp.signTx request)

def saveTxMarker (marker : TxMarker) : TxProgram (Option String) :=
  perform (TxOp.saveTxMarker marker)

def broadcastSync (txBytes : TxBytes) : TxProgram (Except String TxResponse) :=
  perform (TxOp.broadcastSync txBytes)

def tx (txHash : String) : TxProgram (Except QueryFailure ResultTx) := perform (TxOp.tx txHash)

end Ask

def textHas (text part : String) : Bool :=
  decide (part.toList <:+: text.toList)

/-! ## The node's index -/

inductive QueryError
  | indexingDisabled (text : String)
  | other (text : String)
deriving DecidableEq

def errTxIndexingDisabled : String :=
  "node transaction indexing is disabled (no kvEventSink): the tx may already be on chain — " ++
    "verify via an indexed RPC before re-running, or enable tx_index on the target node"

def isTxNotFound (failure : QueryFailure) : Bool :=
  match failure.rpcData with
  | some data => textHas data "not found"
  | none => false

def isTxIndexingDisabled (sdk : ChainSdk) (failure : QueryFailure) : Bool :=
  match failure.rpcData with
  | some data =>
    textHas (sdk.toLower data) "kveventsink" || textHas (sdk.toLower data) "kv event sink"
  | none => false

/-- What `hex.DecodeString` accepts. -/
def isHex (text : String) : Bool :=
  text.length % 2 == 0 && text.toList.all fun c =>
    c.isDigit || ('a' ≤ c && c ≤ 'f') || ('A' ≤ c && c ≤ 'F')

def ResultTx.response (res : ResultTx) (txHash : String) : TxResponse :=
  { txHash, height := res.height, code := res.code, codespace := res.codespace, data := res.data
    rawLog := res.log, gasWanted := res.gasWanted, gasUsed := res.gasUsed }

def queryTx (sdk : ChainSdk) (txHashHex : String) :
    TxProgram (Except QueryError (Option TxResponse)) :=
  if !isHex txHashHex then
    pure (.error (.other ("decode tx hash " ++ GoText.quote sdk.isPrint txHashHex)))
  else do
    match ← Ask.tx txHashHex with
    | .ok res => pure (.ok (some (res.response txHashHex)))
    | .error failure =>
      if isTxIndexingDisabled sdk failure then
        pure (.error (.indexingDisabled
          ("query /tx?hash=" ++ txHashHex ++ ": " ++ errTxIndexingDisabled)))
      else if isTxNotFound failure then
        pure (.ok none)
      else
        pure (.error (.other ("query /tx?hash=" ++ txHashHex ++ ": " ++ failure.text)))

def pollRound (sdk : ChainSdk) (txHash : String) (deadline interval : Int)
    (again : TxProgram (Except TxError (Option TxResponse))) :
    TxProgram (Except TxError (Option TxResponse)) := do
  match ← Ask.ctxErr with
  | true => pure (.error .cancelled)
  | false =>
    let now ← Ask.now
    if deadline < now then
      pure (.ok none)
    else
      match ← queryTx sdk txHash with
      | .ok (some resp) => pure (.ok (some resp))
      | .error (.indexingDisabled text) => pure (.error (.indexingDisabled text))
      | .ok none | .error (.other _) =>
        match ← Ask.pause interval with
        | true => pure (.error .cancelled)
        | false => again

/-- The rounds of the poll.  Each pauses for the interval, so the last one comes after the
deadline. -/
def pollRounds (sdk : ChainSdk) (txHash : String) (deadline interval : Int) :
    Nat → TxProgram (Except TxError (Option TxResponse))
  | 0 => pollRound sdk txHash deadline interval (pure (.ok none))
  | rounds + 1 =>
    pollRound sdk txHash deadline interval (pollRounds sdk txHash deadline interval rounds)

def pollForInclusion (sdk : ChainSdk) (txHash : String) (timeout interval : Int) :
    TxProgram (Except TxError (Option TxResponse)) := do
  let now ← Ask.now
  pollRounds sdk txHash (now + timeout) interval ((timeout / interval).toNat + 1)

/-! ## Broadcasting -/

def milliseconds (n : Int) : Int := n * 1000000

def inclusionPollTimeout : Int := milliseconds 60000
def inclusionPollInterval : Int := milliseconds 500
def accountNotFoundTimeout : Int := milliseconds 60000
def accountNotFoundPollInterval : Int := milliseconds 1000
def adoptReQueryTimeout : Int := milliseconds 5000

def unverifiableResult (txHash : String) (accNum seq : Nat) (chainID : String) (now : Int) :
    SignAndBroadcastResult :=
  { txHash, accountNumber := accNum, sequence := seq, chainID, broadcastedAt := now
    unverifiable := true }

def resultFromTxResponse (sdk : ChainSdk) (resp : TxResponse) (accNum seq : Nat) (chainID : String)
    (broadcastedAt : Int) (includedAt : Option Int) : SignAndBroadcastResult :=
  { txHash := resp.txHash, height := resp.height, code := resp.code, codespace := resp.codespace
    rawLog := resp.rawLog, gasWanted := resp.gasWanted, gasUsed := resp.gasUsed
    sequence := seq, accountNumber := accNum, chainID, broadcastedAt, includedAt
    proposalID := sdk.parseProposalID resp }

def checkTxRejected (sdk : ChainSdk) (resp : TxResponse) : TxError :=
  .terminal ("checkTx rejected: code=" ++ toString resp.code ++ " codespace="
    ++ GoText.quote sdk.isPrint resp.codespace ++ " log=" ++ resp.rawLog)

def broadcastAndPoll (sdk : ChainSdk) (txBytes : TxBytes) (txHash : String) (accNum seq : Nat)
    (chainID : String) : TxProgram (Except TxError SignAndBroadcastResult) := do
  let broadcastedAt ← Ask.now
  match ← Ask.broadcastSync txBytes with
  | .error _ =>
    pure (.ok { txHash, sequence := seq, accountNumber := accNum, chainID, broadcastedAt })
  | .ok resp =>
    if resp.code ≠ 0 then
      pure (.error (checkTxRejected sdk resp))
    else
      match ← pollForInclusion sdk resp.txHash inclusionPollTimeout inclusionPollInterval with
      | .error (.indexingDisabled _) =>
        let now ← Ask.now
        pure (.ok (unverifiableResult resp.txHash accNum seq chainID now))
      | .error err => pure (.error err)
      | .ok (some included) =>
        let now ← Ask.now
        pure (.ok (resultFromTxResponse sdk included accNum seq chainID broadcastedAt (some now)))
      | .ok none =>
        pure (.ok (resultFromTxResponse sdk resp accNum seq chainID broadcastedAt none))

/-- The re-broadcast was rejected as terminal: look once more before failing. -/
def reQuery (sdk : ChainSdk) (m : TxMarker) (berr : TxError) :
    TxProgram (Except TxError SignAndBroadcastResult) := do
  match ← pollForInclusion sdk m.txHash adoptReQueryTimeout inclusionPollInterval with
  | .ok (some included) =>
    let now ← Ask.now
    pure (.ok (resultFromTxResponse sdk included m.accountNumber m.sequence m.chainID now (some now)))
  | .ok none | .error _ => pure (.error berr)

def adoptMarker (sdk : ChainSdk) (m : TxMarker) :
    TxProgram (Except TxError SignAndBroadcastResult) := do
  match ← queryTx sdk m.txHash with
  | .error (.indexingDisabled _) =>
    let now ← Ask.now
    pure (.ok (unverifiableResult m.txHash m.accountNumber m.sequence m.chainID now))
  | .error (.other _) =>
    let now ← Ask.now
    pure (.ok { txHash := m.txHash, accountNumber := m.accountNumber, sequence := m.sequence
                chainID := m.chainID, broadcastedAt := now })
  | .ok (some resp) =>
    let now ← Ask.now
    pure (.ok (resultFromTxResponse sdk resp m.accountNumber m.sequence m.chainID now (some now)))
  | .ok none =>
    match ← broadcastAndPoll sdk m.txBytes m.txHash m.accountNumber m.sequence m.chainID with
    | .error (.terminal text) => reQuery sdk m (.terminal text)
    | out => pure out

/-! ## Validation -/

def taskIDMemoPrefix : String := "taskID="

def appendTaskIDToMemo (base taskID : String) : String :=
  if taskID = "" then base
  else if base = "" then taskIDMemoPrefix ++ taskID
  else base ++ " " ++ (taskIDMemoPrefix ++ taskID)

def maxMemoBytes : Nat := 256

def validateMemo (sdk : ChainSdk) (memo : String) : Option String :=
  if maxMemoBytes < memo.utf8ByteSize then
    some ("memo length " ++ toString memo.utf8ByteSize ++ " exceeds " ++ toString maxMemoBytes
      ++ " bytes")
  else
    (memo.toList.find? fun r => !sdk.isPrint r).map fun r =>
      "memo contains non-printable character " ++ GoText.unicodeName r

def validateInput (sdk : ChainSdk) (input : SignAndBroadcastInput) : Option String :=
  if input.chainID = "" then some "chainId required"
  else if input.keyName = "" then some "keyName required"
  else
    match input.msg with
    | none => some "msg required"
    | some msg =>
      if input.taskID = "" then some "taskId required (engine should always populate this)"
      else if input.gas = 0 then some "gas required (must be > 0)"
      else if input.fees = "" then some "fees required"
      else
        match validateMemo sdk input.memo with
        | some err => some err
        | none => (sdk.validateBasic msg).map ("msg.ValidateBasic: " ++ ·)

def feeDenom : String := "usei"

def checkFeesDenom (sdk : ChainSdk) (fees : String) : Option String :=
  match sdk.parseCoinsNormalized fees with
  | .error err => some ("parse fees " ++ GoText.quote sdk.isPrint fees ++ ": " ++ err)
  | .ok coins =>
    if coins.isEmpty then
      some ("fees " ++ GoText.quote sdk.isPrint fees ++ " resolves to zero or empty coins")
    else if coins.any fun coin => coin.amount ≤ 0 then
      some ("fees " ++ GoText.quote sdk.isPrint fees ++ " contains non-positive amounts")
    else
      (coins.find? fun coin => coin.denom != feeDenom).map fun coin =>
        "fees " ++ GoText.quote sdk.isPrint fees ++ ": denom " ++ GoText.quote sdk.isPrint coin.denom
          ++ " not permitted (only " ++ GoText.quote sdk.isPrint feeDenom ++ ")"

def guardChainID (sdk : ChainSdk) (cfg : ExecutionConfig) (chainID : String) :
    TxProgram (Option TxError) :=
  if cfg.seiChainID = "" then
    pure (some (.terminal "SEI_CHAIN_ID not set on sidecar; refusing to sign"))
  else if chainID ≠ cfg.seiChainID then
    pure (some (.terminal ("chain mismatch: params.chainId=" ++ GoText.quote sdk.isPrint chainID
      ++ " sidecar.SEI_CHAIN_ID=" ++ GoText.quote sdk.isPrint cfg.seiChainID)))
  else if !cfg.rpc then
    pure (some (.terminal "RPC client not configured; cannot verify chain identity via /status"))
  else do
    match ← Ask.status with
    | .failed err => pure (some (.plain ("query local seid /status: " ++ err)))
    | .undecodable err => pure (some (.plain ("decode /status: " ++ err)))
    | .network name =>
      if name = "" then
        pure (some (.terminal "/status.node_info.network is empty; refusing to sign"))
      else if name ≠ chainID then
        pure (some (.terminal ("chain mismatch: params.chainId=" ++ GoText.quote sdk.isPrint chainID
          ++ " node.network=" ++ GoText.quote sdk.isPrint name)))
      else
        pure none

/-! ## The path -/

def accountRound (fromAddr : String) (deadline : Int)
    (again : String → TxProgram (Except TxError (Nat × Nat))) :
    TxProgram (Except TxError (Nat × Nat)) := do
  match ← Ask.accountNumberSequence fromAddr with
  | .ok found => pure (.ok found)
  | .error err =>
    if !err.notFound then
      pure (.error (.plain err.text))
    else
      let now ← Ask.now
      if deadline ≤ now then
        pure (.error (.plain err.text))
      else
        match ← Ask.pause accountNotFoundPollInterval with
        | true => pure (.error .cancelled)
        | false => again err.text

/-- The rounds of the wait.  Each pauses, so in the last one the deadline has come. -/
def accountRounds (fromAddr : String) (deadline : Int) :
    Nat → TxProgram (Except TxError (Nat × Nat))
  | 0 => accountRound fromAddr deadline fun text => pure (.error (.plain text))
  | rounds + 1 => accountRound fromAddr deadline fun _ => accountRounds fromAddr deadline rounds

def retrieveAccount (fromAddr : String) : TxProgram (Except TxError (Nat × Nat)) := do
  let now ← Ask.now
  accountRounds fromAddr (now + accountNotFoundTimeout)
    (accountNotFoundTimeout / accountNotFoundPollInterval).toNat

/-- An error wrapped with `%w` keeps what its chain holds. -/
def TxError.wrap (context : String) : TxError → TxError
  | .terminal text => .terminal (context ++ ": " ++ text)
  | .indexingDisabled text => .indexingDisabled (context ++ ": " ++ text)
  | .cancelled => .cancelled
  | .plain text => .plain (context ++ ": " ++ text)

def SignError.toTxError : SignError → TxError
  | .build text => .terminal ("build unsigned tx: " ++ text)
  | .sign text => .plain ("sign tx: " ++ text)
  | .encode text => .plain ("encode tx: " ++ text)

def signFresh (sdk : ChainSdk) (cfg : ExecutionConfig) (input : SignAndBroadcastInput)
    (fromAddr : String) : TxProgram (Except TxError SignAndBroadcastResult) := do
  match ← retrieveAccount fromAddr with
  | .error err => pure (.error (err.wrap ("account retrieve " ++ fromAddr)))
  | .ok (accNum, seq) =>
    match ← Ask.signTx ⟨input, accNum, seq⟩ with
    | .error err => pure (.error err.toTxError)
    | .ok txBytes =>
      if cfg.checkpointer && input.taskID ≠ "" then
        match ← Ask.saveTxMarker
          { taskID := input.taskID, txHash := sdk.txHash txBytes, txBytes
            accountNumber := accNum, sequence := seq, chainID := input.chainID } with
        | some err => pure (.error (.plain ("persist tx marker: " ++ err)))
        | none => broadcastAndPoll sdk txBytes (sdk.txHash txBytes) accNum seq input.chainID
      else
        broadcastAndPoll sdk txBytes (sdk.txHash txBytes) accNum seq input.chainID

def adoptOrSign (sdk : ChainSdk) (cfg : ExecutionConfig) (input : SignAndBroadcastInput)
    (fromAddr : String) : TxProgram (Except TxError SignAndBroadcastResult) :=
  if cfg.checkpointer && input.taskID ≠ "" then do
    match ← Ask.getTxMarker input.taskID with
    | .error err => pure (.error (.plain ("read tx marker: " ++ err)))
    | .ok (some marker) => adoptMarker sdk marker
    | .ok none => signFresh sdk cfg input fromAddr
  else
    signFresh sdk cfg input fromAddr

def rejectInput (sdk : ChainSdk) (input : SignAndBroadcastInput) : Option String :=
  if textHas input.memo taskIDMemoPrefix then
    some ("memo must not contain " ++ GoText.quote sdk.isPrint taskIDMemoPrefix
      ++ " (reserved for engine-supplied task tag)")
  else
    (validateInput sdk { input with memo := appendTaskIDToMemo input.memo input.taskID }).or
      (checkFeesDenom sdk input.fees)

def signAndBroadcast (sdk : ChainSdk) (cfg : ExecutionConfig) (input : SignAndBroadcastInput)
    (fromAddr : String) : TxProgram (Except TxError SignAndBroadcastResult) :=
  match rejectInput sdk input with
  | some err => pure (.error (.terminal err))
  | none => do
      match ← guardChainID sdk cfg input.chainID with
      | some err => pure (.error err)
      | none =>
        adoptOrSign sdk cfg { input with memo := appendTaskIDToMemo input.memo input.taskID }
          fromAddr

def signAndBroadcastTask (sdk : ChainSdk) (cfg : ExecutionConfig) (input : SignAndBroadcastInput) :
    TxProgram (Except TxError SignAndBroadcastResult) :=
  if !cfg.keyring then
    pure (.error (.terminal
      "keyring not configured: set SEI_KEYRING_BACKEND/SEI_KEYRING_PASSPHRASE on the sidecar"))
  else do
    match ← Ask.key input.keyName with
    | .error err =>
      pure (.error (.terminal ("keyring entry " ++ GoText.quote sdk.isPrint input.keyName ++ ": "
        ++ err)))
    | .ok fromAddr =>
      match ← Ask.newTxClient with
      | some err => pure (.error (.plain err))
      | none => signAndBroadcast sdk cfg input fromAddr

end SignTx

end SeiController
