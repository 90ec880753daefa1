import SeiController.Sidecar.SignTx

/-!
# What one run of the sign-tx path does

An observer notes what a run has learnt of its task's marker and what the node told it.
Whatever the answers are, the run stores a marker only after it read that there is none,
and broadcasts only the bytes of a marker it read or stored; and its outcome is
determined by the notes as far as a possibly live transaction is concerned.
-/

set_option autoImplicit false

namespace SeiController

namespace SignTx

open Program

/-- What a run knows of its task's marker.  After a failed store the row may or may not
have been written. -/
inductive Known
  | unread
  | absent
  | stored (m : TxMarker)
  | unsure
deriving DecidableEq

structure Notes where
  known : Known := .unread
  /-- Every answer so far was one of those assumed of the surroundings. -/
  trusted : Bool := true
  /-- The node rejected the broadcast. -/
  rejected : Bool := false
  /-- The index has answered with the transaction since. -/
  found : Bool := false
deriving DecidableEq

/-- The answers assumed: the keyring and the marker store give no error, the node is on the
configured chain, and an accepted broadcast is reported under the hash of its bytes. -/
def answered (sdk : ChainSdk) (cfg : ExecutionConfig) : (op : TxOp) → TxReply op → Bool
  | .key _, Except.error _ => false
  | .newTxClient, Option.some _ => false
  | .status, StatusReply.network name => name == cfg.seiChainID
  | .status, _ => false
  | .getTxMarker _, Except.error _ => false
  | .broadcastSync txBytes, Except.ok resp => resp.txHash == sdk.txHash txBytes
  | _, _ => true

namespace Notes

def learn (notes : Notes) : (op : TxOp) → TxReply op → Notes
  | .getTxMarker _, Except.ok (some m) => { notes with known := .stored m }
  | .getTxMarker _, Except.ok none => { notes with known := .absent }
  | .saveTxMarker m, Option.none => { notes with known := .stored m }
  | .saveTxMarker _, Option.some _ => { notes with known := .unsure }
  | .broadcastSync _, Except.ok resp =>
    if resp.code = 0 then notes else { notes with rejected := true, found := false }
  | .tx _, Except.ok _ => { notes with found := true }
  | _, _ => notes

def after (sdk : ChainSdk) (cfg : ExecutionConfig) (notes : Notes) (op : TxOp) (reply : TxReply op) :
    Notes :=
  bif answered sdk cfg op reply then notes.learn op reply
  else { notes.learn op reply with trusted := false }

/-- The index answered, and may have answered with the transaction. -/
def queried {ε : Type} (notes : Notes) : Except ε (Option TxResponse) → Notes
  | .ok (some _) => { notes with found := true }
  | _ => notes

end Notes

/-- The order the path keeps between reading, storing and broadcasting. -/
def watch (sdk : ChainSdk) (cfg : ExecutionConfig) (taskID : String) : Monitor TxOp TxReply Notes where
  may notes op :=
    match op with
    | .saveTxMarker m =>
      m.taskID = taskID ∧ m.txHash = sdk.txHash m.txBytes ∧ notes.known = .absent
    | .getTxMarker id => id = taskID
    | .broadcastSync txBytes => ∃ m, notes.known = .stored m ∧ m.txBytes = txBytes
    | _ => True
  after notes op reply := notes.after sdk cfg op reply

/-- The request passes every check the path makes before it reads the marker, on a node of
the configured chain. -/
def Acceptable (sdk : ChainSdk) (cfg : ExecutionConfig) (input : SignAndBroadcastInput) : Prop :=
  cfg.keyring = true ∧ cfg.rpc = true ∧ cfg.seiChainID ≠ "" ∧ input.chainID = cfg.seiChainID ∧
    rejectInput sdk input = none

instance (sdk : ChainSdk) (cfg : ExecutionConfig) (input : SignAndBroadcastInput) :
    Decidable (Acceptable sdk cfg input) := by
  unfold Acceptable
  infer_instance

def Settles (sdk : ChainSdk) (cfg : ExecutionConfig) (input : SignAndBroadcastInput) (notes : Notes) :
    Except TxError SignAndBroadcastResult → Prop
  | .ok result => notes.trusted = true →
      ∃ m, notes.known = .stored m ∧ (m.txHash = sdk.txHash m.txBytes → result.txHash = m.txHash)
  | .error err => err = .cancelled ∨ notes.trusted = false ∨
      notes.known = .unread ∧ ¬Acceptable sdk cfg input ∨ notes.known = .absent ∨
      notes.known = .unsure ∨ notes.rejected = true ∧ notes.found = false

section Walk

variable {sdk : ChainSdk} {cfg : ExecutionConfig} {taskID : String} {notes : Notes} {α : Type}
  {post : Notes → α → Prop}

/-! ## Questions that teach nothing -/

theorem follows_now {rest : Int → TxProgram α}
    (later : ∀ t, Follows (watch sdk cfg taskID) post notes (rest t)) :
    Follows (watch sdk cfg taskID) post notes (Ask.now >>= rest) :=
  ⟨trivial, later⟩

theorem follows_ctxErr {rest : Bool → TxProgram α}
    (later : ∀ ended, Follows (watch sdk cfg taskID) post notes (rest ended)) :
    Follows (watch sdk cfg taskID) post notes (Ask.ctxErr >>= rest) :=
  ⟨trivial, later⟩

theorem follows_pause {interval : Int} {rest : Bool → TxProgram α}
    (later : ∀ ended, Follows (watch sdk cfg taskID) post notes (rest ended)) :
    Follows (watch sdk cfg taskID) post notes (Ask.pause interval >>= rest) :=
  ⟨trivial, later⟩

theorem follows_account {fromAddr : String} {rest : Except AccountError (Nat × Nat) → TxProgram α}
    (later : ∀ reply, Follows (watch sdk cfg taskID) post notes (rest reply)) :
    Follows (watch sdk cfg taskID) post notes (Ask.accountNumberSequence fromAddr >>= rest) :=
  ⟨trivial, later⟩

theorem follows_signTx {request : SignRequest} {rest : Except SignError TxBytes → TxProgram α}
    (later : ∀ reply, Follows (watch sdk cfg taskID) post notes (rest reply)) :
    Follows (watch sdk cfg taskID) post notes (Ask.signTx request >>= rest) :=
  ⟨trivial, later⟩

/-! ## Questions that teach something -/

theorem follows_tx {txHash : String} {rest : Except QueryFailure ResultTx → TxProgram α}
    (later : ∀ reply : Except QueryFailure ResultTx,
      Follows (watch sdk cfg taskID) post (notes.after sdk cfg (.tx txHash) reply) (rest reply)) :
    Follows (watch sdk cfg taskID) post notes (Ask.tx txHash >>= rest) :=
  ⟨trivial, later⟩

theorem follows_broadcastSync {m : TxMarker} {rest : Except String TxResponse → TxProgram α}
    (known : notes.known = .stored m)
    (later : ∀ reply : Except String TxResponse, Follows (watch sdk cfg taskID) post
      (notes.after sdk cfg (.broadcastSync m.txBytes) reply) (rest reply)) :
    Follows (watch sdk cfg taskID) post notes (Ask.broadcastSync m.txBytes >>= rest) :=
  ⟨⟨m, known, rfl⟩, later⟩

theorem follows_saveTxMarker {m : TxMarker} {rest : Option String → TxProgram α}
    (own : m.taskID = taskID) (sound : m.txHash = sdk.txHash m.txBytes)
    (absent : notes.known = .absent)
    (failed : ∀ err, Follows (watch sdk cfg taskID) post { notes with known := .unsure }
      (rest (some err)))
    (saved : Follows (watch sdk cfg taskID) post { notes with known := .stored m } (rest none)) :
    Follows (watch sdk cfg taskID) post notes (Ask.saveTxMarker m >>= rest) := by
  refine ⟨⟨own, sound, absent⟩, fun reply => ?_⟩
  change Option String at reply
  cases reply with
  | none => exact saved
  | some err => exact failed err

theorem follows_getTxMarker {rest : Except String (Option TxMarker) → TxProgram α}
    (failed : ∀ err, Follows (watch sdk cfg taskID) post { notes with trusted := false }
      (rest (.error err)))
    (absent : Follows (watch sdk cfg taskID) post { notes with known := .absent } (rest (.ok none)))
    (stored : ∀ m, Follows (watch sdk cfg taskID) post { notes with known := .stored m }
      (rest (.ok (some m)))) :
    Follows (watch sdk cfg taskID) post notes (Ask.getTxMarker taskID >>= rest) := by
  refine ⟨rfl, fun reply => ?_⟩
  change Except String (Option TxMarker) at reply
  match reply with
  | .error err => exact failed err
  | .ok none => exact absent
  | .ok (some m) => exact stored m

theorem follows_key {keyName : String} {rest : Except String String → TxProgram α}
    (failed : ∀ err, Follows (watch sdk cfg taskID) post { notes with trusted := false }
      (rest (.error err)))
    (found : ∀ address, Follows (watch sdk cfg taskID) post notes (rest (.ok address))) :
    Follows (watch sdk cfg taskID) post notes (Ask.key keyName >>= rest) := by
  refine ⟨trivial, fun reply => ?_⟩
  change Except String String at reply
  cases reply with
  | error err => exact failed err
  | ok address => exact found address

theorem follows_newTxClient {rest : Option String → TxProgram α}
    (failed : ∀ err, Follows (watch sdk cfg taskID) post { notes with trusted := false }
      (rest (some err)))
    (built : Follows (watch sdk cfg taskID) post notes (rest none)) :
    Follows (watch sdk cfg taskID) post notes (Ask.newTxClient >>= rest) := by
  refine ⟨trivial, fun reply => ?_⟩
  change Option String at reply
  cases reply with
  | some err => exact failed err
  | none => exact built

theorem follows_status {rest : StatusReply → TxProgram α}
    (other : ∀ reply, reply ≠ .network cfg.seiChainID →
      Follows (watch sdk cfg taskID) post { notes with trusted := false } (rest reply))
    (same : Follows (watch sdk cfg taskID) post notes (rest (.network cfg.seiChainID))) :
    Follows (watch sdk cfg taskID) post notes (Ask.status >>= rest) := by
  refine ⟨trivial, fun reply => ?_⟩
  change StatusReply at reply
  by_cases expected : reply = .network cfg.seiChainID
  · subst expected
    have known : notes.after sdk cfg .status (StatusReply.network cfg.seiChainID) = notes := by
      simp [Notes.after, answered, Notes.learn]
    change Follows _ post (notes.after sdk cfg .status _) _
    rw [known]
    exact same
  · have doubted : notes.after sdk cfg .status reply = { notes with trusted := false } := by
      cases reply with
      | failed err => rfl
      | undecodable err => rfl
      | network name =>
        have differs : (name == cfg.seiChainID) = false := by
          apply beq_eq_false_iff_ne.mpr
          rintro rfl
          exact expected rfl
        simp [Notes.after, answered, Notes.learn, differs]
    change Follows _ post (notes.after sdk cfg .status reply) _
    rw [doubted]
    exact other reply expected

/-! ## The index -/

theorem queryTx_follows (txHash : String) :
    Follows (watch sdk cfg taskID)
      (fun now value => now = notes.queried value ∧
        ∀ resp, value = .ok (some resp) → resp.txHash = txHash)
      notes (queryTx sdk txHash) := by
  unfold queryTx
  split
  · exact ⟨rfl, by intro resp never; cases never⟩
  · apply follows_tx
    intro reply
    cases reply with
    | ok res =>
      refine ⟨rfl, ?_⟩
      intro resp same
      cases same
      rfl
    | error failure =>
      dsimp only
      split
      · exact ⟨rfl, by intro resp never; cases never⟩
      · split
        · exact ⟨rfl, by intro resp never; cases never⟩
        · exact ⟨rfl, by intro resp never; cases never⟩

def Polled (notes : Notes) (txHash : String) (now : Notes) (value : Except TxError (Option TxResponse)) :
    Prop :=
  now = notes.queried value ∧ (∀ resp, value = .ok (some resp) → resp.txHash = txHash) ∧
    ∀ err, value = .error err → err = .cancelled ∨ ∃ text, err = .indexingDisabled text

theorem polled_none (txHash : String) : Polled notes txHash notes (.ok none) :=
  ⟨rfl, (by intro resp never; cases never), by intro err never; cases never⟩

theorem polled_cancelled (txHash : String) : Polled notes txHash notes (.error .cancelled) :=
  ⟨rfl, (by intro resp never; cases never), by intro err same; cases same; exact .inl rfl⟩

theorem pollRound_follows (txHash : String) (deadline interval : Int)
    {again : TxProgram (Except TxError (Option TxResponse))}
    (later : Follows (watch sdk cfg taskID) (Polled notes txHash) notes again) :
    Follows (watch sdk cfg taskID) (Polled notes txHash) notes
      (pollRound sdk txHash deadline interval again) := by
  unfold pollRound
  apply follows_ctxErr
  intro ended
  cases ended with
  | true => exact polled_cancelled txHash
  | false =>
    apply follows_now
    intro t
    split
    · exact polled_none txHash
    · apply Follows.bind (queryTx_follows txHash)
      rintro now value ⟨rfl, named⟩
      match value with
      | .ok (some resp) =>
        refine ⟨rfl, ?_, by intro err never; cases never⟩
        intro resp' same
        cases same
        exact named resp rfl
      | .error (.indexingDisabled text) =>
        refine ⟨rfl, (by intro resp never; cases never), ?_⟩
        intro err same
        cases same
        exact .inr ⟨text, rfl⟩
      | .ok none | .error (.other _) =>
        apply follows_pause
        intro ended
        cases ended with
        | true => exact polled_cancelled txHash
        | false => exact later

theorem pollRounds_follows (txHash : String) (deadline interval : Int) (rounds : Nat) :
    Follows (watch sdk cfg taskID) (Polled notes txHash) notes
      (pollRounds sdk txHash deadline interval rounds) := by
  induction rounds with
  | zero => exact pollRound_follows txHash deadline interval (polled_none txHash)
  | succ rounds ih => exact pollRound_follows txHash deadline interval ih

theorem pollForInclusion_follows (txHash : String) (timeout interval : Int) :
    Follows (watch sdk cfg taskID) (Polled notes txHash) notes
      (pollForInclusion sdk txHash timeout interval) :=
  follows_now fun _ => pollRounds_follows txHash _ interval _

/-! ## Broadcasting the stored bytes -/

def Broadcasted (sdk : ChainSdk) (m : TxMarker) (now : Notes) :
    Except TxError SignAndBroadcastResult → Prop
  | .ok result => now.known = .stored m ∧
      (now.trusted = true → m.txHash = sdk.txHash m.txBytes → result.txHash = m.txHash)
  | .error (.terminal _) => now.known = .stored m ∧ now.rejected = true ∧ now.found = false
  | .error err => now.known = .stored m ∧ err = .cancelled

theorem broadcastAndPoll_follows {m : TxMarker} (known : notes.known = .stored m) (accNum seq : Nat)
    (chainID : String) :
    Follows (watch sdk cfg taskID) (Broadcasted sdk m) notes
      (broadcastAndPoll sdk m.txBytes m.txHash accNum seq chainID) := by
  unfold broadcastAndPoll
  apply follows_now
  intro broadcastedAt
  apply follows_broadcastSync known
  intro reply
  cases reply with
  | error err => exact ⟨known, fun _ _ => rfl⟩
  | ok resp =>
    -- an honest node reports the hash of the bytes it was given
    have hash : (notes.after sdk cfg (.broadcastSync m.txBytes) (Except.ok resp)).trusted = true →
        m.txHash = sdk.txHash m.txBytes → resp.txHash = m.txHash := by
      intro trusted sound
      have honest : answered sdk cfg (.broadcastSync m.txBytes) (Except.ok resp) = true := by
        cases answer : answered sdk cfg (.broadcastSync m.txBytes) (Except.ok resp) with
        | true => rfl
        | false => simp [Notes.after, answer] at trusted
      rw [sound]
      exact beq_iff_eq.mp honest
    dsimp only
    split
    next rejected =>
      refine ⟨?_, ?_, ?_⟩ <;>
        · simp only [Notes.after, Notes.learn, rejected, if_false]
          cases answered sdk cfg (.broadcastSync m.txBytes) (Except.ok resp) <;> simp [known]
    next zero =>
      have code : resp.code = 0 := not_not.mp zero
      have after : (notes.after sdk cfg (.broadcastSync m.txBytes) (Except.ok resp)).known
          = .stored m := by
        simp only [Notes.after, Notes.learn, code, if_true]
        cases answered sdk cfg (.broadcastSync m.txBytes) (Except.ok resp) <;> simp [known]
      apply Follows.bind (pollForInclusion_follows resp.txHash _ _)
      rintro now value ⟨rfl, named, errors⟩
      match value with
      | .error (.indexingDisabled text) =>
        apply follows_now
        exact fun t => ⟨after, hash⟩
      | .error (.terminal text) =>
        rcases errors _ rfl with never | ⟨text, never⟩ <;> cases never
      | .error (.plain text) =>
        rcases errors _ rfl with never | ⟨text, never⟩ <;> cases never
      | .error .cancelled => exact ⟨after, rfl⟩
      | .ok (some included) =>
        apply follows_now
        intro t
        refine ⟨after, fun trusted sound => ?_⟩
        exact (named included rfl).trans (hash trusted sound)
      | .ok none => exact ⟨after, hash⟩

variable {input : SignAndBroadcastInput}

theorem reQuery_follows {m : TxMarker} (known : notes.known = .stored m)
    (rejected : notes.rejected = true) (missing : notes.found = false) (berr : TxError) :
    Follows (watch sdk cfg taskID) (Settles sdk cfg input) notes (reQuery sdk m berr) := by
  unfold reQuery
  apply Follows.bind (pollForInclusion_follows m.txHash _ _)
  rintro now value ⟨rfl, named, -⟩
  match value with
  | .ok (some included) =>
    apply follows_now
    intro t trusted
    exact ⟨m, known, fun _ => named included rfl⟩
  | .ok none | .error _ =>
    exact .inr (.inr (.inr (.inr (.inr ⟨rejected, missing⟩))))

theorem adoptMarker_follows {m : TxMarker} (known : notes.known = .stored m) :
    Follows (watch sdk cfg taskID) (Settles sdk cfg input) notes (adoptMarker sdk m) := by
  unfold adoptMarker
  apply Follows.bind (queryTx_follows m.txHash)
  rintro now value ⟨rfl, named⟩
  match value with
  | .error (.indexingDisabled text) =>
    apply follows_now
    exact fun t trusted => ⟨m, known, fun _ => rfl⟩
  | .error (.other text) =>
    apply follows_now
    exact fun t trusted => ⟨m, known, fun _ => rfl⟩
  | .ok (some resp) =>
    apply follows_now
    exact fun t trusted => ⟨m, known, fun _ => named resp rfl⟩
  | .ok none =>
    apply Follows.bind (broadcastAndPoll_follows known _ _ _)
    intro now outcome broadcasted
    match outcome with
    | .error (.terminal text) =>
      exact reQuery_follows broadcasted.1 broadcasted.2.1 broadcasted.2.2 _
    | .ok result => exact fun trusted => ⟨m, broadcasted.1, broadcasted.2 trusted⟩
    | .error (.indexingDisabled text) => exact .inl broadcasted.2
    | .error (.plain text) => exact .inl broadcasted.2
    | .error .cancelled => exact .inl rfl

/-! ## Signing anew -/

theorem accountRound_follows (fromAddr : String) (deadline : Int)
    {again : String → TxProgram (Except TxError (Nat × Nat))}
    (later : ∀ text, Follows (watch sdk cfg taskID) (fun now _ => now = notes) notes (again text)) :
    Follows (watch sdk cfg taskID) (fun now _ => now = notes) notes
      (accountRound fromAddr deadline again) := by
  unfold accountRound
  apply follows_account
  intro reply
  cases reply with
  | ok found => rfl
  | error err =>
    dsimp only
    split
    · rfl
    · apply follows_now
      intro t
      split
      · rfl
      · apply follows_pause
        intro ended
        cases ended with
        | true => rfl
        | false => exact later err.text

theorem accountRounds_follows (fromAddr : String) (deadline : Int) (rounds : Nat) :
    Follows (watch sdk cfg taskID) (fun now _ => now = notes) notes
      (accountRounds fromAddr deadline rounds) := by
  induction rounds with
  | zero => exact accountRound_follows fromAddr deadline fun _ => rfl
  | succ rounds ih => exact accountRound_follows fromAddr deadline fun _ => ih

theorem retrieveAccount_follows (fromAddr : String) :
    Follows (watch sdk cfg taskID) (fun now _ => now = notes) notes (retrieveAccount fromAddr) :=
  follows_now fun _ => accountRounds_follows fromAddr _ _

theorem signFresh_follows (configured : cfg.checkpointer = true) (named : input.taskID ≠ "")
    (absent : notes.known = .absent) (fromAddr : String) {original : SignAndBroadcastInput} :
    Follows (watch sdk cfg input.taskID) (Settles sdk cfg original) notes
      (signFresh sdk cfg input fromAddr) := by
  have unsigned : ∀ err, Settles sdk cfg original notes (.error err) := fun err =>
    .inr (.inr (.inr (.inl absent)))
  unfold signFresh
  apply Follows.bind (retrieveAccount_follows fromAddr)
  rintro now account rfl
  match account with
  | .error err => exact unsigned _
  | .ok (accNum, seq) =>
    apply follows_signTx
    intro reply
    cases reply with
    | error err => exact unsigned _
    | ok txBytes =>
      dsimp only
      rw [if_pos (by simp [configured, named])]
      apply follows_saveTxMarker rfl rfl absent
      · exact fun err => .inr (.inr (.inr (.inr (.inl rfl))))
      · let m : TxMarker := ⟨input.taskID, sdk.txHash txBytes, txBytes, accNum, seq, input.chainID⟩
        have stored : { now with known := .stored m }.known = .stored m := rfl
        refine (broadcastAndPoll_follows stored accNum seq input.chainID).mono ?_
        intro now outcome broadcasted
        match outcome with
        | .ok result => exact fun trusted => ⟨m, broadcasted.1, broadcasted.2 trusted⟩
        | .error (.terminal text) => exact .inr (.inr (.inr (.inr (.inr broadcasted.2))))
        | .error (.indexingDisabled text) => exact .inl broadcasted.2
        | .error (.plain text) => exact .inl broadcasted.2
        | .error .cancelled => exact .inl rfl

/-! ## The whole path -/

theorem rejectInput_taskID (accepted : rejectInput sdk input = none) : input.taskID ≠ "" := by
  intro empty
  unfold rejectInput at accepted
  split at accepted
  · cases accepted
  · have valid := (Option.or_eq_none_iff.mp accepted).1
    unfold validateInput at valid
    simp [empty] at valid
    grind

theorem adoptOrSign_follows (configured : cfg.checkpointer = true) (named : input.taskID ≠ "")
    (fromAddr : String) {original : SignAndBroadcastInput} :
    Follows (watch sdk cfg input.taskID) (Settles sdk cfg original) notes
      (adoptOrSign sdk cfg input fromAddr) := by
  unfold adoptOrSign
  rw [if_pos (by simp [configured, named])]
  apply follows_getTxMarker
  · exact fun err => .inr (.inl rfl)
  · exact signFresh_follows configured named rfl fromAddr
  · exact fun m => adoptMarker_follows rfl

theorem guardChainID_follows (chainID : String) :
    Follows (watch sdk cfg taskID)
      (fun now refused => now.known = notes.known ∧ ∀ err, refused = some err →
        now.trusted = false ∨ ¬(cfg.rpc = true ∧ cfg.seiChainID ≠ "" ∧ chainID = cfg.seiChainID))
      notes (guardChainID sdk cfg chainID) := by
  unfold guardChainID
  split
  next unset => exact ⟨rfl, fun err _ => .inr fun accepts => accepts.2.1 unset⟩
  next set =>
    split
    next mismatch => exact ⟨rfl, fun err _ => .inr fun accepts => mismatch accepts.2.2⟩
    next same =>
      split
      next noClient =>
        exact ⟨rfl, fun err _ => .inr fun accepts => by simp [accepts.1] at noClient⟩
      next =>
        apply follows_status
        · intro reply _
          have refused : ∀ value : Option TxError, Follows (watch sdk cfg taskID)
              (fun now refused => now.known = notes.known ∧ ∀ err, refused = some err →
                now.trusted = false ∨
                  ¬(cfg.rpc = true ∧ cfg.seiChainID ≠ "" ∧ chainID = cfg.seiChainID))
              { notes with trusted := false } (pure value : TxProgram (Option TxError)) :=
            fun value => ⟨rfl, fun err _ => .inl rfl⟩
          cases reply with
          | failed err => exact refused _
          | undecodable err => exact refused _
          | network name =>
            dsimp only
            split
            · exact refused _
            · split
              · exact refused _
              · exact refused _
        · have chain : chainID = cfg.seiChainID := not_not.mp same
          dsimp only
          rw [if_neg set, if_neg (not_not.mpr chain.symm)]
          exact ⟨rfl, by intro err never; cases never⟩

theorem signAndBroadcast_follows (configured : cfg.checkpointer = true)
    (unread : notes.known = .unread) (fromAddr : String) :
    Follows (watch sdk cfg input.taskID) (Settles sdk cfg input) notes
      (signAndBroadcast sdk cfg input fromAddr) := by
  unfold signAndBroadcast
  cases checked : rejectInput sdk input with
  | some err =>
    refine .inr (.inr (.inl ⟨unread, fun accepted => ?_⟩))
    rw [accepted.2.2.2.2] at checked
    cases checked
  | none =>
    apply Follows.bind (guardChainID_follows input.chainID)
    rintro now refused ⟨known, guarded⟩
    cases refused with
    | some err =>
      rcases guarded err rfl with doubted | mismatch
      · exact .inr (.inl doubted)
      · refine .inr (.inr (.inl ⟨known.trans unread, fun accepted => mismatch ?_⟩))
        exact ⟨accepted.2.1, accepted.2.2.1, accepted.2.2.2.1⟩
    | none =>
      have named : { input with memo := appendTaskIDToMemo input.memo input.taskID }.taskID ≠ "" :=
        (rejectInput_taskID checked :)
      exact adoptOrSign_follows configured named fromAddr

theorem signAndBroadcastTask_follows (configured : cfg.checkpointer = true)
    (unread : notes.known = .unread) :
    Follows (watch sdk cfg input.taskID) (Settles sdk cfg input) notes
      (signAndBroadcastTask sdk cfg input) := by
  unfold signAndBroadcastTask
  split
  next noKeyring =>
    refine .inr (.inr (.inl ⟨unread, fun accepted => ?_⟩))
    simp [accepted.1] at noKeyring
  next =>
    apply follows_key
    · exact fun err => .inr (.inl rfl)
    · intro fromAddr
      apply follows_newTxClient
      · exact fun err => .inr (.inl rfl)
      · exact signAndBroadcast_follows configured unread fromAddr

end Walk

end SignTx

end SeiController
