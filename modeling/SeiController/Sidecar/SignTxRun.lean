import SeiController.Lib.System
import SeiController.Sidecar.SignTxNotes
import Mathlib.Logic.Function.Basic

/-!
# Runs of the sign-tx path over crashes

Any number of tasks run at the same time, the runs of one task ID one after another.
Between two answers a run may be lost to a crash, also in the middle of a call, and the
task may be run again with any request.  The marker store survives; a store that fails
may have written its row.  The chain answers what it likes.
-/

set_option autoImplicit false

namespace SeiController

namespace SignTx

open Program

/-- A run of one task: its request, the answers it has had, oldest first, and what is left
of it. -/
structure TxRun where
  input : SignAndBroadcastInput
  answers : List ((op : TxOp) × TxReply op)
  remaining : TxProgram (Except TxError SignAndBroadcastResult)

inductive TxEvent
  /-- A call, its answer unless the run was lost in it, and the marker stored for the task
  when the call was made. -/
  | called (taskID : String) (op : TxOp) (reply : Option (TxReply op)) (marker : Option TxMarker)
  | returned (taskID : String) (outcome : Except TxError SignAndBroadcastResult)

structure TxWorld where
  markers : String → Option TxMarker
  runs : String → Option TxRun
  /-- What happened so far, newest first. -/
  log : List TxEvent

inductive TxAction
  | start (input : SignAndBroadcastInput)
  | answer (taskID : String) (op : TxOp) (reply : TxReply op)
  | finish (taskID : String)

def saveMarker (markers : String → Option TxMarker) (m : TxMarker) : String → Option TxMarker :=
  Function.update markers m.taskID (some m)

/-- The marker store serves a call: a read answers with what is stored, a store that reports
success has written its row, and one that fails or is cut off may have. -/
def Served (markers : String → Option TxMarker) :
    (op : TxOp) → Option (TxReply op) → (String → Option TxMarker) → Prop
  | .getTxMarker taskID, some (Except.ok found), after => after = markers ∧ found = markers taskID
  | .saveTxMarker m, some Option.none, after => after = saveMarker markers m
  | .saveTxMarker m, _, after => after = markers ∨ after = saveMarker markers m
  | _, _, after => after = markers

variable (sdk : ChainSdk) (cfg : ExecutionConfig)

inductive TxWorld.Step (allowed : TxWorld → TxAction → Prop) : TxWorld → TxWorld → Prop
  | start {world : TxWorld} (input : SignAndBroadcastInput)
      (idle : world.runs input.taskID = none) (chosen : allowed world (.start input)) :
      Step allowed world { world with
        runs := Function.update world.runs input.taskID
          (some ⟨input, [], signAndBroadcastTask sdk cfg input⟩) }
  | answer {world : TxWorld} {taskID : String} {run : TxRun} {op : TxOp}
      {next : TxReply op → TxProgram (Except TxError SignAndBroadcastResult)} (reply : TxReply op)
      {markers : String → Option TxMarker} (running : world.runs taskID = some run)
      (calls : run.remaining = .call op next)
      (served : Served world.markers op (some reply) markers)
      (chosen : allowed world (.answer taskID op reply)) :
      Step allowed world
        { markers
          runs := Function.update world.runs taskID (some
            { run with answers := run.answers ++ [⟨op, reply⟩], remaining := next reply })
          log := .called taskID op (some reply) (world.markers taskID) :: world.log }
  | crash {world : TxWorld} (taskID : String) :
      Step allowed world { world with runs := Function.update world.runs taskID none }
  | crashIn {world : TxWorld} {taskID : String} {run : TxRun} {op : TxOp}
      {next : TxReply op → TxProgram (Except TxError SignAndBroadcastResult)}
      {markers : String → Option TxMarker} (running : world.runs taskID = some run)
      (calls : run.remaining = .call op next) (served : Served world.markers op none markers) :
      Step allowed world
        { markers
          runs := Function.update world.runs taskID none
          log := .called taskID op none (world.markers taskID) :: world.log }
  | finish {world : TxWorld} {taskID : String} {run : TxRun}
      {outcome : Except TxError SignAndBroadcastResult} (running : world.runs taskID = some run)
      (ended : run.remaining = .done outcome) (chosen : allowed world (.finish taskID)) :
      Step allowed world
        { world with
          runs := Function.update world.runs taskID none
          log := .returned taskID outcome :: world.log }

def TxWorld.Fresh (world : TxWorld) : Prop :=
  (∀ taskID, world.markers taskID = none) ∧ (∀ taskID, world.runs taskID = none) ∧ world.log = []

/-- The states the tasks can reach, with the choices made as `allowed` says. -/
def TxWorld.Reached (allowed : TxWorld → TxAction → Prop) (world : TxWorld) : Prop :=
  Reachable TxWorld.Fresh (TxWorld.Step sdk cfg allowed) world

def Broadcast (log : List TxEvent) (taskID : String) (txBytes : TxBytes) (marker : Option TxMarker) :
    Prop :=
  ∃ reply, .called taskID (.broadcastSync txBytes) reply marker ∈ log

/-- The node accepted the broadcast, or nothing is known of it. -/
def possiblyLive : Option (Except String TxResponse) → Bool
  | some (.ok resp) => resp.code == 0
  | some (.error _) => true
  | none => true

/-- A broadcast for the task was accepted, met a transport error, or was cut off. -/
def Live (log : List TxEvent) (taskID : String) : Prop :=
  ∃ txBytes reply marker, .called taskID (.broadcastSync txBytes) reply marker ∈ log ∧
    possiblyLive reply = true

def TxRun.notes (run : TxRun) : Notes :=
  run.answers.foldl (fun notes answer => notes.after sdk cfg answer.1 answer.2) {}

/-! ## The invariant -/

def Tied (world : TxWorld) (taskID : String) : Known → Prop
  | .unread => True
  | .absent => world.markers taskID = none
  | .stored m => world.markers taskID = some m
  | .unsure => ¬Live world.log taskID

structure TxInv (world : TxWorld) : Prop where
  sound : ∀ taskID m, world.markers taskID = some m → m.txHash = sdk.txHash m.txBytes
  backed : ∀ taskID txBytes marker, Broadcast world.log taskID txBytes marker →
    ∃ m, marker = some m ∧ m.txBytes = txBytes ∧ world.markers taskID = some m
  tied : ∀ taskID run, world.runs taskID = some run →
    Tied world taskID (run.notes sdk cfg).known
  follows : ∀ taskID run, world.runs taskID = some run →
    Follows (watch sdk cfg taskID) (Settles sdk cfg run.input) (run.notes sdk cfg) run.remaining

section Invariant

variable {sdk cfg}
variable {allowed : TxWorld → TxAction → Prop} {world : TxWorld}

theorem TxRun.notes_answer (run : TxRun) (op : TxOp) (reply : TxReply op)
    (remaining : TxProgram (Except TxError SignAndBroadcastResult)) :
    TxRun.notes sdk cfg { run with answers := run.answers ++ [⟨op, reply⟩], remaining }
      = (run.notes sdk cfg).after sdk cfg op reply := by
  simp [TxRun.notes]

theorem Live.broadcast {log : List TxEvent} {taskID : String} (live : Live log taskID) :
    ∃ txBytes marker, Broadcast log taskID txBytes marker := by
  obtain ⟨txBytes, reply, marker, called, -⟩ := live
  exact ⟨txBytes, marker, reply, called⟩

theorem Live.cons {log : List TxEvent} {taskID : String} (live : Live log taskID) (event : TxEvent) :
    Live (event :: log) taskID := by
  obtain ⟨txBytes, reply, marker, called, live⟩ := live
  exact ⟨txBytes, reply, marker, List.mem_cons_of_mem _ called, live⟩

theorem TxInv.marked (inv : TxInv sdk cfg world) {taskID : String} (live : Live world.log taskID) :
    ∃ m, world.markers taskID = some m := by
  obtain ⟨txBytes, marker, broadcast⟩ := live.broadcast
  obtain ⟨m, -, -, stored⟩ := inv.backed taskID txBytes marker broadcast
  exact ⟨m, stored⟩

theorem broadcast_other {event : TxEvent} {log : List TxEvent} {taskID : String}
    (other : ∀ op reply marker, event ≠ .called taskID op reply marker) {txBytes : TxBytes}
    {marker : Option TxMarker} :
    Broadcast (event :: log) taskID txBytes marker ↔ Broadcast log taskID txBytes marker := by
  constructor
  · rintro ⟨reply, called⟩
    rcases List.mem_cons.mp called with same | called
    · exact absurd same.symm (other _ _ _)
    · exact ⟨reply, called⟩
  · rintro ⟨reply, called⟩
    exact ⟨reply, List.mem_cons_of_mem _ called⟩

theorem live_other {event : TxEvent} {log : List TxEvent} {taskID : String}
    (other : ∀ txBytes reply marker, event ≠ .called taskID (.broadcastSync txBytes) reply marker) :
    Live (event :: log) taskID ↔ Live log taskID := by
  constructor
  · rintro ⟨txBytes, reply, marker, called, live⟩
    rcases List.mem_cons.mp called with same | called
    · exact absurd same.symm (other _ _ _)
    · exact ⟨txBytes, reply, marker, called, live⟩
  · exact fun live => live.cons event

/-! ## A call -/

/-- What a permitted call does to the stored markers: those of other tasks stay, one that is
there stays, and a new one is sound. -/
structure Keeps (sdk : ChainSdk) (taskID : String) (before after : String → Option TxMarker) :
    Prop where
  others : ∀ other, other ≠ taskID → after other = before other
  kept : ∀ m, before taskID = some m → after taskID = some m
  sound : ∀ m, after taskID = some m → before taskID = some m ∨ m.txHash = sdk.txHash m.txBytes

theorem Keeps.refl (taskID : String) (markers : String → Option TxMarker) :
    Keeps sdk taskID markers markers :=
  ⟨fun _ _ => rfl, fun _ stored => stored, fun _ stored => .inl stored⟩

theorem Keeps.saved {m : TxMarker} {markers : String → Option TxMarker}
    (sound : m.txHash = sdk.txHash m.txBytes) (absent : markers m.taskID = none) :
    Keeps sdk m.taskID markers (saveMarker markers m) where
  others other different := Function.update_of_ne different _ _
  kept m' stored := by
    rw [absent] at stored
    cases stored
  sound m' stored := by
    rw [saveMarker, Function.update_self] at stored
    cases stored
    exact .inr sound

theorem Served.cases {markers after : String → Option TxMarker} {op : TxOp}
    {reply : Option (TxReply op)} (served : Served markers op reply after) :
    after = markers ∨ ∃ m, op = .saveTxMarker m ∧ after = saveMarker markers m := by
  cases op with
  | saveTxMarker m =>
    match reply with
    | some Option.none => exact .inr ⟨m, rfl, served⟩
    | some (Option.some _) => exact served.imp_right fun saved => ⟨m, rfl, saved⟩
    | none => exact served.imp_right fun saved => ⟨m, rfl, saved⟩
  | getTxMarker taskID =>
    match reply with
    | some (Except.ok found) => exact .inl served.1
    | some (Except.error _) => exact .inl served
    | none => exact .inl served
  | _ => exact .inl served

variable {taskID : String} {run : TxRun} {op : TxOp}
  {next : TxReply op → TxProgram (Except TxError SignAndBroadcastResult)}

theorem TxInv.permits (inv : TxInv sdk cfg world) (running : world.runs taskID = some run)
    (calls : run.remaining = .call op next) :
    (watch sdk cfg taskID).may (run.notes sdk cfg) op := by
  have follows := inv.follows taskID run running
  rw [calls] at follows
  exact follows.1

theorem TxInv.keeps (inv : TxInv sdk cfg world) (running : world.runs taskID = some run)
    (calls : run.remaining = .call op next) {reply : Option (TxReply op)}
    {markers : String → Option TxMarker} (served : Served world.markers op reply markers) :
    Keeps sdk taskID world.markers markers := by
  rcases served.cases with rfl | ⟨m, rfl, rfl⟩
  · exact .refl taskID _
  · obtain ⟨own, sound, absent⟩ := inv.permits running calls
    have missing := inv.tied taskID run running
    rw [absent] at missing
    subst own
    exact .saved sound missing

theorem TxInv.backed_call (inv : TxInv sdk cfg world) (running : world.runs taskID = some run)
    (calls : run.remaining = .call op next) (reply : Option (TxReply op))
    {markers : String → Option TxMarker} (keeps : Keeps sdk taskID world.markers markers)
    (other : String) (txBytes : TxBytes) (marker : Option TxMarker)
    (broadcast : Broadcast (.called taskID op reply (world.markers taskID) :: world.log) other txBytes
      marker) :
    ∃ m, marker = some m ∧ m.txBytes = txBytes ∧ markers other = some m := by
  obtain ⟨reply', called⟩ := broadcast
  rcases List.mem_cons.mp called with same | called
  · cases same
    obtain ⟨m, known, bytes⟩ := inv.permits running calls
    have stored := inv.tied taskID run running
    rw [known] at stored
    exact ⟨m, stored, bytes, keeps.kept m stored⟩
  · obtain ⟨m, recorded, bytes, stored⟩ := inv.backed other txBytes marker ⟨reply', called⟩
    refine ⟨m, recorded, bytes, ?_⟩
    by_cases own : other = taskID
    · subst own
      exact keeps.kept m stored
    · rw [keeps.others other own]
      exact stored

theorem Keeps.sound_of {markers : String → Option TxMarker}
    (keeps : Keeps sdk taskID world.markers markers)
    (inv : TxInv sdk cfg world) (other : String) (m : TxMarker) (stored : markers other = some m) :
    m.txHash = sdk.txHash m.txBytes := by
  by_cases own : other = taskID
  · subst own
    rcases keeps.sound m stored with before | sound
    · exact inv.sound other m before
    · exact sound
  · rw [keeps.others other own] at stored
    exact inv.sound other m stored

/-- A call of one task tells nothing new about the marker of another. -/
theorem Tied.other {markers : String → Option TxMarker} {reply : Option (TxReply op)}
    {runs : String → Option TxRun} (keeps : Keeps sdk taskID world.markers markers) {other : String}
    (different : other ≠ taskID) {known : Known} (tied : Tied world other known) :
    Tied ⟨markers, runs, .called taskID op reply (world.markers taskID) :: world.log⟩ other known := by
  cases known with
  | unread => trivial
  | absent => exact (keeps.others other different).trans tied
  | stored m => exact (keeps.others other different).trans tied
  | unsure =>
    refine fun live => tied ((live_other ?_).mp live)
    intro txBytes reply marker same
    cases same
    exact different rfl

theorem Notes.after_known (notes : Notes) (op : TxOp) (reply : TxReply op) :
    (notes.after sdk cfg op reply).known = (notes.learn op reply).known := by
  unfold Notes.after
  cases answered sdk cfg op reply <;> rfl

/-- A call that leaves the markers as they are and broadcasts nothing unties nothing. -/
theorem Tied.unmoved {runs : String → Option TxRun} {reply : Option (TxReply op)} {known : Known}
    (tied : Tied world taskID known) (silent : ∀ txBytes, op ≠ .broadcastSync txBytes) :
    Tied ⟨world.markers, runs, .called taskID op reply (world.markers taskID) :: world.log⟩ taskID
      known := by
  cases known with
  | unread => trivial
  | absent => exact tied
  | stored m => exact tied
  | unsure =>
    refine fun live => tied ((live_other ?_).mp live)
    intro txBytes reply marker same
    cases same
    exact silent txBytes rfl

theorem TxInv.tied_answer (inv : TxInv sdk cfg world) (running : world.runs taskID = some run)
    (calls : run.remaining = .call op next) (reply : TxReply op)
    {markers : String → Option TxMarker} (served : Served world.markers op (some reply) markers)
    (runs : String → Option TxRun) :
    Tied ⟨markers, runs, .called taskID op (some reply) (world.markers taskID) :: world.log⟩ taskID
      ((run.notes sdk cfg).after sdk cfg op reply).known := by
  have tied := inv.tied taskID run running
  have permits := inv.permits running calls
  rw [Notes.after_known]
  cases op with
  | getTxMarker id =>
    obtain rfl : id = taskID := permits
    change Except String (Option TxMarker) at reply
    match reply with
    | .ok none =>
      obtain ⟨rfl, missing⟩ := served
      exact missing.symm
    | .ok (some m) =>
      obtain ⟨rfl, stored⟩ := served
      exact stored.symm
    | .error err =>
      obtain rfl : markers = world.markers := served
      exact tied.unmoved (by intro txBytes never; cases never)
  | saveTxMarker m =>
    obtain ⟨rfl, -, absent⟩ := permits
    rw [absent] at tied
    change Option String at reply
    cases reply with
    | none =>
      obtain rfl : markers = saveMarker world.markers m := served
      exact Function.update_self _ _ _
    | some err =>
      intro live
      rw [live_other (by intro txBytes reply marker never; cases never)] at live
      obtain ⟨m', stored⟩ := inv.marked live
      rw [show world.markers m.taskID = none from tied] at stored
      cases stored
  | broadcastSync txBytes =>
    obtain rfl : markers = world.markers := served
    obtain ⟨m, known, -⟩ := permits
    rw [known] at tied
    change Except String TxResponse at reply
    have same : ((run.notes sdk cfg).learn (.broadcastSync txBytes) reply).known = .stored m := by
      cases reply with
      | error err => exact known
      | ok resp =>
        simp only [Notes.learn]
        split
        · exact known
        · exact known
    rw [same]
    exact tied
  | tx txHash =>
    obtain rfl : markers = world.markers := served
    change Except QueryFailure ResultTx at reply
    cases reply <;> exact tied.unmoved (by intro txBytes never; cases never)
  | _ =>
    obtain rfl : markers = world.markers := served
    exact tied.unmoved (by intro txBytes never; cases never)

/-! ## Every step -/

theorem TxInv.fresh (fresh : world.Fresh) : TxInv sdk cfg world where
  sound taskID m stored := by
    rw [fresh.1] at stored
    cases stored
  backed taskID txBytes marker broadcast := by
    obtain ⟨reply, called⟩ := broadcast
    rw [fresh.2.2] at called
    cases called
  tied taskID run running := by
    rw [fresh.2.1] at running
    cases running
  follows taskID run running := by
    rw [fresh.2.1] at running
    cases running

theorem runs_update {runs : String → Option TxRun} {replaced : Option TxRun} {other : String}
    {found : TxRun} (running : Function.update runs taskID replaced other = some found) :
    other = taskID ∧ replaced = some found ∨ other ≠ taskID ∧ runs other = some found := by
  by_cases own : other = taskID
  · subst own
    rw [Function.update_self] at running
    exact .inl ⟨rfl, running⟩
  · rw [Function.update_of_ne own] at running
    exact .inr ⟨own, running⟩

theorem runs_ended {runs : String → Option TxRun} {other : String} {found : TxRun}
    (running : Function.update runs taskID none other = some found) :
    other ≠ taskID ∧ runs other = some found := by
  rcases runs_update running with ⟨-, never⟩ | kept
  · cases never
  · exact kept

theorem Tied.returned {runs : String → Option TxRun} {outcome : Except TxError SignAndBroadcastResult}
    {other : String} {known : Known} (tied : Tied world other known) :
    Tied ⟨world.markers, runs, .returned taskID outcome :: world.log⟩ other known := by
  cases known with
  | unread => trivial
  | absent => exact tied
  | stored m => exact tied
  | unsure =>
    intro live
    exact tied ((live_other (by intro txBytes reply marker never; cases never)).mp live)

theorem TxInv.step (configured : cfg.checkpointer = true) {after : TxWorld}
    (inv : TxInv sdk cfg world) (move : TxWorld.Step sdk cfg allowed world after) :
    TxInv sdk cfg after := by
  cases move with
  | start input idle chosen =>
    refine ⟨inv.sound, inv.backed, ?_, ?_⟩
    · intro other found running
      rcases runs_update running with ⟨rfl, started⟩ | ⟨-, running⟩
      · cases started
        trivial
      · exact inv.tied other found running
    · intro other found running
      rcases runs_update running with ⟨rfl, started⟩ | ⟨-, running⟩
      · cases started
        exact signAndBroadcastTask_follows configured rfl
      · exact inv.follows other found running
  | answer reply running calls served chosen =>
    have keeps := inv.keeps running calls served
    refine ⟨keeps.sound_of inv, inv.backed_call running calls (some reply) keeps, ?_, ?_⟩
    · intro other found continued
      rcases runs_update continued with ⟨rfl, same⟩ | ⟨different, continued⟩
      · cases same
        rw [TxRun.notes_answer]
        exact inv.tied_answer running calls reply served _
      · exact (inv.tied other found continued).other keeps different
    · intro other found continued
      rcases runs_update continued with ⟨rfl, same⟩ | ⟨different, continued⟩
      · cases same
        rw [TxRun.notes_answer]
        have follows := inv.follows other _ running
        rw [calls] at follows
        exact follows.2 reply
      · exact inv.follows other found continued
  | crash taskID =>
    refine ⟨inv.sound, inv.backed, ?_, ?_⟩
    · intro other found running
      exact inv.tied other found (runs_ended running).2
    · intro other found running
      exact inv.follows other found (runs_ended running).2
  | crashIn running calls served =>
    have keeps := inv.keeps running calls served
    refine ⟨keeps.sound_of inv, inv.backed_call running calls none keeps, ?_, ?_⟩
    · intro other found continued
      obtain ⟨different, continued⟩ := runs_ended continued
      exact (inv.tied other found continued).other keeps different
    · intro other found continued
      exact inv.follows other found (runs_ended continued).2
  | finish running ended chosen =>
    refine ⟨inv.sound, ?_, ?_, ?_⟩
    · intro other txBytes marker broadcast
      rw [broadcast_other (by intro op reply marker never; cases never)] at broadcast
      exact inv.backed other txBytes marker broadcast
    · intro other found continued
      exact (inv.tied other found (runs_ended continued).2).returned
    · intro other found continued
      exact inv.follows other found (runs_ended continued).2

theorem TxWorld.Reached.inv (configured : cfg.checkpointer = true)
    (reached : world.Reached sdk cfg allowed) : TxInv sdk cfg world :=
  Reachable.invariant (fun _ fresh => .fresh fresh) (fun _ _ inv move => inv.step configured move)
    reached

end Invariant

/-! ## One transaction per task -/

section Broadcasts

variable {sdk cfg}

/-- All broadcasts of a task carry the bytes of one marker, which was stored before each of
them was made and is never replaced. -/
theorem one_transaction_per_task (configured : cfg.checkpointer = true) {world : TxWorld}
    (reached : world.Reached sdk cfg fun _ _ => True) (taskID : String) :
    (∀ txBytes marker, Broadcast world.log taskID txBytes marker →
      ∃ m, marker = some m ∧ m.txBytes = txBytes ∧ world.markers taskID = some m) ∧
    ∀ txBytes txBytes' marker marker', Broadcast world.log taskID txBytes marker →
      Broadcast world.log taskID txBytes' marker' → txBytes = txBytes' := by
  have inv := reached.inv configured
  refine ⟨inv.backed taskID, ?_⟩
  intro txBytes txBytes' marker marker' first second
  obtain ⟨m, -, bytes, stored⟩ := inv.backed taskID txBytes marker first
  obtain ⟨m', -, bytes', stored'⟩ := inv.backed taskID txBytes' marker' second
  obtain rfl : m = m' := Option.some.inj (stored.symm.trans stored')
  exact bytes.symm.trans bytes'

end Broadcasts

namespace Sample

def chain : ChainSdk where
  validateBasic _ := none
  parseCoinsNormalized _ := .ok [⟨"usei", 2000⟩]
  txHash _ := "AB"
  parseProposalID _ := 0
  isPrint _ := true
  toLower text := text

def sidecar : ExecutionConfig := ⟨true, true, true, "pacific-1"⟩

def vote : SignAndBroadcastInput where
  chainID := "pacific-1"
  keyName := "operator"
  msg := some ⟨"vote"⟩
  fees := "2000usei"
  gas := 200000
  memo := ""
  taskID := "vote-1"

def marker : TxMarker := ⟨"vote-1", "AB", [1], 3, 7, "pacific-1"⟩

def nothing : TxWorld := ⟨fun _ => none, fun _ => none, []⟩

def unindexed : QueryFailure := ⟨some "tx (AB) not found", "Internal error"⟩

/-- CheckTx refuses bytes it has seen before. -/
def seenBefore : TxResponse := ⟨"AB", 0, 19, "sdk", "", "tx already exists in cache", 0, 0⟩

theorem vote_acceptable : Acceptable chain sidecar vote := by decide +kernel

/-- The choices a sample run may make: every answer is one of those assumed, and a run ends
with a rejected broadcast only where the index knows the transaction. -/
structure Permits (allowed : TxWorld → TxAction → Prop) : Prop where
  start : ∀ world, allowed world (.start vote)
  answer : ∀ world taskID op reply, answered chain sidecar op reply = true →
    allowed world (.answer taskID op reply)
  finish : ∀ world taskID, (∀ run, world.runs taskID = some run →
    (run.notes chain sidecar).rejected = true → (run.notes chain sidecar).found = true) →
    allowed world (.finish taskID)

variable {allowed : TxWorld → TxAction → Prop}

variable {markers markers' : String → Option TxMarker} {runs : String → Option TxRun}
  {log : List TxEvent} {run : TxRun}

theorem start (permits : Permits allowed) (idle : runs "vote-1" = none)
    (reached : TxWorld.Reached chain sidecar allowed ⟨markers, runs, log⟩) :
    TxWorld.Reached chain sidecar allowed
      ⟨markers, Function.update runs "vote-1"
        (some ⟨vote, [], signAndBroadcastTask chain sidecar vote⟩), log⟩ :=
  .next reached (.start vote idle (permits.start _))

theorem answer (permits : Permits allowed)
    (reached : TxWorld.Reached chain sidecar allowed
      ⟨markers, Function.update runs "vote-1" (some run), log⟩)
    (op : TxOp) (reply : TxReply op)
    {next : TxReply op → TxProgram (Except TxError SignAndBroadcastResult)}
    (calls : run.remaining = .call op next) (served : Served markers op (some reply) markers')
    (assumed : answered chain sidecar op reply = true) :
    TxWorld.Reached chain sidecar allowed
      ⟨markers', Function.update runs "vote-1" (some
          { run with answers := run.answers ++ [⟨op, reply⟩], remaining := next reply }),
        .called "vote-1" op (some reply) (markers "vote-1") :: log⟩ := by
  have running : (TxWorld.mk markers (Function.update runs "vote-1" (some run)) log).runs "vote-1"
      = some run := Function.update_self "vote-1" (some run) runs
  have next : TxWorld.Reached chain sidecar allowed _ :=
    .next reached (.answer reply running calls served (permits.answer _ _ _ _ assumed))
  rwa [Function.update_idem] at next

theorem finish (reached : TxWorld.Reached chain sidecar allowed
      ⟨markers, Function.update runs "vote-1" (some run), log⟩)
    {outcome : Except TxError SignAndBroadcastResult} (ended : run.remaining = .done outcome)
    (chosen : allowed ⟨markers, Function.update runs "vote-1" (some run), log⟩ (.finish "vote-1")) :
    TxWorld.Reached chain sidecar allowed
      ⟨markers, Function.update runs "vote-1" none, .returned "vote-1" outcome :: log⟩ := by
  have running : (TxWorld.mk markers (Function.update runs "vote-1" (some run)) log).runs "vote-1"
      = some run := Function.update_self "vote-1" (some run) runs
  have next : TxWorld.Reached chain sidecar allowed _ := .next reached (.finish running ended chosen)
  rwa [Function.update_idem] at next

/-- A run whose broadcast was not rejected, or was found since, may return. -/
theorem Permits.finishes (permits : Permits allowed)
    (caught : (run.notes chain sidecar).rejected = true → (run.notes chain sidecar).found = true) :
    allowed ⟨markers, Function.update runs "vote-1" (some run), log⟩ (.finish "vote-1") := by
  apply permits.finish
  intro found running
  dsimp only at running
  rw [Function.update_self] at running
  cases running
  exact caught

/-- The first run stores its marker and broadcasts; the connection is lost before the node
answers. -/
theorem first_run (permits : Permits allowed) :
    ∃ world : TxWorld, world.Reached chain sidecar allowed ∧ world.markers "vote-1" = some marker ∧
      world.runs "vote-1" = none ∧ Live world.log "vote-1" ∧
      Broadcast world.log "vote-1" [1] (some marker) := by
  have reached : nothing.Reached chain sidecar allowed := .start ⟨fun _ => rfl, fun _ => rfl, rfl⟩
  replace reached := start permits rfl reached
  replace reached := answer permits reached (.key "operator") (Except.ok "sei1") rfl rfl rfl
  replace reached := answer permits reached .newTxClient Option.none rfl rfl rfl
  replace reached := answer permits reached .status (StatusReply.network "pacific-1") rfl rfl rfl
  replace reached := answer permits reached (.getTxMarker "vote-1") (Except.ok none) rfl ⟨rfl, rfl⟩ rfl
  replace reached := answer permits reached .now (0 : Int) rfl rfl rfl
  replace reached := answer permits reached (.accountNumberSequence "sei1") (Except.ok (3, 7)) rfl rfl
    rfl
  replace reached := answer permits reached (.signTx ⟨{ vote with memo := "taskID=vote-1" }, 3, 7⟩)
    (Except.ok [1]) rfl rfl rfl
  replace reached := answer permits reached (.saveTxMarker marker) Option.none rfl rfl rfl
  replace reached := answer permits reached .now (0 : Int) rfl rfl rfl
  replace reached := answer permits reached (.broadcastSync [1]) (Except.error "connection reset") rfl
    rfl rfl
  replace reached := finish reached rfl (permits.finishes (by intro never; cases never))
  refine ⟨_, reached, rfl, rfl, ?_, ?_⟩
  · exact ⟨[1], _, _, List.mem_cons_of_mem _ (List.mem_cons_self ..), rfl⟩
  · exact ⟨_, List.mem_cons_of_mem _ (List.mem_cons_self ..)⟩

/-- A later run adopts the marker, misses the transaction in the index, and has its
re-broadcast rejected; it is about to query the index once more. -/
theorem second_run (permits : Permits allowed) :
    ∃ (markers : String → Option TxMarker) (runs : String → Option TxRun) (run : TxRun)
      (log : List TxEvent),
      TxWorld.Reached chain sidecar allowed ⟨markers, Function.update runs "vote-1" (some run), log⟩ ∧
      Live log "vote-1" ∧ (run.notes chain sidecar).rejected = true ∧
      run.remaining = reQuery chain marker (checkTxRejected chain seenBefore) := by
  obtain ⟨⟨markers, runs, log⟩, reached, stored, idle, live, -⟩ := first_run permits
  replace reached := start permits idle reached
  replace reached := answer permits reached (.key "operator") (Except.ok "sei1") rfl rfl rfl
  replace reached := answer permits reached .newTxClient Option.none rfl rfl rfl
  replace reached := answer permits reached .status (StatusReply.network "pacific-1") rfl rfl rfl
  replace reached := answer permits reached (.getTxMarker "vote-1") (Except.ok (some marker)) rfl
    ⟨rfl, stored.symm⟩ rfl
  replace reached := answer permits reached (.tx "AB") (Except.error unindexed) rfl rfl rfl
  replace reached := answer permits reached .now (1 : Int) rfl rfl rfl
  replace reached := answer permits reached (.broadcastSync [1]) (Except.ok seenBefore) rfl rfl rfl
  exact ⟨_, _, _, _, reached, ((((((live.cons _).cons _).cons _).cons _).cons _).cons _).cons _, rfl,
    rfl⟩

end Sample

theorem vote_broadcasts_its_marker :
    ∃ world : TxWorld, Broadcast world.log "vote-1" [1] (some Sample.marker) ∧
      ∃ m, some Sample.marker = some m ∧ m.txBytes = [1] ∧ world.markers "vote-1" = some m := by
  have permits : Sample.Permits fun _ _ => True :=
    ⟨fun _ => trivial, fun _ _ _ _ _ => trivial, fun _ _ _ => trivial⟩
  obtain ⟨world, reached, -, -, -, broadcast⟩ := Sample.first_run permits
  exact ⟨world, broadcast, (one_transaction_per_task rfl reached "vote-1").1 _ _ broadcast⟩

/-! ## A possibly live transaction -/

/-- What is assumed of the surroundings: each run carries a request that passes the path's
own checks on the configured chain, and the keyring, `/status` and the marker store answer. -/
def Assumed (_ : TxWorld) : TxAction → Prop
  | .start input => Acceptable sdk cfg input
  | .answer _ op reply => answered sdk cfg op reply = true
  | .finish _ => True

/-- Where the node rejected the re-broadcast of a possibly live transaction, a query of the
run's window has found it. -/
def IndexCatchesUp (world : TxWorld) : TxAction → Prop
  | .finish taskID => ∀ run, world.runs taskID = some run → Live world.log taskID →
      (run.notes sdk cfg).rejected = true → (run.notes sdk cfg).found = true
  | _ => True

/-- A result under the marker's hash, or a cancellation. -/
def Reported (world : TxWorld) (taskID : String) (outcome : Except TxError SignAndBroadcastResult) :
    Prop :=
  outcome = .error .cancelled ∨
    ∃ result m, outcome = .ok result ∧ world.markers taskID = some m ∧ result.txHash = m.txHash

/-- The runs under the assumptions, and the outcomes so far. -/
structure TxReports (world : TxWorld) : Prop where
  inv : TxInv sdk cfg world
  accepted : ∀ taskID run, world.runs taskID = some run → Acceptable sdk cfg run.input
  trusted : ∀ taskID run, world.runs taskID = some run → (run.notes sdk cfg).trusted = true
  reported : ∀ later taskID outcome earlier,
    world.log = later ++ .returned taskID outcome :: earlier → Live earlier taskID →
    Reported world taskID outcome

section Reports

variable {sdk cfg}
variable {world : TxWorld}

theorem Notes.after_trusted {notes : Notes} {op : TxOp} {reply : TxReply op}
    (trusted : notes.trusted = true) (assumed : answered sdk cfg op reply = true) :
    (notes.after sdk cfg op reply).trusted = true := by
  unfold Notes.after
  rw [assumed]
  cases op with
  | getTxMarker taskID =>
    change Except String (Option TxMarker) at reply
    match reply with
    | .ok none => exact trusted
    | .ok (some m) => exact trusted
    | .error err => exact trusted
  | saveTxMarker m =>
    change Option String at reply
    cases reply <;> exact trusted
  | broadcastSync txBytes =>
    change Except String TxResponse at reply
    cases reply with
    | error err => exact trusted
    | ok resp =>
      simp only [cond_true, Notes.learn]
      split <;> exact trusted
  | tx txHash =>
    change Except QueryFailure ResultTx at reply
    cases reply <;> exact trusted
  | _ => exact trusted

theorem TxInv.settled (inv : TxInv sdk cfg world) {taskID : String} {run : TxRun}
    {outcome : Except TxError SignAndBroadcastResult} (running : world.runs taskID = some run)
    (ended : run.remaining = .done outcome) (accepted : Acceptable sdk cfg run.input)
    (trusted : (run.notes sdk cfg).trusted = true) (live : Live world.log taskID)
    (caught : (run.notes sdk cfg).rejected = true → (run.notes sdk cfg).found = true) :
    Reported world taskID outcome := by
  have settles := inv.follows taskID run running
  rw [ended] at settles
  have tied := inv.tied taskID run running
  obtain ⟨stored, marked⟩ := inv.marked live
  cases outcome with
  | ok result =>
    obtain ⟨m, known, hash⟩ := settles trusted
    rw [known] at tied
    exact .inr ⟨result, m, rfl, tied, hash (inv.sound taskID m tied)⟩
  | error err =>
    rcases settles with rfl | doubted | ⟨-, refused⟩ | absent | unsure | ⟨rejected, missing⟩
    · exact .inl rfl
    · rw [trusted] at doubted
      cases doubted
    · exact absurd accepted refused
    · rw [absent] at tied
      rw [show world.markers taskID = none from tied] at marked
      cases marked
    · rw [unsure] at tied
      exact absurd live tied
    · rw [caught rejected] at missing
      cases missing

theorem Reported.of_kept {taskID : String} {outcome : Except TxError SignAndBroadcastResult}
    {after : TxWorld} (reported : Reported world taskID outcome)
    (kept : ∀ m, world.markers taskID = some m → after.markers taskID = some m) :
    Reported after taskID outcome :=
  reported.imp_right fun ⟨result, m, same, stored, hash⟩ => ⟨result, m, same, kept m stored, hash⟩

theorem TxReports.reported_call (reports : TxReports sdk cfg world) {taskID : String} {op : TxOp}
    {reply : Option (TxReply op)} {markers : String → Option TxMarker}
    (keeps : Keeps sdk taskID world.markers markers) (runs : String → Option TxRun)
    (later : List TxEvent) (other : String) (outcome : Except TxError SignAndBroadcastResult)
    (earlier : List TxEvent)
    (log : .called taskID op reply (world.markers taskID) :: world.log
      = later ++ .returned other outcome :: earlier) (live : Live earlier other) :
    Reported ⟨markers, runs, .called taskID op reply (world.markers taskID) :: world.log⟩ other
      outcome := by
  cases later with
  | nil => cases log
  | cons event later =>
    obtain ⟨-, log⟩ := List.cons.inj log
    refine (reports.reported later other outcome earlier log live).of_kept ?_
    intro m stored
    by_cases own : other = taskID
    · subst own
      exact keeps.kept m stored
    · exact (keeps.others other own).trans stored

theorem TxReports.fresh (fresh : world.Fresh) : TxReports sdk cfg world where
  inv := .fresh fresh
  accepted taskID run running := by
    rw [fresh.2.1] at running
    cases running
  trusted taskID run running := by
    rw [fresh.2.1] at running
    cases running
  reported later taskID outcome earlier log live := by
    rw [fresh.2.2] at log
    exact absurd log.symm (List.append_ne_nil_of_right_ne_nil _ (List.cons_ne_nil _ _))

theorem TxReports.step (configured : cfg.checkpointer = true) {after : TxWorld}
    (reports : TxReports sdk cfg world)
    (move : TxWorld.Step sdk cfg
      (fun world action => Assumed sdk cfg world action ∧ IndexCatchesUp sdk cfg world action)
      world after) :
    TxReports sdk cfg after := by
  have inv := reports.inv.step configured move
  cases move with
  | start input idle chosen =>
    refine ⟨inv, ?_, ?_, reports.reported⟩
    · intro other found running
      rcases runs_update running with ⟨rfl, started⟩ | ⟨-, running⟩
      · cases started
        exact chosen.1
      · exact reports.accepted other found running
    · intro other found running
      rcases runs_update running with ⟨rfl, started⟩ | ⟨-, running⟩
      · cases started
        rfl
      · exact reports.trusted other found running
  | answer reply running calls served chosen =>
    refine ⟨inv, ?_, ?_, reports.reported_call (reports.inv.keeps running calls served) _⟩
    · intro other found continued
      rcases runs_update continued with ⟨rfl, same⟩ | ⟨-, continued⟩
      · cases same
        exact (reports.accepted _ _ running :)
      · exact reports.accepted other found continued
    · intro other found continued
      rcases runs_update continued with ⟨rfl, same⟩ | ⟨-, continued⟩
      · cases same
        rw [TxRun.notes_answer]
        exact Notes.after_trusted (reports.trusted other _ running) chosen.1
      · exact reports.trusted other found continued
  | crash taskID =>
    refine ⟨inv, ?_, ?_, reports.reported⟩
    · intro other found running
      exact reports.accepted other found (runs_ended running).2
    · intro other found running
      exact reports.trusted other found (runs_ended running).2
  | crashIn running calls served =>
    refine ⟨inv, ?_, ?_, reports.reported_call (reports.inv.keeps running calls served) _⟩
    · intro other found continued
      exact reports.accepted other found (runs_ended continued).2
    · intro other found continued
      exact reports.trusted other found (runs_ended continued).2
  | finish running ended chosen =>
    refine ⟨inv, ?_, ?_, ?_⟩
    · intro other found continued
      exact reports.accepted other found (runs_ended continued).2
    · intro other found continued
      exact reports.trusted other found (runs_ended continued).2
    · intro later other outcome earlier log live
      cases later with
      | nil =>
        cases log
        exact (reports.inv.settled running ended (reports.accepted _ _ running)
          (reports.trusted _ _ running) live (chosen.2 _ running live) :)
      | cons event later =>
        obtain ⟨-, log⟩ := List.cons.inj log
        exact reports.reported later other outcome earlier log live

/-- Where the index has caught up with every rejected re-broadcast, no run that ends after a
possibly live broadcast of its task returns a bare error. -/
theorem live_transaction_is_reported (configured : cfg.checkpointer = true)
    (reached : world.Reached sdk cfg fun world action =>
      Assumed sdk cfg world action ∧ IndexCatchesUp sdk cfg world action)
    (later : List TxEvent) (taskID : String) (outcome : Except TxError SignAndBroadcastResult)
    (earlier : List TxEvent) (returned : world.log = later ++ .returned taskID outcome :: earlier)
    (live : Live earlier taskID) : Reported world taskID outcome := by
  have reports : TxReports sdk cfg world :=
    Reachable.invariant (fun _ fresh => .fresh fresh) (fun _ _ reports move =>
      reports.step configured move) reached
  exact reports.reported later taskID outcome earlier returned live

end Reports

/-- The index lags by more than the window: the re-broadcast of a possibly live transaction
is rejected, the last query misses it, and the run returns a bare terminal error. -/
theorem rejected_rebroadcast_fails_live_vote :
    ∃ world : TxWorld, world.Reached Sample.chain Sample.sidecar (Assumed Sample.chain Sample.sidecar) ∧
      ∃ text earlier, world.log = .returned "vote-1" (.error (.terminal text)) :: earlier ∧
        Live earlier "vote-1" := by
  have permits : Sample.Permits (Assumed Sample.chain Sample.sidecar) :=
    ⟨fun _ => Sample.vote_acceptable, fun _ _ _ _ assumed => assumed, fun _ _ _ => trivial⟩
  obtain ⟨markers, runs, run, log, reached, live, -, rest⟩ := Sample.second_run permits
  replace reached := Sample.answer permits reached .now (2 : Int) (by rw [rest]; rfl) rfl rfl
  replace reached := Sample.answer permits reached .ctxErr false rfl rfl rfl
  replace reached := Sample.answer permits reached .now (3 : Int) rfl rfl rfl
  replace reached := Sample.answer permits reached (.tx "AB") (Except.error Sample.unindexed) rfl rfl rfl
  replace reached := Sample.answer permits reached (.pause inclusionPollInterval) false rfl rfl rfl
  replace reached := Sample.answer permits reached .ctxErr false rfl rfl rfl
  replace reached := Sample.answer permits reached .now (6000000000 : Int) rfl rfl rfl
  replace reached := Sample.finish reached rfl trivial
  exact ⟨_, reached, _, _, rfl,
    ((((((live.cons _).cons _).cons _).cons _).cons _).cons _).cons _⟩

theorem found_vote_is_reported :
    ∃ (world : TxWorld) (outcome : Except TxError SignAndBroadcastResult) (earlier : List TxEvent),
      world.log = .returned "vote-1" outcome :: earlier ∧ Live earlier "vote-1" ∧
      Reported world "vote-1" outcome := by
  have permits : Sample.Permits fun world action =>
      Assumed Sample.chain Sample.sidecar world action ∧
        IndexCatchesUp Sample.chain Sample.sidecar world action :=
    ⟨fun _ => ⟨Sample.vote_acceptable, trivial⟩, fun _ _ _ _ assumed => ⟨assumed, trivial⟩,
      fun _ _ caught => ⟨trivial, fun run running _ => caught run running⟩⟩
  obtain ⟨markers, runs, run, log, reached, live, -, rest⟩ := Sample.second_run permits
  replace reached := Sample.answer permits reached .now (2 : Int) (by rw [rest]; rfl) rfl rfl
  replace reached := Sample.answer permits reached .ctxErr false rfl rfl rfl
  replace reached := Sample.answer permits reached .now (3 : Int) rfl rfl rfl
  replace reached := Sample.answer permits reached (.tx "AB") (Except.ok ⟨10, 0, "", "", "", 0, 0⟩) rfl
    rfl rfl
  replace reached := Sample.answer permits reached .now (4 : Int) rfl rfl rfl
  replace reached := Sample.finish reached rfl (permits.finishes (by
    intro _
    simp only [TxRun.notes, List.foldl_append, List.foldl_cons, List.foldl_nil]
    rfl))
  refine ⟨_, _, _, rfl, ?live,
    live_transaction_is_reported rfl reached [] "vote-1" _ _ rfl ?live⟩
  exact ((((live.cons _).cons _).cons _).cons _).cons _

end SignTx

end SeiController
