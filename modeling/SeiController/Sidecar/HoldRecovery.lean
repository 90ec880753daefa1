import SeiController.Sidecar.Rehydrate
import Mathlib.Data.List.MinMax

/-!
# A hold wins crash recovery

The recovery never removes a hold's row nor moves its submission time, so the check of a
`mark-ready` sees every hold that was stored when the process started.  What it
dispatches was submitted after all of them, and only what it dispatched opens the gate.
-/

set_option autoImplicit false

namespace SeiController

def TaskRow.Same (old : TaskRow) (id : TaskID) (type : TaskType) (submittedAt : Nat) : Prop :=
  old.id = id ∧ old.type = type ∧ old.submittedAt = submittedAt

variable {row other : TaskRow}

namespace Engine

variable {rows : Keyed TaskRow.id} {engine after : Engine}

/-! ## Rows of the tasks stored at startup -/

/-- The engine's rows and runs are those of tasks stored at startup, whose holds are still
stored; and no hold runs. -/
structure Rooted (rows : Keyed TaskRow.id) (engine : Engine) : Prop where
  kept : ∀ row ∈ engine.rows.records, ∃ old ∈ rows.records, old.Same row.id row.type row.submittedAt
  held : ∀ hold ∈ rows.records, hold.type = .markNotReady → ∃ row ∈ engine.rows.records, row.id = hold.id
  runs : ∀ run ∈ engine.runs, run.type ≠ .markNotReady ∧
    ∃ old ∈ rows.records, old.Same run.id run.type run.submittedAt

theorem Same.unique {old old' : TaskRow} (member : old ∈ rows.records) (member' : old' ∈ rows.records)
    (same : old.id = old'.id) : old = old' :=
  List.inj_on_of_nodup_map rows.distinct member member' same

theorem Rooted.hold (rooted : Rooted rows engine) {hold : TaskRow} (member : hold ∈ rows.records)
    (isHold : hold.type = .markNotReady) :
    ∃ row ∈ engine.rows.records, row.type = .markNotReady ∧ row.submittedAt = hold.submittedAt ∧
      row.id = hold.id := by
  obtain ⟨row, stored, same⟩ := rooted.held hold member isHold
  obtain ⟨old, member', sameId, sameType, sameTime⟩ := rooted.kept row stored
  obtain rfl := Same.unique member' member (sameId.trans same)
  exact ⟨row, stored, sameType.symm.trans isHold, sameTime.symm, same⟩

/-- The purge takes no hold's row. -/
theorem Rooted.purge (rooted : Rooted rows engine) (type : TaskType) (err : Option String) :
    Rooted rows { engine with rows := purge type err engine.rows } := by
  unfold Engine.purge
  split
  · refine ⟨fun row member => rooted.kept row (List.mem_of_mem_filter member), ?_, rooted.runs⟩
    intro hold member isHold
    obtain ⟨row, stored, rowHold, -, same⟩ := rooted.hold member isHold
    refine ⟨row, List.mem_filter.mpr ⟨stored, ?_⟩, same⟩
    rw [rowHold]
    rfl
  · exact rooted

theorem mem_put {new : TaskRow} {table : Keyed TaskRow.id} (member : row ∈ (table.put new).records) :
    row = new ∨ row ∈ table.records := by
  rcases List.mem_cons.mp member with same | inside
  · exact .inl same
  · exact .inr (List.mem_of_mem_filter inside)

theorem Rooted.put (rooted : Rooted rows engine)
    (origin : ∃ old ∈ rows.records, old.Same row.id row.type row.submittedAt) :
    Rooted rows { engine with rows := engine.rows.put row } where
  kept stored member := by
    rcases mem_put member with rfl | inside
    · exact origin
    · exact rooted.kept stored inside
  held hold member isHold := by
    obtain ⟨stored, inside, same⟩ := rooted.held hold member isHold
    by_cases replaced : row.id = hold.id
    · exact ⟨row, List.mem_cons_self .., replaced⟩
    · refine ⟨stored, List.mem_cons_of_mem _ (List.mem_filter.mpr ⟨inside, ?_⟩), same⟩
      rw [same]
      exact bne_iff_ne.mpr fun equal => replaced equal.symm
  runs := rooted.runs

theorem Rooted.save (rooted : Rooted rows engine) (fails : Bool)
    (origin : ∃ old ∈ rows.records, old.Same row.id row.type row.submittedAt) :
    Rooted rows (engine.save row fails) := by
  unfold Engine.save
  split
  · exact rooted
  · exact rooted.put origin

theorem Rooted.rehydrate (rooted : Rooted rows engine) (other : row.type ≠ .markNotReady)
    (origin : ∃ old ∈ rows.records, old.Same row.id row.type row.submittedAt) :
    Rooted rows (engine.rehydrate row) where
  kept := rooted.kept
  held := rooted.held
  runs run member := by
    rcases List.mem_cons.mp member with rfl | inside
    · exact ⟨other, origin⟩
    · exact rooted.runs run inside

theorem mem_setStage_same {gen : Nat} {stage : RunStage} {run : TaskRun}
    (member : run ∈ engine.setStage gen stage) : ∃ old ∈ engine.runs, old.id = run.id ∧
      old.type = run.type ∧ old.submittedAt = run.submittedAt := by
  obtain ⟨old, inside, rfl⟩ := List.mem_map.mp member
  refine ⟨old, inside, ?_⟩
  split <;> exact ⟨rfl, rfl, rfl⟩

theorem Rooted.of_runs (rooted : Rooted rows engine) (same : after.rows = engine.rows)
    (runs : ∀ run ∈ after.runs, ∃ old ∈ engine.runs, old.id = run.id ∧ old.type = run.type ∧
      old.submittedAt = run.submittedAt) : Rooted rows after where
  kept := by
    rw [same]
    exact rooted.kept
  held := by
    rw [same]
    exact rooted.held
  runs run member := by
    obtain ⟨old, inside, sameId, sameType, sameTime⟩ := runs run member
    rw [← sameId, ← sameType, ← sameTime]
    exact rooted.runs old inside

/-- A goroutine that is not a hold's purges nothing. -/
theorem purge_other {type : TaskType} (other : type ≠ .markNotReady) (err : Option String)
    (table : Keyed TaskRow.id) : purge type err table = table :=
  if_neg fun hold => other hold.1

theorem Rooted.advance (rooted : Rooted rows engine) (event : RunEvent) :
    Rooted rows (engine.advance event) := by
  have step := advance_advanced engine event
  generalize engine.advance event = after at step ⊢
  cases step with
  | idle => exact rooted
  | handled run err found stage =>
    have other := (rooted.runs run (findRun_mem found)).1
    exact rooted.of_runs (purge_other other err _) fun _ member => mem_setStage_same member
  | flagged run err found stage => exact rooted.of_runs rfl fun _ member => mem_setStage_same member
  | recorded run err storeErr found stage =>
    have origin := (rooted.runs run (findRun_mem found)).2
    have staged : Rooted rows { engine with runs := engine.setStage run.gen .saved } :=
      rooted.of_runs rfl fun _ member => mem_setStage_same member
    unfold recorded savedRows
    split
    · exact staged
    · exact staged.put origin
  | cleared run found stage =>
    exact rooted.of_runs rfl fun other member =>
      ⟨other, List.mem_of_mem_filter member, rfl, rfl, rfl⟩

/-! ## Rows nobody touches -/

theorem Rooted.row_advance (rooted : Rooted rows engine) {id : TaskID}
    (none : ∀ run ∈ engine.runs, run.id ≠ id) (event : RunEvent) :
    (engine.advance event).row id = engine.row id := by
  have step := advance_advanced engine event
  generalize engine.advance event = after at step ⊢
  cases step with
  | idle => rfl
  | handled run err found stage =>
    have other := (rooted.runs run (findRun_mem found)).1
    exact congrArg (Keyed.get id) (purge_other other err engine.rows)
  | flagged run err found stage => rfl
  | recorded run err storeErr found stage =>
    rcases row_recorded engine run err storeErr id with same | ⟨own, -⟩
    · exact same
    · exact absurd own (none run (findRun_mem found))
  | cleared run found stage => rfl

theorem ids_advance {event : RunEvent} {run : TaskRun} (member : run ∈ (engine.advance event).runs) :
    ∃ old ∈ engine.runs, old.id = run.id ∧ old.type = run.type := by
  have step := advance_advanced engine event
  generalize engine.advance event = after at step member
  have staged : ∀ gen stage, run ∈ engine.setStage gen stage →
      ∃ old ∈ engine.runs, old.id = run.id ∧ old.type = run.type := by
    intro gen stage member
    obtain ⟨old, inside, sameId, sameType, -⟩ := mem_setStage_same member
    exact ⟨old, inside, sameId, sameType⟩
  cases step with
  | idle => exact ⟨run, member, rfl, rfl⟩
  | handled => exact staged _ _ member
  | flagged => exact staged _ _ member
  | recorded => exact staged _ _ member
  | cleared => exact ⟨run, List.mem_of_mem_filter member, rfl, rfl⟩

/-- The gate is opened by the goroutine of a `mark-ready`. -/
theorem ready_advance {event : RunEvent} (opened : (engine.advance event).ready = true) :
    engine.ready = true ∨ ∃ run ∈ engine.runs, run.type = .markReady := by
  have step := advance_advanced engine event
  generalize engine.advance event = after at step opened
  cases step with
  | idle => exact .inl opened
  | handled => exact .inl opened
  | flagged run err found stage =>
    by_cases release : run.type = .markReady
    · exact .inr ⟨run, findRun_mem found, release⟩
    · left
      have opened : flip run.type err engine.ready = true := opened
      unfold flip at opened
      split at opened
      · contradiction
      · cases opened
      · exact opened
  | recorded => exact .inl opened
  | cleared => exact .inl opened

end Engine

namespace Recovery

open Engine

variable {registered : TaskType → Bool} {holds : LatestHold} {chance : Nat → Chance}
  {rows : Keyed TaskRow.id} {recovery : Recovery}

/-! ## The second pass -/

/-- What the second pass keeps: a dispatched `mark-ready` was submitted after every hold
that was in the store when it was dispatched, which are at least those of startup; and the
gate is open only if one was dispatched. -/
structure Resuming (rows : Keyed TaskRow.id) (recovery : Recovery) : Prop where
  rooted : Rooted rows recovery.engine
  later : ∀ entry ∈ recovery.dispatched, entry.1.type = .markReady →
    ∀ hold ∈ entry.2, hold.type = .markNotReady → hold.submittedAt < entry.1.submittedAt
  origin : ∀ entry ∈ recovery.dispatched,
    ∃ old ∈ rows.records, old.Same entry.1.id entry.1.type entry.1.submittedAt
  seen : ∀ entry ∈ recovery.dispatched, ∀ hold ∈ rows.records, hold.type = .markNotReady →
    ∃ row ∈ entry.2, row.type = .markNotReady ∧ row.submittedAt = hold.submittedAt
  started : ∀ run ∈ recovery.engine.runs, ∃ entry ∈ recovery.dispatched,
    entry.1.id = run.id ∧ entry.1.type = run.type
  opened : recovery.engine.ready = true → ∃ entry ∈ recovery.dispatched, entry.1.type = .markReady

namespace Resuming

theorem advance (resuming : Resuming rows recovery) (event : RunEvent) :
    Resuming rows { recovery with engine := recovery.engine.advance event } where
  rooted := resuming.rooted.advance event
  later := resuming.later
  origin := resuming.origin
  seen := resuming.seen
  started run member := by
    obtain ⟨old, inside, sameId, sameType⟩ := ids_advance member
    rw [← sameId, ← sameType]
    exact resuming.started old inside
  opened ready := by
    rcases ready_advance ready with before | ⟨run, member, release⟩
    · exact resuming.opened before
    · obtain ⟨entry, dispatched, -, sameType⟩ := resuming.started run member
      exact ⟨entry, dispatched, sameType.trans release⟩

theorem goroutines (resuming : Resuming rows recovery) (events : List RunEvent) :
    Resuming rows { recovery with engine := recovery.engine.goroutines events } := by
  induction events generalizing recovery with
  | nil => exact resuming
  | cons event events ih => exact ih (resuming.advance event)

theorem call (resuming : Resuming rows recovery) (made : StoreCall) :
    Resuming rows (recovery.call chance made) :=
  { resuming.goroutines (recovery.next chance).goroutines with }

theorem save (resuming : Resuming rows recovery)
    (origin : ∃ old ∈ rows.records, old.Same row.id row.type row.submittedAt) :
    Resuming rows (recovery.save chance row) :=
  let called : Resuming rows (recovery.call chance (.save row)) := resuming.call _
  { rooted := called.rooted.save _ origin
    later := called.later
    origin := called.origin
    seen := called.seen
    started := by
      unfold Recovery.save Engine.save
      dsimp only
      split <;> exact called.started
    opened := by
      unfold Recovery.save Engine.save
      dsimp only
      split <;> exact called.opened }

theorem dispatch (resuming : Resuming rows recovery) (other : row.type ≠ .markNotReady)
    (origin : ∃ old ∈ rows.records, old.Same row.id row.type row.submittedAt)
    (later : row.type = .markReady → ∀ hold ∈ recovery.engine.rows.records,
      hold.type = .markNotReady → hold.submittedAt < row.submittedAt) :
    Resuming rows (recovery.dispatch registered chance row) := by
  unfold Recovery.dispatch
  split
  · refine ⟨resuming.rooted.rehydrate other origin, ?_, ?_, ?_, ?_, ?_⟩
    · intro entry member release
      rcases List.mem_cons.mp member with rfl | inside
      · exact later release
      · exact resuming.later entry inside release
    · intro entry member
      rcases List.mem_cons.mp member with rfl | inside
      · exact origin
      · exact resuming.origin entry inside
    · intro entry member hold stored isHold
      rcases List.mem_cons.mp member with rfl | inside
      · obtain ⟨row, present, rowHold, same, -⟩ := resuming.rooted.hold stored isHold
        exact ⟨row, present, rowHold, same⟩
      · exact resuming.seen entry inside hold stored isHold
    · intro run member
      rcases List.mem_cons.mp member with rfl | inside
      · exact ⟨_, List.mem_cons_self .., rfl, rfl⟩
      · obtain ⟨entry, dispatched, same⟩ := resuming.started run inside
        exact ⟨entry, List.mem_cons_of_mem _ dispatched, same⟩
    · intro ready
      obtain ⟨entry, dispatched, release⟩ := resuming.opened ready
      exact ⟨entry, List.mem_cons_of_mem _ dispatched, release⟩
  · exact resuming.save origin

theorem release (resuming : Resuming rows recovery) (isRelease : row.type = .markReady)
    (origin : ∃ old ∈ rows.records, old.Same row.id row.type row.submittedAt) :
    Resuming rows (recovery.release registered holds chance row) := by
  have other : row.type ≠ .markNotReady := by
    rw [isRelease]
    intro never
    cases never
  have checked : Resuming rows (recovery.call chance (.latestHold row)) := resuming.call _
  unfold Recovery.release
  dsimp only
  split
  · exact checked
  · split
    next none =>
      refine checked.dispatch other origin fun _ hold stored isHold => ?_
      exact absurd isHold (holds.none_of _ none hold stored)
    next hold newest =>
      split
      next before =>
        refine checked.dispatch other origin fun _ stored member isHold => ?_
        exact Nat.lt_of_le_of_lt (holds.newest _ hold newest stored member isHold) before
      · exact checked.save origin

theorem resume (resuming : Resuming rows recovery)
    (origin : ∃ old ∈ rows.records, old.Same row.id row.type row.submittedAt) :
    Resuming rows (recovery.resume registered holds chance row) := by
  unfold Recovery.resume
  split
  · exact resuming
  next isRelease => exact resuming.release isRelease origin
  next other notRelease =>
    exact resuming.dispatch other origin fun isRelease => absurd isRelease notRelease

theorem resumeAll {stale : List TaskRow} (resuming : Resuming rows recovery)
    (origins : ∀ row ∈ stale, ∃ old ∈ rows.records, old.Same row.id row.type row.submittedAt) :
    Resuming rows (stale.foldl (Recovery.resume registered holds chance) recovery) := by
  induction stale generalizing recovery with
  | nil => exact resuming
  | cons row stale ih =>
    rw [List.foldl_cons]
    apply ih
    · exact resuming.resume (origins row (List.mem_cons_self ..))
    · exact fun other member => origins other (List.mem_cons_of_mem _ member)

end Resuming

/-! ## A release that a hold supersedes -/

/-- A `mark-ready` stored as running at startup, no later than some hold. -/
structure Superseded (rows : Keyed TaskRow.id) (row : TaskRow) : Prop where
  stored : row ∈ rows.records
  isRelease : row.type = .markReady
  running : row.status = .running
  held : ∃ hold ∈ rows.records, hold.type = .markNotReady ∧ row.submittedAt ≤ hold.submittedAt

theorem Resuming.undispatched (resuming : Resuming rows recovery) (superseded : Superseded rows row) :
    ∀ entry ∈ recovery.dispatched, entry.1.id ≠ row.id := by
  intro entry member same
  obtain ⟨old, stored, sameId, sameType, sameTime⟩ := resuming.origin entry member
  obtain rfl := Same.unique stored superseded.stored (sameId.trans same)
  obtain ⟨hold, held, isHold, before⟩ := superseded.held
  obtain ⟨seen, present, seenHold, sameHold⟩ := resuming.seen entry member hold held isHold
  have after := resuming.later entry member (sameType.symm.trans superseded.isRelease) seen present
    seenHold
  omega

theorem Resuming.unrun (resuming : Resuming rows recovery) (superseded : Superseded rows row) :
    ∀ run ∈ recovery.engine.runs, run.id ≠ row.id := by
  intro run member same
  obtain ⟨entry, dispatched, sameId, -⟩ := resuming.started run member
  exact resuming.undispatched superseded entry dispatched (sameId.trans same)

/-- The call was made, and `P` is true of what it met: `chance` at the number of calls before. -/
def Met (chance : Nat → Chance) (recovery : Recovery) (made : StoreCall) (P : Chance → Prop) : Prop :=
  ∃ later earlier, recovery.calls = later ++ made :: earlier ∧ P (chance earlier.length)

/-- The calls without which a superseded release is not recorded Failed. -/
def Decides (row : TaskRow) : StoreCall → Prop
  | .listStale => True
  | .latestHold release => release = row
  | .save saved => saved = row.failed superseded
  | .hold _ => False

/-- How a superseded release ends: purged by a hold whose handler succeeded, left alone because a
call it depends on failed, or recorded Failed. -/
inductive Ended (chance : Nat → Chance) (row : TaskRow) (recovery : Recovery) : Prop
  | purged (hold : TaskRow) (ran : Met chance recovery (.hold hold) fun met => met.handler = none)
      (gone : recovery.engine.row row.id = none)
  | unrecorded (made : StoreCall) (decides : Decides row made)
      (failed : Met chance recovery made fun met => met.fails = true)
  | failed (recorded : recovery.engine.row row.id = some (row.failed superseded))

theorem Met.of_suffix {after : Recovery} {made : StoreCall} {P : Chance → Prop}
    (met : Met chance recovery made P) (more : recovery.calls <:+ after.calls) :
    Met chance after made P := by
  obtain ⟨later, earlier, calls, holds⟩ := met
  obtain ⟨extra, grown⟩ := more
  exact ⟨extra ++ later, earlier, by rw [← grown, calls, List.append_assoc], holds⟩

theorem Ended.mono {after : Recovery} (ended : Ended chance row recovery)
    (same : after.engine.row row.id = recovery.engine.row row.id)
    (more : recovery.calls <:+ after.calls) : Ended chance row after := by
  cases ended with
  | purged hold ran gone => exact .purged hold (ran.of_suffix more) (same.trans gone)
  | unrecorded made decides failed => exact .unrecorded made decides (failed.of_suffix more)
  | failed recorded => exact .failed (same.trans recorded)

def Fate (chance : Nat → Chance) (row : TaskRow) (rest : List TaskRow) (recovery : Recovery) : Prop :=
  row ∈ rest ∧ recovery.engine.row row.id = some row ∨
    (∀ other ∈ rest, other.id ≠ row.id) ∧ Ended chance row recovery

theorem Resuming.row_goroutines (resuming : Resuming rows recovery)
    (superseded : Superseded rows row) (events : List RunEvent) :
    (recovery.engine.goroutines events).row row.id = recovery.engine.row row.id := by
  induction events generalizing recovery with
  | nil => rfl
  | cons event events ih =>
    have first := resuming.rooted.row_advance (resuming.unrun superseded) event
    exact (ih (resuming.advance event)).trans first

theorem Resuming.row_save (resuming : Resuming rows recovery) (superseded : Superseded rows row)
    (different : other.id ≠ row.id) :
    (recovery.save chance other).engine.row row.id = recovery.engine.row row.id := by
  have called : (recovery.call chance (.save other)).engine.row row.id = recovery.engine.row row.id :=
    resuming.row_goroutines superseded _
  unfold Recovery.save Engine.save
  dsimp only
  split
  · exact called
  · unfold Engine.row
    rw [Keyed.get_put, if_neg different]
    exact called

theorem Resuming.row_dispatch (resuming : Resuming rows recovery) (superseded : Superseded rows row)
    (different : other.id ≠ row.id) :
    (recovery.dispatch registered chance other).engine.row row.id = recovery.engine.row row.id := by
  unfold Recovery.dispatch
  split
  · rfl
  · exact resuming.row_save superseded different

theorem calls_dispatch : recovery.calls <:+ (recovery.dispatch registered chance row).calls := by
  unfold Recovery.dispatch
  split
  · exact List.suffix_refl _
  · exact List.suffix_cons ..

theorem Resuming.resume_other (resuming : Resuming rows recovery) (superseded : Superseded rows row)
    (different : other.id ≠ row.id) :
    (recovery.resume registered holds chance other).engine.row row.id = recovery.engine.row row.id ∧
      recovery.calls <:+ (recovery.resume registered holds chance other).calls := by
  have checked : Resuming rows (recovery.call chance (.latestHold other)) := resuming.call _
  have called : (recovery.call chance (.latestHold other)).engine.row row.id
      = recovery.engine.row row.id := resuming.row_goroutines superseded _
  have more : recovery.calls <:+ (recovery.call chance (.latestHold other)).calls :=
    List.suffix_cons ..
  have dispatched : ((recovery.call chance (.latestHold other)).dispatch registered chance
        other).engine.row row.id = recovery.engine.row row.id ∧
      recovery.calls <:+ ((recovery.call chance (.latestHold other)).dispatch registered chance
        other).calls :=
    ⟨(checked.row_dispatch superseded different).trans called, more.trans calls_dispatch⟩
  unfold Recovery.resume
  split
  · exact ⟨rfl, List.suffix_refl _⟩
  · unfold Recovery.release
    dsimp only
    split
    · exact ⟨called, more⟩
    · split
      · exact dispatched
      · split
        · exact dispatched
        · have apart : (other.failed Recovery.superseded).id ≠ row.id := different
          exact ⟨(checked.row_save superseded apart).trans called, more.trans (List.suffix_cons ..)⟩
  · exact ⟨resuming.row_dispatch superseded different, calls_dispatch⟩

theorem Resuming.resume_superseded (resuming : Resuming rows recovery)
    (superseded : Superseded rows row) :
    Ended chance row (recovery.resume registered holds chance row) := by
  have checked : Resuming rows (recovery.call chance (.latestHold row)) := resuming.call _
  obtain ⟨hold, held, isHold, before⟩ := superseded.held
  obtain ⟨stored, present, storedHold, same, -⟩ := checked.rooted.hold held isHold
  unfold Recovery.resume
  rw [superseded.isRelease]
  dsimp only
  unfold Recovery.release
  dsimp only
  split
  next failed => exact .unrecorded (.latestHold row) rfl ⟨[], recovery.calls, rfl, failed⟩
  · split
    next none => exact absurd storedHold (holds.none_of _ none stored present)
    next newest found =>
      have after := holds.newest _ newest found stored present storedHold
      rw [if_neg (by omega)]
      cases failed : ((recovery.call chance (.latestHold row)).next chance).fails with
      | true => exact .unrecorded (.save _) rfl ⟨[], _, rfl, failed⟩
      | false =>
        refine .failed ?_
        unfold Recovery.save Engine.save
        rw [failed]
        unfold Engine.row
        dsimp only
        rw [if_neg Bool.false_ne_true, Keyed.get_put]
        exact if_pos rfl

theorem Fate.resume {rest : List TaskRow} (resuming : Resuming rows recovery)
    (superseded : Superseded rows row) (distinct : ((other :: rest).map TaskRow.id).Nodup)
    (fate : Fate chance row (other :: rest) recovery) :
    Fate chance row rest (recovery.resume registered holds chance other) := by
  have fresh : ∀ later ∈ rest, later.id ≠ other.id := by
    intro later member same
    exact (List.nodup_cons.mp distinct).1 (same ▸ List.mem_map_of_mem member)
  by_cases own : other.id = row.id
  · rcases fate with ⟨listed, -⟩ | ⟨unlisted, -⟩
    · have same : other = row := by
        rcases List.mem_cons.mp listed with same | inside
        · exact same.symm
        · exact absurd own.symm (fresh row inside)
      subst same
      exact .inr ⟨fresh, resuming.resume_superseded superseded⟩
    · exact absurd own (unlisted other (List.mem_cons_self ..))
  · obtain ⟨sameRow, more⟩ :
        (recovery.resume registered holds chance other).engine.row row.id
          = recovery.engine.row row.id ∧
        recovery.calls <:+ (recovery.resume registered holds chance other).calls :=
      resuming.resume_other superseded own
    rcases fate with ⟨listed, stored⟩ | ⟨unlisted, ended⟩
    · refine .inl ⟨?_, sameRow.trans stored⟩
      rcases List.mem_cons.mp listed with same | inside
      · exact absurd (congrArg TaskRow.id same).symm own
      · exact inside
    · exact .inr ⟨fun later member => unlisted later (List.mem_cons_of_mem _ member),
        ended.mono sameRow more⟩

theorem Fate.resumeAll {stale : List TaskRow} (resuming : Resuming rows recovery)
    (origins : ∀ row ∈ stale, ∃ old ∈ rows.records, old.Same row.id row.type row.submittedAt)
    (superseded : Superseded rows row) (distinct : (stale.map TaskRow.id).Nodup)
    (fate : Fate chance row stale recovery) :
    Ended chance row (stale.foldl (Recovery.resume registered holds chance) recovery) := by
  induction stale generalizing recovery with
  | nil =>
    rcases fate with ⟨never, -⟩ | ⟨-, ended⟩
    · cases never
    · exact ended
  | cons other stale ih =>
    rw [List.foldl_cons]
    apply ih
    · exact resuming.resume (origins other (List.mem_cons_self ..))
    · exact fun later member => origins later (List.mem_cons_of_mem _ member)
    · exact (List.nodup_cons.mp distinct).2
    · exact fate.resume resuming superseded distinct

/-! ## The first pass -/

/-- Run to its end with no other goroutine around, a hold may purge the releases and record
its own row. -/
theorem hold_to_end {engine : Engine} (alone : engine.runs = []) (row : TaskRow) (err : Option String)
    (fails : Bool) :
    let started := engine.rehydrate row
    let ended := started.goroutines [.handlerReturns started.gen err, .storeFlag started.gen,
      .saveResult started.gen fails, .clearCancel started.gen]
    ended.runs = [] ∧ ended.ready = flip row.type err engine.ready ∧
      ended.rows = (if fails then purge row.type err engine.rows
        else (purge row.type err engine.rows).put
          { row with status := if err.isSome then .failed else .completed, error := err }) := by
  simp [Engine.goroutines, Engine.advance, Engine.rehydrate, Engine.findRun, Engine.handled,
    Engine.flagged, Engine.recorded, Engine.cleared, Engine.setStage, Engine.savedRows,
    Engine.resultRow, RunEvent.gen, alone]

/-- The row is gone, and a hold has run whose handler succeeded. -/
def Purged (chance : Nat → Chance) (row : TaskRow) (recovery : Recovery) : Prop :=
  recovery.engine.row row.id = none ∧
    ∃ hold, Met chance recovery (.hold hold) fun met => met.handler = none

theorem Purged.mono {after : Recovery} (purged : Purged chance row recovery)
    (same : after.engine.row row.id = recovery.engine.row row.id)
    (more : recovery.calls <:+ after.calls) : Purged chance row after := by
  obtain ⟨gone, hold, met⟩ := purged
  exact ⟨same.trans gone, hold, met.of_suffix more⟩

/-- What the first pass keeps: no goroutine is left, the gate is closed, and a release of
startup is as it was or purged. -/
structure Held (chance : Nat → Chance) (rows : Keyed TaskRow.id) (recovery : Recovery) : Prop where
  alone : recovery.engine.runs = []
  closed : recovery.engine.ready = false
  rooted : Rooted rows recovery.engine
  undispatched : recovery.dispatched = []
  releases : ∀ row ∈ rows.records, row.type = .markReady →
    recovery.engine.row row.id = some row ∨ Purged chance row recovery

theorem goroutines_alone {engine : Engine} (alone : engine.runs = []) (events : List RunEvent) :
    engine.goroutines events = engine := by
  induction events with
  | nil => rfl
  | cons event events ih =>
    have idle : engine.advance event = engine := by
      unfold Engine.advance Engine.findRun
      rw [alone]
      rfl
    have first : engine.goroutines (event :: events)
        = (engine.advance event).goroutines events := rfl
    rw [first, idle]
    exact ih

namespace Held

theorem releases_mono {after : Recovery} (held : Held chance rows recovery)
    (same : ∀ row ∈ rows.records, row.type = .markReady →
      after.engine.row row.id = recovery.engine.row row.id)
    (more : recovery.calls <:+ after.calls) :
    ∀ row ∈ rows.records, row.type = .markReady →
      after.engine.row row.id = some row ∨ Purged chance row after := by
  intro row member isRelease
  have sameRow := same row member isRelease
  exact (held.releases row member isRelease).imp sameRow.trans (·.mono sameRow more)

theorem call (held : Held chance rows recovery) (made : StoreCall) :
    Held chance rows (recovery.call chance made) := by
  have same : (recovery.call chance made).engine = recovery.engine :=
    goroutines_alone held.alone _
  constructor
  · rw [same]
    exact held.alone
  · rw [same]
    exact held.closed
  · rw [same]
    exact held.rooted
  · exact held.undispatched
  · exact held.releases_mono (fun _ _ _ => by rw [same]) (List.suffix_cons ..)

theorem row_put {engine : Engine} (different : other.id ≠ row.id) :
    Engine.row { engine with rows := engine.rows.put other } row.id = engine.row row.id := by
  unfold Engine.row
  rw [Keyed.get_put, if_neg different]

/-- A hold whose handler fails takes no row. -/
theorem row_purge (type : TaskType) (err : Option String) (table : Keyed TaskRow.id) (id : TaskID) :
    (purge type err table).get id = table.get id ∨
      (purge type err table).get id = none ∧ err = none := by
  unfold Engine.purge
  split
  next purges =>
    rw [Keyed.get_filter]
    cases table.get id with
    | none => exact .inl rfl
    | some row =>
      by_cases isRelease : row.type = .markReady
      · exact .inr ⟨by simp [isRelease], purges.2⟩
      · exact .inl (by simp [isRelease])
  · exact .inl rfl

theorem apart {hold : TaskRow} (stored : hold ∈ rows.records) (isHold : hold.type = .markNotReady)
    (member : row ∈ rows.records) (isRelease : row.type = .markReady) : hold.id ≠ row.id := by
  intro same
  obtain rfl := Same.unique stored member same
  rw [isHold] at isRelease
  cases isRelease

/-- The save of the hold's own row leaves the others. -/
theorem row_of_table {ended : Engine} {table : Keyed TaskRow.id} {saved : TaskRow} {fails : Bool}
    (same : ended.rows = if fails then table else table.put saved) (different : saved.id ≠ row.id) :
    ended.row row.id = table.get row.id := by
  unfold Engine.row
  rw [same]
  split
  · rfl
  · rw [Keyed.get_put, if_neg different]

theorem rooted_of_table {engine ended : Engine} {table : Keyed TaskRow.id} {saved : TaskRow}
    {fails : Bool} (rooted : Rooted rows { engine with rows := table })
    (same : ended.rows = if fails then table else table.put saved) (alone : ended.runs = [])
    (origin : ∃ old ∈ rows.records, old.Same saved.id saved.type saved.submittedAt) :
    Rooted rows ended := by
  have stored : Rooted rows { engine with rows := ended.rows } := by
    rw [same]
    split
    · exact rooted
    · exact rooted.put origin
  refine ⟨stored.kept, stored.held, fun run member => ?_⟩
  rw [alone] at member
  cases member

theorem failHold (held : Held chance rows recovery) {hold : TaskRow} (stored : hold ∈ rows.records)
    (isHold : hold.type = .markNotReady) :
    Held chance rows (recovery.save chance (hold.failed noHandler)) := by
  have called : Held chance rows (recovery.call chance (.save (hold.failed noHandler))) :=
    held.call _
  unfold Recovery.save Engine.save
  dsimp only
  split
  · exact called
  · refine ⟨called.alone, called.closed, called.rooted.put ⟨hold, stored, rfl, rfl, rfl⟩,
      called.undispatched, ?_⟩
    refine called.releases_mono (fun row member isRelease => ?_) (List.suffix_refl _)
    have different : (hold.failed noHandler).id ≠ row.id := (apart stored isHold member isRelease :)
    exact row_put different

theorem runHold (held : Held chance rows recovery) {hold : TaskRow} (stored : hold ∈ rows.records)
    (isHold : hold.type = .markNotReady) :
    Held chance rows (recovery.runHold registered chance hold) := by
  unfold Recovery.runHold
  split
  · obtain ⟨alone, ready, table⟩ := hold_to_end held.alone hold (recovery.next chance).handler
      (recovery.next chance).fails
    have purged := held.rooted.purge hold.type (recovery.next chance).handler
    refine ⟨alone, ?_, rooted_of_table purged table alone ⟨hold, stored, rfl, rfl, rfl⟩,
      held.undispatched, ?_⟩
    · refine ready.trans ?_
      rw [isHold, held.closed]
      cases (recovery.next chance).handler <;> rfl
    · intro row member isRelease
      have kept := row_of_table table (apart stored isHold member isRelease :)
      rcases row_purge hold.type (recovery.next chance).handler recovery.engine.rows row.id with
        same | ⟨gone, completed⟩
      · have sameRow := kept.trans same
        exact (held.releases row member isRelease).imp sameRow.trans
          (·.mono sameRow (List.suffix_cons ..))
      · exact .inr ⟨kept.trans gone, hold, [], recovery.calls, rfl, completed⟩
  · exact held.failHold stored isHold

theorem firstPass {stale : List TaskRow} (held : Held chance rows recovery)
    (stored : ∀ row ∈ stale, row ∈ rows.records) :
    Held chance rows (recovery.firstPass registered chance stale) := by
  unfold Recovery.firstPass
  induction stale generalizing recovery with
  | nil => exact held
  | cons row stale ih =>
    have rest : ∀ other ∈ stale, other ∈ rows.records :=
      fun other member => stored other (List.mem_cons_of_mem _ member)
    by_cases isHold : row.type = .markNotReady
    · rw [List.filter_cons_of_pos (by simpa using isHold), List.foldl_cons]
      exact ih (held.runHold (stored row (List.mem_cons_self ..)) isHold) rest
    · rw [List.filter_cons_of_neg (by simpa using isHold)]
      exact ih held rest

theorem resuming (held : Held chance rows recovery) : Resuming rows recovery := by
  have dispatched := held.undispatched
  constructor
  · exact held.rooted
  all_goals simp [dispatched, held.alone, held.closed]

theorem fate (held : Held chance rows recovery) (superseded : Superseded rows row) :
    Fate chance row recovery.engine.stale recovery := by
  rcases held.releases row superseded.stored superseded.isRelease with stored | ⟨gone, hold, ran⟩
  · left
    have member := (Keyed.get_eq_some.mp stored).1
    exact ⟨List.mem_filter.mpr ⟨member, by simpa using superseded.running⟩, stored⟩
  · right
    refine ⟨fun other member => ?_, .purged hold ran gone⟩
    exact Keyed.get_eq_none.mp gone other (List.mem_of_mem_filter member)

end Held

theorem held_boot (chance : Nat → Chance) (rows : Keyed TaskRow.id) : Held chance rows (boot rows) where
  alone := rfl
  closed := rfl
  rooted :=
    { kept := fun row member => ⟨row, member, rfl, rfl, rfl⟩
      held := fun hold member _ => ⟨hold, member, rfl⟩
      runs := by intro run never; cases never }
  undispatched := rfl
  releases row member _ := .inl (Keyed.get_eq_some.mpr ⟨member, rfl⟩)

/-- The recovery stops where a list of the stale tasks fails, or makes its second pass. -/
theorem rehydrate_cases (registered : TaskType → Bool) (holds : LatestHold) (chance : Nat → Chance)
    (rows : Keyed TaskRow.id) :
    ∃ held : Recovery, Held chance rows held ∧
      (rehydrateStaleTasks registered holds chance rows = held ∧
          Met chance held .listStale (fun met => met.fails = true) ∨
        rehydrateStaleTasks registered holds chance rows
          = held.secondPass registered holds chance held.engine.stale) := by
  have start : Held chance rows ((boot rows).call chance .listStale) := (held_boot chance rows).call _
  have same : ((boot rows).call chance .listStale).engine = .boot rows := goroutines_alone rfl _
  have stored : ∀ row ∈ ((boot rows).call chance .listStale).engine.stale, row ∈ rows.records := by
    rw [same]
    exact fun row member => List.mem_of_mem_filter member
  have held : Held chance rows (firstPass registered chance
      ((boot rows).call chance .listStale).engine.stale ((boot rows).call chance .listStale)) :=
    start.firstPass stored
  unfold rehydrateStaleTasks
  dsimp only
  split
  next failed => exact ⟨_, start, .inl ⟨rfl, [], [], rfl, failed⟩⟩
  · split
    · split
      next failed => exact ⟨_, held.call .listStale, .inl ⟨rfl, [], _, rfl, failed⟩⟩
      · exact ⟨_, held.call .listStale, .inr rfl⟩
    next noHold =>
      refine ⟨_, start, .inr ?_⟩
      have none : ((boot rows).call chance .listStale).engine.stale.filter
          (fun row => row.type = .markNotReady) = [] := by
        simpa using noHold
      unfold Recovery.firstPass
      rw [none]
      rfl

/-- A hold wins crash recovery.  Every dispatched `mark-ready` was submitted after every hold
in the store at its check.  A `mark-ready` stored as running no later than some hold is not
dispatched; it is purged by a hold that completed, or recorded Failed, or a list of the stale
tasks, its check or that record failed; and so it stays whatever the goroutines do.  The gate
opens only by a dispatched `mark-ready`. -/
theorem hold_wins_recovery (registered : TaskType → Bool) (holds : LatestHold) (chance : Nat → Chance)
    (rows : Keyed TaskRow.id) :
    let final := rehydrateStaleTasks registered holds chance rows
    (∀ entry ∈ final.dispatched, entry.1.type = .markReady → ∀ hold ∈ entry.2,
      hold.type = .markNotReady → hold.submittedAt < entry.1.submittedAt) ∧
    (∀ row, Superseded rows row → (∀ entry ∈ final.dispatched, entry.1.id ≠ row.id) ∧
      ∀ events, Ended chance row { final with engine := final.engine.goroutines events }) ∧
    ∀ events, (final.engine.goroutines events).ready = true →
      ∃ entry ∈ final.dispatched, entry.1.type = .markReady := by
  intro final
  obtain ⟨held, before, outcome⟩ := rehydrate_cases registered holds chance rows
  have origins : ∀ row ∈ held.engine.stale,
      ∃ old ∈ rows.records, old.Same row.id row.type row.submittedAt :=
    fun row member => before.rooted.kept row (List.mem_of_mem_filter member)
  have resuming : Resuming rows final := by
    rcases outcome with ⟨same, -⟩ | second
    · rw [show final = held from same]
      exact before.resuming
    · rw [show final = _ from second]
      exact before.resuming.resumeAll origins
  refine ⟨resuming.later, ?_, fun events => (resuming.goroutines events).opened⟩
  intro row superseded
  refine ⟨resuming.undispatched superseded, fun events => ?_⟩
  have ended : Ended chance row final := by
    rcases outcome with ⟨same, failed⟩ | second
    · rw [show final = held from same]
      exact .unrecorded .listStale trivial failed
    · rw [show final = _ from second]
      have distinct : (held.engine.stale.map TaskRow.id).Nodup :=
        held.engine.rows.distinct.sublist (List.filter_sublist.map _)
      exact Fate.resumeAll before.resuming origins superseded distinct (before.fate superseded)
  exact ended.mono (resuming.row_goroutines superseded events) (List.suffix_refl _)

def newestHold : LatestHold where
  latest rows := (rows.filter fun row => row.type = .markNotReady).argmax TaskRow.submittedAt
  none_of rows missing row member isHold := by
    have empty := List.argmax_eq_none.mp missing
    have kept : row ∈ rows.filter fun row => row.type = .markNotReady :=
      List.mem_filter.mpr ⟨member, by simpa using isHold⟩
    rw [empty] at kept
    cases kept
  newest rows hold found row member isHold :=
    List.le_of_mem_argmax (List.mem_filter.mpr ⟨member, by simpa using isHold⟩) found

/-- A release submitted before a hold that failed, both left by a crash. -/
def strandedRelease : TaskRow :=
  { id := ⟨"node", .markReady, 0⟩, type := .markReady, status := .running, run := 1, params := .empty
    submittedAt := 3, error := none }

def failedHold : TaskRow :=
  { id := ⟨"node", .markNotReady, 0⟩, type := .markNotReady, status := .failed, run := 1, params := .empty
    submittedAt := 5, error := some "purge failed" }

def stranded : Keyed TaskRow.id := ⟨[strandedRelease, failedHold], by decide⟩

theorem superseded_stranded : Superseded stranded strandedRelease :=
  ⟨List.mem_cons_self .., rfl, rfl, failedHold, List.mem_cons_of_mem _ (List.mem_cons_self ..), rfl,
    by decide⟩

/-- Every call is served, but for the one of this number. -/
def failingCall (failing : Option Nat) : Nat → Chance :=
  fun call => ⟨[], failing == some call, none⟩

/-- The release is recorded Failed; where that record, the third call, fails it stays running. -/
theorem stranded_release_refused :
    (rehydrateStaleTasks (fun _ => true) newestHold (failingCall none) stranded).engine.row
        strandedRelease.id = some (strandedRelease.failed superseded) ∧
      Ended (failingCall (some 2)) strandedRelease
        (rehydrateStaleTasks (fun _ => true) newestHold (failingCall (some 2)) stranded) ∧
      (rehydrateStaleTasks (fun _ => true) newestHold (failingCall (some 2)) stranded).engine.row
        strandedRelease.id = some strandedRelease := by
  have ended (failing : Option Nat) := ((hold_wins_recovery (fun _ => true) newestHold
    (failingCall failing) stranded).2.1 strandedRelease superseded_stranded).2 []
  refine ⟨?_, ended (some 2), by decide⟩
  cases ended none with
  | purged hold ran =>
    obtain ⟨later, earlier, calls, -⟩ := ran
    have made : StoreCall.hold hold ∈ [.save (strandedRelease.failed superseded),
        .latestHold strandedRelease, .listStale] := by
      rw [show [StoreCall.save _, _, _] = _ from calls]
      exact List.mem_append_right _ List.mem_cons_self
    simp at made
  | unrecorded _ _ failed =>
    obtain ⟨_, _, _, fails⟩ := failed
    cases fails
  | failed recorded => exact recorded

end Recovery

end SeiController
