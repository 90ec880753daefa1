import SeiController.Sidecar.TaskLife

/-!
# At most one live run

As long as `Submit` reads the row without error, and no delete or save lands on a row
that a later `Submit` has saved, the row of a live run stays running; so a `Submit` that
finds another status knows that no run is live.
-/

set_option autoImplicit false

namespace SeiController

/-- The order of steps under which the engine keeps to one live run. -/
def LifeAction.Orderly (life : TaskLife) : LifeAction → Prop
  | .submitRead fault => fault = false
  | .delete removal outcome => outcome.writes = true → removal.saves = life.saves
  | .saveResult gen outcome => outcome.writes = true →
      ∀ run ∈ life.runs, run.gen = gen → run.saves = life.saves
  | _ => True

instance (life : TaskLife) (action : LifeAction) : Decidable (action.Orderly life) := by
  cases action <;> unfold LifeAction.Orderly <;> infer_instance

namespace TaskLife

/-! ## Changes that start nothing -/

/-- The runs after a change that starts none and wakes none. -/
structure Tame (before after : List LifeRun) : Prop where
  gens : (after.map LifeRun.gen).Sublist (before.map LifeRun.gen)
  older : ∀ run ∈ after, ∃ old ∈ before, old.gen = run.gen ∧ old.saves = run.saves ∧
    (run.live = true → old.live = true)

namespace Tame

variable {runs : List LifeRun}

theorem refl (runs : List LifeRun) : Tame runs runs :=
  ⟨List.Sublist.refl _, fun run member => ⟨run, member, rfl, rfl, id⟩⟩

theorem setRun (gen : Nat) {f : LifeRun → LifeRun} (sameGen : ∀ run, (f run).gen = run.gen)
    (sameSaves : ∀ run, (f run).saves = run.saves) (tame : ∀ run, (f run).live = true → run.live = true) :
    Tame runs (setRun gen f runs) where
  gens := by
    have same : (TaskLife.setRun gen f runs).map LifeRun.gen = runs.map LifeRun.gen := by
      unfold TaskLife.setRun
      rw [List.map_map]
      apply List.map_congr_left
      intro run _
      simp only [Function.comp_apply]
      split
      · exact sameGen run
      · rfl
    rw [same]
  older run member := by
    obtain ⟨old, inside, rfl⟩ := List.mem_map.mp member
    refine ⟨old, inside, ?_⟩
    split
    · exact ⟨(sameGen old).symm, (sameSaves old).symm, tame old⟩
    · exact ⟨rfl, rfl, id⟩

theorem filter (p : LifeRun → Bool) : Tame runs (runs.filter p) where
  gens := List.filter_sublist.map _
  older run member := ⟨run, List.mem_of_mem_filter member, rfl, rfl, id⟩

end Tame

theorem live_cancelled (run : LifeRun) : { run with cancelled := true }.live = false := by
  simp [LifeRun.live]

theorem live_of_stage {run : LifeRun} (elsewhere : run.stage ≠ .handling) : run.live = false := by
  simp [LifeRun.live, elsewhere]

theorem tame_cancel (gen : Nat) (runs : List LifeRun) : Tame runs (cancel gen runs) := by
  refine .setRun gen (fun _ => rfl) (fun _ => rfl) fun run live => ?_
  rw [live_cancelled] at live
  cases live

/-! ## The invariant -/

def Quiet (life : TaskLife) : Prop :=
  ∀ run ∈ life.runs, run.live = false

structure LifeInv (life : TaskLife) : Prop where
  gens : (life.runs.map LifeRun.gen).Nodup
  bounded : ∀ run ∈ life.runs, run.gen ≤ life.gen
  /-- A run that no `Submit` has saved a row since is the one registered last. -/
  latest : ∀ run ∈ life.runs, run.saves ≤ life.saves ∧ (run.saves = life.saves → run.gen = life.gen)
  entered : ∀ gen, life.entry = some gen → gen ≤ life.gen
  looked : ∀ removal ∈ life.removals, removal.saves ≤ life.saves ∧
    (removal.stage = .deleting → removal.saves = life.saves → life.Quiet)
  /-- What a removal looked up, it cancelled. -/
  cancelled : ∀ removal ∈ life.removals, ∀ gen, removal.entry = some gen → gen ≤ life.gen ∧
    ∀ run ∈ life.runs, run.gen = gen → run.live = false
  /-- A `Submit` about to register has saved its row after everything else. -/
  ahead : ∀ run, life.submit = .registering run →
    (∀ other ∈ life.runs, other.saves < life.saves) ∧
      (∀ removal ∈ life.removals, removal.saves < life.saves) ∧
      ∃ row, life.row = some row ∧ row.status = .running
  waiting : (∃ run, life.submit = .saving run) ∨ (∃ run, life.submit = .registering run) → life.Quiet
  alive : ∀ run ∈ life.runs, run.live = true → run.saves = life.saves ∧ life.entry = some run.gen ∧
    ∃ row, life.row = some row ∧ row.status = .running

namespace LifeInv

variable {life next : TaskLife}

theorem started (started : life.Started) : LifeInv life := by
  obtain ⟨submit, removals, saves, -, ⟨entry, gen, runs⟩ | ⟨row, stored, status, entry, gen, runs⟩⟩ :=
    started
  · constructor <;> simp [runs, removals, submit, entry, Quiet]
  · constructor <;> simp [runs, removals, submit, saves, gen, entry, stored, status, Quiet]

theorem quiet_of_tame (quiet : life.Quiet) (tame : Tame life.runs next.runs) : next.Quiet := by
  intro run member
  obtain ⟨old, inside, -, -, wakes⟩ := tame.older run member
  cases live : run.live with
  | false => rfl
  | true => rw [quiet old inside] at wakes; exact absurd (wakes live) Bool.false_ne_true

/-- A step that starts no run, and touches the row or the registration of a live run not at
all. -/
theorem tame (inv : LifeInv life) (tame : Tame life.runs next.runs) (gen : next.gen = life.gen)
    (saves : next.saves = life.saves)
    (submit : next.submit = life.submit ∨ next.submit = .idle ∨ next.submit = .reading)
    (removals : ∀ removal ∈ next.removals, ∃ old ∈ life.removals, old.saves = removal.saves ∧
      old.entry = removal.entry ∧ (removal.stage = .deleting → old.stage = .deleting))
    (row : next.row = life.row ∨ life.Quiet ∧ ∀ run, life.submit ≠ .registering run)
    (entry : next.entry = life.entry ∨ next.entry = none ∧ life.Quiet) : LifeInv next where
  gens := inv.gens.sublist tame.gens
  bounded run member := by
    obtain ⟨old, inside, same, -, -⟩ := tame.older run member
    rw [gen, ← same]
    exact inv.bounded old inside
  latest run member := by
    obtain ⟨old, inside, sameGen, sameSaves, -⟩ := tame.older run member
    rw [gen, saves, ← sameGen, ← sameSaves]
    exact inv.latest old inside
  entered found registered := by
    rcases entry with same | ⟨gone, -⟩
    · rw [gen]
      exact inv.entered found (same.symm.trans registered)
    · rw [gone] at registered
      cases registered
  looked removal member := by
    obtain ⟨old, inside, same, -, stage⟩ := removals removal member
    rw [saves, ← same]
    refine ⟨(inv.looked old inside).1, fun deleting current => ?_⟩
    exact quiet_of_tame ((inv.looked old inside).2 (stage deleting) current) tame
  cancelled removal member found looked := by
    obtain ⟨old, inside, -, same, -⟩ := removals removal member
    obtain ⟨below, stopped⟩ := inv.cancelled old inside found (same.trans looked)
    refine ⟨gen ▸ below, fun run member' equal => ?_⟩
    obtain ⟨before, inside', sameGen, -, wakes⟩ := tame.older run member'
    cases live : run.live with
    | false => rfl
    | true =>
      rw [stopped before inside' (sameGen.trans equal)] at wakes
      exact absurd (wakes live) Bool.false_ne_true
  ahead run registering := by
    rcases submit with kept | idle | reading
    · obtain ⟨runs, removed, stored⟩ := inv.ahead run (kept.symm.trans registering)
      refine ⟨?_, ?_, ?_⟩
      · intro other member
        obtain ⟨old, inside, -, same, -⟩ := tame.older other member
        rw [saves, ← same]
        exact runs old inside
      · intro removal member
        obtain ⟨old, inside, same, -, -⟩ := removals removal member
        rw [saves, ← same]
        exact removed old inside
      · rcases row with same | ⟨-, never⟩
        · rw [same]
          exact stored
        · exact absurd (kept.symm.trans registering) (never run)
    · rw [idle] at registering
      cases registering
    · rw [reading] at registering
      cases registering
  waiting busy := by
    rcases submit with kept | idle | reading
    · rw [kept] at busy
      exact quiet_of_tame (inv.waiting busy) tame
    · simp [idle] at busy
    · simp [reading] at busy
  alive run member live := by
    obtain ⟨old, inside, sameGen, sameSaves, wakes⟩ := tame.older run member
    have was := wakes live
    obtain ⟨current, registered, stored⟩ := inv.alive old inside was
    have loud : ¬life.Quiet := fun quiet => absurd was (Bool.eq_false_iff.mp (quiet old inside))
    refine ⟨?_, ?_, ?_⟩
    · rw [saves, ← sameSaves]
      exact current
    · rcases entry with same | ⟨-, quiet⟩
      · rw [same, ← sameGen]
        exact registered
      · exact absurd quiet loud
    · rcases row with same | ⟨quiet, -⟩
      · rw [same]
        exact stored
      · exact absurd quiet loud

theorem single (inv : LifeInv life) {run other : LifeRun} (member : run ∈ life.runs)
    (member' : other ∈ life.runs) (live : run.live = true) (current : other.saves = life.saves) :
    run = other := by
  have first := (inv.latest run member).2 (inv.alive run member live).1
  have second := (inv.latest other member').2 current
  exact List.inj_on_of_nodup_map inv.gens member member' (first.trans second.symm)

/-! ## Submit -/

/-- A row that is not running belongs to no live run. -/
theorem quiet_of_row (inv : LifeInv life) (row : ∀ row, life.row = some row → row.status ≠ .running) :
    life.Quiet := by
  intro run member
  cases live : run.live with
  | false => rfl
  | true =>
    obtain ⟨-, -, stored, found, status⟩ := inv.alive run member live
    exact absurd status (row stored found)

theorem read (inv : LifeInv life) :
    LifeInv { life with submit := life.afterRead false } := by
  have unchanged : ∀ stage : SubmitStage, stage = .idle →
      LifeInv { life with submit := stage } := by
    rintro stage rfl
    exact inv.tame (.refl _) rfl rfl (.inr (.inl rfl))
      (fun removal member => ⟨removal, member, rfl, rfl, id⟩) (.inl rfl) (.inl rfl)
  have goesOn : ∀ run, (∀ row, life.row = some row → row.status ≠ .running) →
      LifeInv { life with submit := .saving run } := fun run row =>
    { gens := inv.gens, bounded := inv.bounded, latest := inv.latest, entered := inv.entered
      looked := inv.looked, cancelled := inv.cancelled, alive := inv.alive
      ahead := by intro run never; cases never
      waiting := fun _ => inv.quiet_of_row row }
  unfold afterRead
  rw [if_neg Bool.false_ne_true]
  split
  next missing =>
    refine goesOn 1 ?_
    intro row found
    rw [missing] at found
    cases found
  next row stored =>
    split
    · exact unchanged _ rfl
    · exact unchanged _ rfl
    next failed =>
      refine goesOn _ ?_
      intro found same
      rw [stored] at same
      cases same
      rw [failed]
      intro never
      cases never

theorem submitted (inv : LifeInv life) (quiet : life.Quiet) (run : Nat) (stage : SubmitStage) :
    LifeInv { life.submitted run with submit := stage } where
  gens := inv.gens
  bounded := inv.bounded
  latest other member := by
    have older := (inv.latest other member).1
    constructor
    · exact Nat.le_succ_of_le older
    · intro current
      have current : other.saves = life.saves + 1 := current
      omega
  entered := inv.entered
  looked removal member := ⟨Nat.le_succ_of_le (inv.looked removal member).1, fun _ _ => quiet⟩
  cancelled := inv.cancelled
  ahead other _ :=
    ⟨fun run member => Nat.lt_succ_of_le (inv.latest run member).1,
      fun removal member => Nat.lt_succ_of_le (inv.looked removal member).1,
      runningRow run, rfl, rfl⟩
  waiting _ := quiet
  alive other member live := by
    rw [quiet other member] at live
    cases live

/-- The new run is the only live one, and everything else is older. -/
theorem registered (inv : LifeInv life) {run : Nat} (registering : life.submit = .registering run) :
    LifeInv (life.register run) := by
  obtain ⟨runs, removals, row⟩ := inv.ahead run registering
  have quiet := inv.waiting (.inr ⟨run, registering⟩)
  constructor
  case gens =>
    refine List.nodup_cons.mpr ⟨fun member => ?_, inv.gens⟩
    obtain ⟨old, inside, same⟩ := List.mem_map.mp member
    have below := inv.bounded old inside
    have same : old.gen = life.gen + 1 := same
    omega
  case bounded =>
    intro other member
    rcases List.mem_cons.mp member with rfl | inside
    · exact Nat.le_refl _
    · exact Nat.le_succ_of_le (inv.bounded other inside)
  case latest =>
    intro other member
    rcases List.mem_cons.mp member with rfl | inside
    · exact ⟨Nat.le_refl _, fun _ => rfl⟩
    · exact ⟨(runs other inside).le, fun current => absurd current (runs other inside).ne⟩
  case entered =>
    intro gen registered
    exact (Option.some.inj registered).ge
  case cancelled =>
    intro removal member gen looked
    obtain ⟨below, stopped⟩ := inv.cancelled removal member gen looked
    refine ⟨Nat.le_succ_of_le below, fun other member' same => ?_⟩
    rcases List.mem_cons.mp member' with rfl | inside
    · have same : life.gen + 1 = gen := same
      omega
    · exact stopped other inside same
  case looked =>
    intro removal member
    exact ⟨(removals removal member).le, fun _ current => absurd current (removals removal member).ne⟩
  case ahead =>
    intro other never
    cases never
  case waiting =>
    rintro (⟨other, never⟩ | ⟨other, never⟩) <;> cases never
  case alive =>
    intro other member live
    rcases List.mem_cons.mp member with rfl | inside
    · exact ⟨rfl, rfl, row⟩
    · rw [quiet other inside] at live
      cases live

/-! ## RemoveResult -/

theorem quiet_lookUp (inv : LifeInv life) : life.lookUp.Quiet := by
  intro run member
  unfold lookUp at member
  cases entry : life.entry with
  | none =>
    rw [entry] at member
    cases live : run.live with
    | false => rfl
    | true =>
      have registered := (inv.alive run member live).2.1
      rw [entry] at registered
      cases registered
  | some gen =>
    rw [entry] at member
    obtain ⟨old, inside, rfl⟩ := List.mem_map.mp member
    split
    · exact live_cancelled old
    next other =>
      cases live : old.live with
      | false => rfl
      | true =>
        have registered := (inv.alive old inside live).2.1
        rw [entry] at registered
        exact absurd (Option.some.inj registered).symm other

theorem tame_lookUp (life : TaskLife) : Tame life.runs life.lookUp.runs := by
  unfold lookUp
  cases life.entry with
  | none => exact .refl _
  | some gen => exact tame_cancel gen _

theorem lookedUp (inv : LifeInv life) (idle : life.submit = .idle) : LifeInv life.lookUp := by
  have quiet := inv.quiet_lookUp
  -- the runs change as in any tame step; only the new removal is looked at apart
  have before : LifeInv { life.lookUp with removals := life.removals } :=
    inv.tame (tame_lookUp life) rfl rfl (.inl rfl)
      (fun removal member => ⟨removal, member, rfl, rfl, id⟩) (.inl rfl) (.inl rfl)
  refine { before with looked := ?_, cancelled := ?_, ahead := ?_ }
  · intro removal member
    rcases List.mem_cons.mp member with rfl | inside
    · exact ⟨Nat.le_refl _, fun _ _ => quiet⟩
    · exact before.looked removal inside
  · intro removal member gen looked
    rcases List.mem_cons.mp member with rfl | inside
    · exact ⟨inv.entered gen looked, fun run member' _ => quiet run member'⟩
    · exact before.cancelled removal inside gen looked
  · intro run registering
    have registering : life.submit = .registering run := registering
    rw [idle] at registering
    cases registering

theorem removals_erase {removal other : Removal} {removals : List Removal}
    (member : other ∈ removals.erase removal) : ∃ old ∈ removals, old.saves = other.saves ∧
      old.entry = other.entry ∧ (other.stage = .deleting → old.stage = .deleting) :=
  ⟨other, List.mem_of_mem_erase member, rfl, rfl, id⟩

theorem deleted (inv : LifeInv life) {removal : Removal} (member : removal ∈ life.removals)
    (deleting : removal.stage = .deleting) {outcome : StoreOutcome}
    (orderly : outcome.writes = true → removal.saves = life.saves) :
    LifeInv (life.delete removal outcome) := by
  have written : outcome.writes = true →
      life.Quiet ∧ ∀ run, life.submit ≠ .registering run := by
    intro writes
    refine ⟨(inv.looked removal member).2 deleting (orderly writes), fun run registering => ?_⟩
    exact absurd (orderly writes) ((inv.ahead run registering).2.1 removal member).ne
  cases outcome with
  | ok =>
    refine inv.tame (.refl _) rfl rfl (.inl rfl) ?_ (.inr (written rfl)) (.inl rfl)
    intro other inside
    unfold delete at inside
    dsimp only at inside
    split at inside
    · rcases List.mem_cons.mp inside with rfl | inside
      · exact ⟨removal, member, rfl, rfl, fun _ => deleting⟩
      · exact removals_erase inside
    · exact removals_erase inside
  | failed wrote =>
    refine inv.tame (.refl _) rfl rfl (.inl rfl) (fun other inside => removals_erase inside) ?_
      (.inl rfl)
    cases wrote with
    | false => exact .inl rfl
    | true => exact .inr (written rfl)

/-- The registered run is not live, so no run is. -/
theorem quiet_of_entry (inv : LifeInv life) {gen : Nat} (registered : life.entry = some gen)
    (stopped : ∀ run ∈ life.runs, run.gen = gen → run.live = false) : life.Quiet := by
  intro run member
  cases live : run.live with
  | false => rfl
  | true =>
    have same : gen = run.gen :=
      Option.some.inj (registered.symm.trans (inv.alive run member live).2.1)
    rw [stopped run member same.symm] at live
    cases live

theorem unregistered (inv : LifeInv life) {removal : Removal} (member : removal ∈ life.removals) :
    LifeInv (life.unregister removal) := by
  refine inv.tame (.refl _) rfl rfl (.inl rfl) (fun other inside => removals_erase inside) (.inl rfl) ?_
  unfold unregister
  dsimp only
  split
  next same =>
    cases looked : removal.entry with
    | none => exact .inl (same.trans looked).symm
    | some gen =>
      refine .inr ⟨rfl, inv.quiet_of_entry (same.trans looked) ?_⟩
      exact (inv.cancelled removal member gen looked).2
  · exact .inl rfl

/-! ## The goroutine of a run -/

theorem moved (inv : LifeInv life) (gen : Nat) {f : LifeRun → LifeRun}
    (sameGen : ∀ run, (f run).gen = run.gen) (sameSaves : ∀ run, (f run).saves = run.saves)
    (tame : ∀ run, (f run).live = true → run.live = true) :
    LifeInv { life with runs := setRun gen f life.runs } :=
  inv.tame (.setRun gen sameGen sameSaves tame) rfl rfl (.inl rfl)
    (fun removal member => ⟨removal, member, rfl, rfl, id⟩) (.inl rfl) (.inl rfl)

theorem found {gen : Nat} {run : LifeRun} (found : life.findRun gen = some run) :
    run ∈ life.runs ∧ run.gen = gen :=
  ⟨List.mem_of_find?_eq_some found, by simpa using List.find?_some found⟩

theorem saved (inv : LifeInv life) {run : LifeRun} (member : run ∈ life.runs)
    {err : Option HandlerError} (saving : run.stage = .saving err) {outcome : StoreOutcome}
    (orderly : outcome.writes = true → run.saves = life.saves) :
    LifeInv (life.saveResult run err outcome) := by
  have cleared : Tame life.runs
      (setRun run.gen (fun run => { run with stage := .clearing }) life.runs) := by
    refine .setRun run.gen (fun _ => rfl) (fun _ => rfl) fun old live => ?_
    simp [LifeRun.live] at live
  unfold saveResult
  dsimp only
  split
  next writes =>
    have current := orderly writes
    refine inv.tame cleared rfl rfl (.inl rfl) (fun removal member => ⟨removal, member, rfl, rfl, id⟩)
      (.inr ⟨?_, ?_⟩) (.inl rfl)
    · intro other member'
      cases live : other.live with
      | false => rfl
      | true =>
        -- the live run would be the one that is saving
        have same := inv.single member' member live current
        rw [same, live_of_stage (by rw [saving]; intro never; cases never)] at live
        cases live
    · intro number registering
      exact absurd current ((inv.ahead number registering).1 run member).ne
  · exact inv.tame cleared rfl rfl (.inl rfl) (fun removal member => ⟨removal, member, rfl, rfl, id⟩)
      (.inl rfl) (.inl rfl)

theorem clearedCancel (inv : LifeInv life) {run : LifeRun} (member : run ∈ life.runs)
    (clearing : run.stage = .clearing) : LifeInv (life.clearCancel run) := by
  refine inv.tame (.filter _) rfl rfl (.inl rfl) (fun removal member => ⟨removal, member, rfl, rfl, id⟩)
    (.inl rfl) ?_
  unfold clearCancel
  dsimp only
  split
  next registered =>
    refine .inr ⟨rfl, inv.quiet_of_entry registered ?_⟩
    intro other member' same
    have equal := List.inj_on_of_nodup_map inv.gens member' member same
    rw [equal]
    exact live_of_stage (by rw [clearing]; intro never; cases never)
  · exact .inl rfl

/-! ## Every step -/

theorem step (inv : LifeInv life) {action : LifeAction} (orderly : action.Orderly life)
    (moved : life.step action = some next) : LifeInv next := by
  cases action with
  | submit =>
    simp only [TaskLife.step, Option.ite_none_right_eq_some, Option.some.injEq] at moved
    obtain ⟨-, rfl⟩ := moved
    exact inv.tame (.refl _) rfl rfl (.inr (.inr rfl))
      (fun removal member => ⟨removal, member, rfl, rfl, id⟩) (.inl rfl) (.inl rfl)
  | submitRead fault =>
    simp only [TaskLife.step, Option.ite_none_right_eq_some, Option.some.injEq] at moved
    obtain ⟨-, rfl⟩ := moved
    obtain rfl : fault = false := orderly
    exact inv.read
  | submitSave outcome =>
    simp only [TaskLife.step] at moved
    split at moved
    next run saving =>
      cases moved
      have quiet := inv.waiting (.inl ⟨run, saving⟩)
      match outcome with
      | .ok => exact inv.submitted quiet run _
      | .failed true => exact inv.submitted quiet run _
      | .failed false =>
        exact inv.tame (.refl _) rfl rfl (.inr (.inl rfl))
          (fun removal member => ⟨removal, member, rfl, rfl, id⟩) (.inl rfl) (.inl rfl)
    · cases moved
  | register =>
    simp only [TaskLife.step] at moved
    split at moved
    next run registering =>
      cases moved
      exact inv.registered registering
    · cases moved
  | remove =>
    simp only [TaskLife.step, Option.ite_none_right_eq_some, Option.some.injEq] at moved
    obtain ⟨idle, rfl⟩ := moved
    exact inv.lookedUp idle
  | delete removal outcome =>
    simp only [TaskLife.step, Option.ite_none_right_eq_some, Option.some.injEq] at moved
    obtain ⟨⟨member, deleting⟩, rfl⟩ := moved
    exact inv.deleted member deleting orderly
  | unregister removal =>
    simp only [TaskLife.step, Option.ite_none_right_eq_some, Option.some.injEq] at moved
    obtain ⟨⟨-, member, -⟩, rfl⟩ := moved
    exact inv.unregistered member
  | handlerReturns gen err =>
    simp only [TaskLife.step] at moved
    split at moved
    · simp only [Option.ite_none_right_eq_some, Option.some.injEq] at moved
      obtain ⟨-, rfl⟩ := moved
      refine inv.moved gen (fun _ => rfl) (fun _ => rfl) fun run live => ?_
      simp [handlerReturns, LifeRun.live] at live
    · cases moved
  | checkCancelled gen =>
    simp only [TaskLife.step] at moved
    split at moved
    · split at moved
      · cases moved
        have checked : ∀ run, (checkCancelled run).gen = run.gen ∧
            (checkCancelled run).saves = run.saves ∧
            ((checkCancelled run).live = true → run.live = true) := by
          intro run
          unfold checkCancelled
          split
          · split <;> simp [LifeRun.live]
          · simp [LifeRun.live]
          · exact ⟨rfl, rfl, id⟩
        exact inv.moved gen (fun run => (checked run).1) (fun run => (checked run).2.1)
          fun run => (checked run).2.2
      · cases moved
    · cases moved
  | saveResult gen outcome =>
    simp only [TaskLife.step] at moved
    split at moved
    next run found' =>
      obtain ⟨member, same⟩ := found found'
      split at moved
      next err saving =>
        cases moved
        exact inv.saved member saving fun writes => orderly writes run member same
      · cases moved
    · cases moved
  | clearCancel gen =>
    simp only [TaskLife.step] at moved
    split at moved
    next run found' =>
      simp only [Option.ite_none_right_eq_some, Option.some.injEq] at moved
      obtain ⟨⟨-, clearing⟩, rfl⟩ := moved
      exact inv.clearedCancel (found found').1 clearing
    · cases moved

end LifeInv

/-! ## The engine's guarantee, and how it is lost -/

/-- Under an orderly schedule at most one run of the task is live, with its context
uncancelled, at any moment. -/
theorem at_most_one_live_run {life : TaskLife}
    (reached : life.Reached fun life action => action.Orderly life) :
    (life.runs.filter LifeRun.live).length ≤ 1 := by
  have inv : LifeInv life :=
    Reachable.invariant (fun _ started => .started started)
      (fun _ _ inv ⟨_, orderly, moved⟩ => inv.step orderly moved) reached
  have distinct : (life.runs.filter LifeRun.live).Nodup :=
    (List.Nodup.of_map _ inv.gens).filter _
  match live : life.runs.filter LifeRun.live with
  | [] => exact Nat.zero_le 1
  | [run] => exact Nat.le_refl 1
  | run :: other :: rest =>
    exfalso
    have first : run ∈ life.runs.filter LifeRun.live := by simp [live]
    have second : other ∈ life.runs.filter LifeRun.live := by simp [live]
    obtain ⟨member, isLive⟩ := List.mem_filter.mp first
    obtain ⟨member', isLive'⟩ := List.mem_filter.mp second
    have same := inv.single member member' isLive (inv.alive other member' isLive').1
    rw [live, same] at distinct
    simp at distinct

def unsubmitted : TaskLife := ⟨none, none, 0, .idle, [], [], 0, []⟩

def submission (fault : Bool) : List LifeAction :=
  [.submit, .submitRead fault, .submitSave .ok, .register]

/-- `Submit` ignores a failed read: with one run live it registers a second. -/
theorem failed_read_starts_second_run :
    ∃ life : TaskLife, life.Reached (fun _ _ => True) ∧ (life.runs.filter LifeRun.live).length = 2 := by
  have started : unsubmitted.Started := ⟨rfl, rfl, rfl, rfl, .inl ⟨rfl, rfl, rfl⟩⟩
  exact ⟨_, Reached.play (fun _ _ => true) (.start started) (fun _ _ _ => trivial)
    (submission false ++ submission true) rfl, by decide⟩

/-- A task that is submitted, removed while it runs, and submitted again. -/
theorem resubmitted_task_runs_once :
    ∃ life : TaskLife, life.Reached (fun life action => action.Orderly life) ∧
      (life.runs.filter LifeRun.live).length = 1 ∧ life.runs.length = 2 ∧
      (life.runs.filter LifeRun.live).length ≤ 1 := by
  have started : unsubmitted.Started := ⟨rfl, rfl, rfl, rfl, .inl ⟨rfl, rfl, rfl⟩⟩
  have reached := Reached.play (fun life action => decide (action.Orderly life))
    (.start started : unsubmitted.Reached fun life action => action.Orderly life)
    (fun _ _ orderly => of_decide_eq_true orderly)
    (submission false ++ [.remove, .delete ⟨some 1, .deleting, 1⟩ .ok,
      .unregister ⟨some 1, .unregistering, 1⟩] ++ submission false) rfl
  exact ⟨_, reached, by decide, by decide, at_most_one_live_run reached⟩

end TaskLife

end SeiController
