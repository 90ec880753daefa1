import Mathlib.Data.List.DropRight
import Mathlib.Data.List.Flatten
import Mathlib.Data.List.Nodup
import Mathlib.Data.Set.Function
import SeiController.Planner.PlanTypes

/-!
# The order of a plan's tasks

What has to come before what in a plan is read off one fixed sequence, `taskOrder`, and holds
of every plan that picks its tasks from it.  The splice of the overlay numbers the tasks anew
and stays within the sequence.
-/

set_option autoImplicit false

namespace SeiController

/-! ## What is asked of a plan -/

/-- `early` has to stand before `late` wherever a plan has both. -/
def standsBefore : TaskType → TaskType → Bool
  | .ensureDataPVC, .applyStatefulSet => true
  | .validateSigningKey, .applyStatefulSet => true
  | .validateNodeKey, .applyStatefulSet => true
  | .validateOperatorKeyring, .applyStatefulSet => true
  | .configureGenesis, .configApply => true
  | .configApply, .configPatch => true
  | .configApply, .configureStateSync => true
  | .configApply, .setGenesisPeers => true
  | .configValidate, .markReady => true
  | .configValidate, .replacePod => true
  | .configValidate, .restartSeid => true
  | _, _ => false

def SeiNode.overlays (node : SeiNode) : Bool :=
  !node.spec.configValues.isEmpty || node.spec.isAutobahn

/-- What is laid over it: the user's entries and the engine's keys. -/
def overlayPatch (node : SeiNode) : Except String PatchFiles := do
  let user ← configValuesOverlay node.spec.configValues
  mergeOverlayPatches user (consensusOverlay node)

def TaskPlan.Numbered (plan : TaskPlan) : Prop :=
  ∀ (index : Nat) (task : PlannedTask), plan.tasks[index]? = some task →
    task.id = deterministicTaskID plan.id task.type index

def PatchesPeers (node : SeiNode) (tasks : List PlannedTask) : Prop :=
  ∀ task ∈ tasks, task.type = .configPatch → task.params = .configPatch (p2pConfigPatch node)

/-! ## Numbering -/

theorem numbered_assembleSteps (planID : String) (steps : List PlanStep) :
    (assembleSteps planID steps).Numbered := by
  intro index task found
  unfold assembleSteps buildTasks at found
  simp only [List.getElem?_mapIdx, Option.map_eq_some_iff] at found
  obtain ⟨step, -, rfl⟩ := found
  rfl

/-- What follows the last separator is determined by the text. -/
theorem eq_of_last_part {sep : Char} {front back x y : List Char}
    (same : front ++ sep :: x = back ++ sep :: y) (left : sep ∉ x) (right : sep ∉ y) : x = y := by
  have part (front : List Char) {rest : List Char} (absent : sep ∉ rest) :
      (front ++ sep :: rest).rtakeWhile (· != sep) = rest := by
    have passes : ∀ c ∈ rest.reverse, (c != sep) = true := by
      intro c member
      rw [bne_iff_ne]
      rintro rfl
      exact absent (List.mem_reverse.mp member)
    simp only [List.rtakeWhile, List.reverse_append, List.reverse_cons, List.append_assoc]
    rw [List.takeWhile_append_of_pos passes]
    simp
  rw [← part front left, same, part back right]

theorem TaskID.planIndex_of_seed {left right : TaskID} (same : left.seed = right.seed) :
    left.planIndex = right.planIndex := by
  have noSlash (n : Nat) : '/' ∉ (toString n).toList := by
    intro member
    have digit : '/' ∈ Nat.toDigits 10 n := by simpa [Nat.repr] using member
    have isDigit := Nat.isDigit_of_mem_toDigits (b := 10) (by decide) (by decide) digit
    revert isDigit
    decide
  have chars := congrArg String.toList same
  simp only [seed, String.toList_append, String.toList_singleton, show "/" = String.singleton '/' from rfl,
    List.append_assoc, List.singleton_append] at chars
  simp only [← List.append_assoc] at chars
  have last : Nat.toDigits 10 left.planIndex = Nat.toDigits 10 right.planIndex := by
    simpa [Nat.repr] using eq_of_last_part chars (noSlash _) (noSlash _)
  have value := congrArg (Nat.ofDigitChars 10 · 0) last
  simpa [Nat.ofDigitChars_toDigits (b := 10) (by decide) (by decide)] using value

def TaskPlan.seeds (plan : TaskPlan) : List String :=
  plan.tasks.map fun task => task.id.seed

/-- Identifiers hashed from the seeds are distinct, if the hash tells the plan's seeds apart. -/
theorem TaskPlan.Numbered.nodup {plan : TaskPlan} (numbered : plan.Numbered) {β : Type}
    {newSHA1 : String → β} (apart : Set.InjOn newSHA1 { seed | seed ∈ plan.seeds }) :
    (plan.seeds.map newSHA1).Nodup := by
  refine List.Nodup.map_on (fun x inside y within same => apart inside within same) ?_
  rw [List.Nodup, List.pairwise_iff_getElem]
  intro first second firstBound secondBound less same
  simp only [seeds, List.length_map] at firstBound secondBound
  simp only [seeds, List.getElem_map] at same
  rw [numbered first _ (List.getElem?_eq_getElem firstBound),
    numbered second _ (List.getElem?_eq_getElem secondBound)] at same
  have positions : first = second := TaskID.planIndex_of_seed same
  omega

def renumber (planID : String) (start : Nat) : List PlannedTask → List PlannedTask
  | [] => []
  | task :: rest =>
    { task with id := deterministicTaskID planID task.type start }
      :: renumber planID (start + 1) rest

theorem renumber_append (planID : String) (front back : List PlannedTask) :
    ∀ start : Nat, renumber planID start (front ++ back) =
      renumber planID start front ++ renumber planID (start + front.length) back := by
  induction front with
  | nil => simp [renumber]
  | cons task front ih =>
    intro start
    simp only [List.cons_append, renumber, ih, List.length_cons]
    rw [Nat.add_assoc start 1, Nat.add_comm 1]

theorem renumber_numbered {planID : String} {task : PlannedTask} (tasks : List PlannedTask) :
    ∀ start index : Nat, (renumber planID start tasks)[index]? = some task →
      task.id = deterministicTaskID planID task.type (start + index) := by
  induction tasks with
  | nil => simp [renumber]
  | cons head rest ih =>
    intro start index found
    cases index with
    | zero =>
      cases found
      rfl
    | succ index =>
      rw [ih (start + 1) index found, Nat.add_assoc start 1, Nat.add_comm 1]

theorem mem_renumber {planID : String} {task : PlannedTask} {tasks : List PlannedTask} :
    ∀ {start : Nat}, task ∈ renumber planID start tasks →
      ∃ source ∈ tasks, task.type = source.type ∧ task.params = source.params := by
  induction tasks with
  | nil => simp [renumber]
  | cons head rest ih =>
    intro start member
    rcases List.mem_cons.mp member with rfl | later
    · exact ⟨head, List.mem_cons_self, rfl, rfl⟩
    · obtain ⟨source, listed, same⟩ := ih later
      exact ⟨source, List.mem_cons_of_mem _ listed, same⟩

theorem types_renumber (planID : String) (tasks : List PlannedTask) :
    ∀ start : Nat,
      (renumber planID start tasks).map PlannedTask.type = tasks.map PlannedTask.type := by
  induction tasks with
  | nil => simp [renumber]
  | cons task rest ih => simp [renumber, ih]

def overlaidTask (planID : String) (patch : PatchFiles) (task : PlannedTask) : List PlannedTask :=
  if task.type = .configValidate then
    [buildPlannedTask planID .configPatch 0 (.configPatch patch), task]
  else
    [task]

theorem spliceOverlay_eq (planID : String) (patch : PatchFiles) (rest : List PlannedTask) :
    ∀ done : List PlannedTask, spliceOverlay planID patch done rest =
      done ++ renumber planID done.length (rest.flatMap (overlaidTask planID patch)) := by
  induction rest with
  | nil => simp [spliceOverlay, renumber]
  | cons planned rest ih =>
    intro done
    rw [spliceOverlay, ih, List.flatMap_cons, renumber_append]
    by_cases judged : planned.type = .configValidate
    · simp [overlaidTask, judged, renumber, buildPlannedTask]
    · simp [overlaidTask, judged, renumber]

/-! ## The sequence -/

/-- The tasks of every such plan but the overlay, in the one order they are ever in. -/
def taskOrder : List TaskType :=
  [.ensureDataPVC, .validateSigningKey, .validateNodeKey, .validateOperatorKeyring,
    .applyRBACProxyConfig, .applyStatefulSet, .applyService, .snapshotRestore, .generateIdentity,
    .generateGentx, .uploadGenesisArtifacts, .configureGenesis, .configApply, .configPatch,
    .configureStateSync, .setGenesisPeers, .configValidate, .replacePod, .observeImage, .markReady,
    .restartSeid, .recordMaintenanceHold]

def overlaidOrder : List TaskType :=
  taskOrder.flatMap overlaidTypes

theorem taskOrder_sublist : taskOrder.Sublist overlaidOrder := by
  decide

/-- What may not stand after a type: what has to come before it, and after a validation
whatever writes a configuration file. -/
def MayFollow (first second : TaskType) : Prop :=
  standsBefore second first = false ∧
    (first = .configValidate → second ≠ .configValidate ∧ second ∉ mountedConfigWriters)

instance (first second : TaskType) : Decidable (MayFollow first second) :=
  inferInstanceAs (Decidable (_ ∧ _))

theorem overlaidOrder_pairwise : overlaidOrder.Pairwise MayFollow := by
  decide

theorem standsBefore_irrefl (type : TaskType) : standsBefore type type = false := by
  cases type <;> rfl

theorem lt_of_standsBefore {types : List TaskType} (follows : types.Pairwise MayFollow)
    {early late : TaskType} (before : standsBefore early late = true) {first second : Nat}
    (early_at : types[first]? = some early) (late_at : types[second]? = some late) :
    first < second := by
  obtain ⟨firstBound, firstSame⟩ := List.getElem?_eq_some_iff.mp early_at
  obtain ⟨secondBound, secondSame⟩ := List.getElem?_eq_some_iff.mp late_at
  by_contra reached
  rcases Nat.lt_or_eq_of_le (Nat.le_of_not_lt reached) with less | same
  · have allowed := (List.pairwise_iff_getElem.mp follows second first secondBound firstBound less).1
    rw [firstSame, secondSame, before] at allowed
    cases allowed
  · subst same
    rw [firstSame] at secondSame
    rw [secondSame, standsBefore_irrefl] at before
    cases before

/-! ## The splice in a plan -/

theorem consensusOverlay_isNone (node : SeiNode) :
    (consensusOverlay node).isNone = !node.spec.isAutobahn := by
  unfold consensusOverlay
  cases node.spec.isAutobahn with
  | false => rfl
  | true => cases node.spec.isEvmOnly <;> rfl

theorem overlays_eq (node : SeiNode) :
    (node.spec.configValues.isEmpty && (consensusOverlay node).isNone) = !node.overlays := by
  rw [consensusOverlay_isNone, SeiNode.overlays]
  cases node.spec.configValues.isEmpty <;> rfl

/-- What `withConfigValues` does to the tasks of a plan. -/
inductive Laid (node : SeiNode) (plan result : TaskPlan) : Prop
  | plain (none : node.overlays = false) (tasks : result.tasks = plan.tasks)
  | overlay (patch : PatchFiles) (asked : node.overlays = true)
      (merged : overlayPatch node = .ok patch)
      (tasks : result.tasks =
        renumber plan.id 0 (plan.tasks.flatMap (overlaidTask plan.id patch)))
      (judged : result.tasks.length ≠ plan.tasks.length)

theorem withConfigValues_laid {platform : Platform} {plan result : TaskPlan} {node : SeiNode}
    (overlaid : withConfigValues platform plan node = .ok result) : Laid node plan result := by
  unfold withConfigValues at overlaid
  simp only [Except.bind_ok_iff, overlays_eq] at overlaid
  obtain ⟨hash, -, overlaid⟩ := overlaid
  split at overlaid
  next plain =>
    cases overlaid
    exact .plain (by simpa using plain) rfl
  next asked =>
    simp only [Except.bind_ok_iff] at overlaid
    obtain ⟨user, entries, patch, merged, overlaid⟩ := overlaid
    split at overlaid
    · simp [throw, throwThe, MonadExceptOf.throw] at overlaid
    next longer =>
      cases overlaid
      refine .overlay patch (by simpa using asked) ?_ (spliceOverlay_eq plan.id patch plan.tasks [])
        longer
      unfold overlayPatch
      rw [entries]
      exact merged

theorem withConfigValues_plain (platform : Platform) (plan : TaskPlan) {node : SeiNode}
    (plain : node.overlays = false) :
    ∃ hash, withConfigValues platform plan node = .ok { plan with configValuesHash := hash } := by
  unfold SeiNode.overlays at plain
  simp only [Bool.or_eq_false_iff, Bool.not_eq_false', List.isEmpty_iff] at plain
  have engine : consensusOverlay node = none := by
    rw [← Option.isNone_iff_eq_none, consensusOverlay_isNone, plain.2]
    rfl
  refine ⟨platform.sha256 (encodeTuples (List.mergeSort [] fun left right => left ≤ right)), ?_⟩
  unfold withConfigValues
  rw [plain.1, engine]
  rfl

/-! ## What a sequence is -/

/-- The plan as the node's overlay leaves it: every task carries the identifier of its own
place, no task stands before one it depends on, and the overlay is the last word before the
validation. -/
structure Sequenced (node : SeiNode) (plan : TaskPlan) : Prop where
  numbered : plan.Numbered
  distinct : ∀ {β : Type} (newSHA1 : String → β),
    Set.InjOn newSHA1 { seed | seed ∈ plan.seeds } → (plan.seeds.map newSHA1).Nodup
  ordered : ∀ early late, standsBefore early late = true → ∀ first second : Nat,
    plan.types[first]? = some early → plan.types[second]? = some late → first < second
  plain : node.overlays = false → PatchesPeers node plan.tasks
  overlaid : node.overlays = true → ∃ front overlay judge back patch,
    plan.tasks = front ++ overlay :: judge :: back ∧
    overlay.type = .configPatch ∧ overlayPatch node = .ok patch ∧
    overlay.params = .configPatch patch ∧ judge.type = .configValidate ∧
    (∀ task ∈ back, task.type ∉ mountedConfigWriters) ∧ PatchesPeers node (front ++ judge :: back)

/-- The types of the plan's tasks but the overlay, the one right before the validation. -/
def TaskPlan.typesBeneath (plan : TaskPlan) (node : SeiNode) : List TaskType :=
  if node.overlays then plan.types.eraseIdx (plan.types.idxOf .configValidate - 1) else plan.types

/-- A plan as its builder hands it to the splice. -/
structure Base (node : SeiNode) (prog : List TaskType) (plan : TaskPlan) : Prop where
  numbered : plan.Numbered
  types : plan.types = prog
  picked : prog.Sublist taskOrder
  peers : PatchesPeers node plan.tasks

theorem Base.plain {node : SeiNode} {prog : List TaskType} {plan : TaskPlan}
    (base : Base node prog plan) (unasked : node.overlays = false) : Sequenced node plan where
  numbered := base.numbered
  distinct _ := base.numbered.nodup
  ordered early late before first second early_at late_at := by
    have follows : plan.types.Pairwise MayFollow := by
      rw [base.types]
      exact (overlaidOrder_pairwise.sublist taskOrder_sublist).sublist base.picked
    exact lt_of_standsBefore follows before early_at late_at
  plain _ := base.peers
  overlaid asked := by
    rw [unasked] at asked
    cases asked

theorem flatMap_overlaidTask {planID : String} {patch : PatchFiles} {tasks : List PlannedTask}
    (unjudged : ∀ task ∈ tasks, task.type ≠ .configValidate) :
    tasks.flatMap (overlaidTask planID patch) = tasks := by
  induction tasks with
  | nil => rfl
  | cons task rest ih =>
    rw [List.flatMap_cons, ih fun other member => unjudged other (List.mem_cons_of_mem _ member),
      overlaidTask, if_neg (unjudged task List.mem_cons_self)]
    rfl

theorem Base.split {node : SeiNode} {prog : List TaskType} {plan : TaskPlan}
    (base : Base node prog plan) (judged : .configValidate ∈ prog) :
    ∃ front judge back, plan.tasks = front ++ judge :: back ∧ judge.type = .configValidate ∧
      (∀ task ∈ front, task.type ≠ .configValidate) ∧
      ∀ task ∈ back, task.type ≠ .configValidate ∧ task.type ∉ mountedConfigWriters := by
  have follows : plan.types.Pairwise MayFollow := by
    rw [base.types]
    exact (overlaidOrder_pairwise.sublist taskOrder_sublist).sublist base.picked
  rw [← base.types] at judged
  obtain ⟨judge, listed, type⟩ := List.mem_map.mp judged
  obtain ⟨front, back, split⟩ := List.append_of_mem listed
  unfold TaskPlan.types at follows
  rw [split, List.map_append, List.map_cons, List.pairwise_append, List.pairwise_cons] at follows
  refine ⟨front, judge, back, split, type, fun task member same => ?_, fun task member => ?_⟩
  · have after := follows.2.2 task.type (List.mem_map_of_mem member) judge.type List.mem_cons_self
    exact (after.2 same).1 type
  · exact (follows.2.1.1 task.type (List.mem_map_of_mem member)).2 type

theorem map_type_overlaidTask (planID : String) (patch : PatchFiles) (tasks : List PlannedTask) :
    (tasks.flatMap (overlaidTask planID patch)).map PlannedTask.type =
      (tasks.map PlannedTask.type).flatMap overlaidTypes := by
  induction tasks with
  | nil => rfl
  | cons task rest ih =>
    rw [List.flatMap_cons, List.map_append, ih, List.map_cons, List.flatMap_cons]
    congr 1
    unfold overlaidTask overlaidTypes
    split
    · rfl
    · rfl

section

variable {node : SeiNode} {prog : List TaskType} {plan result : TaskPlan} {patch : PatchFiles}

theorem Base.judged (base : Base node prog plan)
    (tasks : result.tasks = renumber plan.id 0 (plan.tasks.flatMap (overlaidTask plan.id patch)))
    (longer : result.tasks.length ≠ plan.tasks.length) : .configValidate ∈ prog := by
  by_contra absent
  have unjudged : ∀ task ∈ plan.tasks, task.type ≠ .configValidate := by
    intro task member same
    rw [← base.types, ← same] at absent
    exact absent (List.mem_map_of_mem member)
  apply longer
  have kept := congrArg List.length (types_renumber plan.id plan.tasks 0)
  rw [List.length_map, List.length_map] at kept
  rw [tasks, flatMap_overlaidTask unjudged, kept]

theorem Base.spliced (base : Base node prog plan)
    (tasks : result.tasks = renumber plan.id 0 (plan.tasks.flatMap (overlaidTask plan.id patch)))
    (longer : result.tasks.length ≠ plan.tasks.length) :
    ∃ front judge back, plan.tasks = front ++ judge :: back ∧ judge.type = .configValidate ∧
      (∀ task ∈ front, task.type ≠ .configValidate) ∧
      (∀ task ∈ back, task.type ∉ mountedConfigWriters) ∧
      result.tasks = renumber plan.id 0
        (front ++ buildPlannedTask plan.id .configPatch 0 (.configPatch patch) :: judge :: back) := by
  obtain ⟨front, judge, back, split, type, before, after⟩ := base.split (base.judged tasks longer)
  refine ⟨front, judge, back, split, type, before, fun task member => (after task member).2, ?_⟩
  rw [tasks, split, List.flatMap_append, List.flatMap_cons, flatMap_overlaidTask before,
    flatMap_overlaidTask fun task member => (after task member).1, overlaidTask, if_pos type]
  rfl

/-- Erasing what stands right before the first validation undoes the splice. -/
theorem eraseIdx_overlay {front back : List TaskType} (unjudged : .configValidate ∉ front) :
    (front ++ .configPatch :: .configValidate :: back : List TaskType).eraseIdx
        ((front ++ .configPatch :: .configValidate :: back).idxOf .configValidate - 1) =
      front ++ .configValidate :: back := by
  have absent : TaskType.configValidate ∉ front ++ [TaskType.configPatch] := by
    intro member
    rcases List.mem_append.mp member with early | overlay
    · exact unjudged early
    · simp at overlay
  have place : (front ++ .configPatch :: .configValidate :: back : List TaskType).idxOf
      .configValidate - 1 = front.length := by
    rw [List.append_cons, List.idxOf_append_of_notMem absent, List.idxOf_cons_self]
    simp
  rw [place, List.eraseIdx_append_of_length_le (Nat.le_refl _), Nat.sub_self]
  rfl

theorem Base.sequenced (base : Base node prog plan) (id : result.id = plan.id)
    (asked : node.overlays = true) (merged : overlayPatch node = .ok patch)
    (tasks : result.tasks = renumber plan.id 0 (plan.tasks.flatMap (overlaidTask plan.id patch)))
    (longer : result.tasks.length ≠ plan.tasks.length) : Sequenced node result := by
  have numbered : result.Numbered := by
    intro index task found
    rw [tasks] at found
    rw [renumber_numbered _ 0 index found, Nat.zero_add, id]
  have follows : result.types.Pairwise MayFollow := by
    rw [TaskPlan.types, tasks, types_renumber, map_type_overlaidTask]
    refine overlaidOrder_pairwise.sublist (List.Sublist.flatMap ?_ overlaidTypes)
    rw [← TaskPlan.types, base.types]
    exact base.picked
  refine ⟨numbered, fun _ => numbered.nodup, fun early late stands first second =>
    lt_of_standsBefore follows stands, fun none => ?_, fun _ => ?_⟩
  · rw [asked] at none
    cases none
  · obtain ⟨front, judge, back, split, type, -, after, spliced⟩ := base.spliced tasks longer
    rw [renumber_append] at spliced
    refine ⟨_, _, _, _, patch, spliced, rfl, merged, rfl, type, fun task member => ?_,
      fun task member patches => ?_⟩
    · obtain ⟨source, listed, same, -⟩ := mem_renumber member
      rw [same]
      exact after source listed
    · have kept : ∃ source ∈ plan.tasks, task.type = source.type ∧ task.params = source.params := by
        rw [split]
        rcases List.mem_append.mp member with early | late
        · obtain ⟨source, listed, same⟩ := mem_renumber early
          exact ⟨source, List.mem_append_left _ listed, same⟩
        · rcases List.mem_cons.mp late with rfl | late
          · exact ⟨judge, List.mem_append_right _ List.mem_cons_self, rfl, rfl⟩
          · obtain ⟨source, listed, same⟩ := mem_renumber late
            exact ⟨source, List.mem_append_right _ (List.mem_cons_of_mem _ listed), same⟩
      obtain ⟨source, listed, same, params⟩ := kept
      rw [params]
      exact base.peers source listed (same ▸ patches)

theorem Base.beneath (base : Base node prog plan) (asked : node.overlays = true)
    (tasks : result.tasks = renumber plan.id 0 (plan.tasks.flatMap (overlaidTask plan.id patch)))
    (longer : result.tasks.length ≠ plan.tasks.length) : result.typesBeneath node = prog := by
  obtain ⟨front, judge, back, split, type, before, -, spliced⟩ := base.spliced tasks longer
  have types : result.types = front.map PlannedTask.type
      ++ .configPatch :: .configValidate :: back.map PlannedTask.type := by
    rw [TaskPlan.types, spliced, types_renumber, List.map_append, List.map_cons, List.map_cons, type]
    rfl
  have unjudged : TaskType.configValidate ∉ front.map PlannedTask.type := by
    intro member
    obtain ⟨task, listed, same⟩ := List.mem_map.mp member
    exact before task listed same
  rw [TaskPlan.typesBeneath, if_pos asked, types, eraseIdx_overlay unjudged, ← base.types,
    TaskPlan.types, split, List.map_append, List.map_cons, type]

theorem Base.laid (base : Base node prog plan) (id : result.id = plan.id)
    (laid : Laid node plan result) : Sequenced node result ∧ result.typesBeneath node = prog := by
  cases laid with
  | plain unasked tasks =>
    have same : Base node prog result := by
      refine ⟨?_, ?_, base.picked, ?_⟩
      · unfold TaskPlan.Numbered
        rw [tasks, id]
        exact base.numbered
      · rw [TaskPlan.types, tasks]
        exact base.types
      · rw [tasks]
        exact base.peers
    refine ⟨same.plain unasked, ?_⟩
    rw [TaskPlan.typesBeneath, unasked]
    exact same.types
  | overlay patch asked merged tasks longer =>
    exact ⟨base.sequenced id asked merged tasks longer, base.beneath asked tasks longer⟩

end

end SeiController
