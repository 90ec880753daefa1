import SeiController.Planner.PlanTypes

/-!
# Validation stands before release

In every plan a builder returns that carries config-validate, it stands before each task
that starts seid, restarts it or replaces its pod.
-/

set_option autoImplicit false

namespace SeiController

/-! ## Order under splicing -/

variable {prog : List TaskType} {plan : TaskPlan} {platform : Platform} {node : SeiNode}
  {planID : String} {mode : ModePlanner}

section

variable {early late : TaskType}

theorem precedes_cons {type : TaskType} {types : List TaskType} (differ : type ≠ late)
    (ordered : precedes early late types = true) : precedes early late (type :: types) = true := by
  rw [precedes]
  split
  · rfl
  · simp [differ, ordered]

theorem precedes_append {front back : List TaskType} (absent : late ∉ front)
    (ordered : precedes early late back = true) : precedes early late (front ++ back) = true := by
  induction front with
  | nil => exact ordered
  | cons type front ih =>
    have differ : type ≠ late := fun same => absent (same ▸ List.mem_cons_self)
    exact precedes_cons differ (ih fun member => absent (List.mem_cons_of_mem _ member))

theorem precedes_insert {type : TaskType} (differ : type ≠ late) {front back : List TaskType}
    (ordered : precedes early late (front ++ back) = true) :
    precedes early late (front ++ type :: back) = true := by
  induction front with
  | nil => exact precedes_cons differ ordered
  | cons first front ih =>
    rw [List.cons_append, precedes] at ordered ⊢
    split
    · rfl
    next unmet =>
      rw [if_neg unmet, Bool.and_eq_true] at ordered
      rw [Bool.and_eq_true]
      exact ⟨ordered.1, ih ordered.2⟩

theorem precedes_left {front back : List TaskType}
    (ordered : precedes early late (front ++ back) = true) :
    precedes early late front = true := by
  induction front with
  | nil => rfl
  | cons first front ih =>
    rw [List.cons_append, precedes] at ordered
    rw [precedes]
    split
    · rfl
    next unmet =>
      rw [if_neg unmet, Bool.and_eq_true] at ordered
      rw [Bool.and_eq_true]
      exact ⟨ordered.1, ih ordered.2⟩

theorem precedes_insertBefore {result : List TaskType} {target type : TaskType}
    (inserted : insertBefore prog target type = .ok result) (differ : type ≠ late)
    (ordered : precedes early late prog = true) : precedes early late result = true := by
  unfold insertBefore at inserted
  split at inserted
  · cases inserted
    exact ordered
  · split at inserted
    · cases inserted
      refine precedes_insert differ ?_
      rw [List.takeWhile_append_dropWhile]
      exact ordered
    · cases inserted

end

/-! ## Plans that validate first -/

/-- The tasks that let seid run on the configuration: the start gate, the restart and the
replacement of the pod. -/
def releases : List TaskType := [.markReady, .restartSeid, .replacePod]

/-- A plan that validates does so before it releases. -/
def ValidatesFirst (types : List TaskType) : Prop :=
  .configValidate ∈ types → ∀ late ∈ releases, precedes .configValidate late types = true

theorem ValidatesFirst.of_absent {types : List TaskType} (absent : .configValidate ∉ types) :
    ValidatesFirst types :=
  fun member => absurd member absent

theorem ne_configPatch_of_release {late : TaskType} (release : late ∈ releases) :
    late ≠ .configPatch := by
  rintro rfl
  revert release
  decide

theorem mem_types_of_withConfigValues {result : TaskPlan}
    (overlaid : withConfigValues platform plan node = .ok result) :
    .configValidate ∈ result.types → .configValidate ∈ plan.types := by
  intro member
  rcases (withConfigValues_overlaid overlaid).types member with never | planned
  · cases never
  · exact planned

theorem validatesFirst_withConfigValues {result : TaskPlan}
    (overlaid : withConfigValues platform plan node = .ok result)
    (first : ValidatesFirst plan.types) : ValidatesFirst result.types := by
  intro member late release
  have planned := mem_types_of_withConfigValues overlaid member
  exact precedes_withConfigValues overlaid (ne_configPatch_of_release release)
    (first planned late release)

theorem validatesFirst_park {result : TaskPlan} (parked : parkInsteadOfRelease plan = .ok result)
    (first : ValidatesFirst plan.types) : ValidatesFirst result.types := by
  rw [types_parkInsteadOfRelease parked]
  intro member late release
  have kept : .configValidate ∈ plan.types.dropLast := by
    rcases List.mem_append.mp member with kept | added
    · exact kept
    · simp at added
  have ordered := first (List.dropLast_subset _ kept) late release
  have differ : TaskType.recordMaintenanceHold ≠ late := by
    rintro rfl
    revert release
    decide
  cases plan.types.eq_nil_or_concat with
  | inl empty =>
    rw [empty] at kept
    cases kept
  | inr concat =>
    obtain ⟨front, last, same⟩ := concat
    rw [same, List.concat_eq_append] at ordered ⊢
    rw [List.dropLast_concat]
    have front_ordered := precedes_left ordered
    rw [← List.append_nil front] at front_ordered
    exact precedes_insert differ front_ordered

/-! ## Startup plans -/

theorem validatesFirst_sidecarProgression {snap : Option SnapshotSource}
    (built : buildSidecarProgression snap = .ok prog) {late : TaskType} (release : late ∈ releases) :
    precedes .configValidate late prog = true := by
  have base : precedes .configValidate late (baseProgression (bootstrapMode snap)) = true := by
    simp only [releases, List.mem_cons, List.not_mem_nil, or_false] at release
    rcases release with rfl | rfl | rfl <;> cases bootstrapMode snap <;> rfl
  unfold buildSidecarProgression at built
  rw [Except.bind_ok_iff] at built
  obtain ⟨genesis, first, built⟩ := built
  have differ {type : TaskType} (other : type ∉ releases) : type ≠ late :=
    fun same => other (same ▸ release)
  have early := precedes_insertBefore first (differ (by decide)) base
  split at built
  · exact precedes_insertBefore built (differ (by decide)) early
  · cases built
    exact early

theorem not_mem_validations {late : TaskType} (release : late ∈ releases) :
    late ∉ validations node := by
  intro member
  have listed := mem_validations member
  simp only [List.mem_cons, List.not_mem_nil, or_false] at listed
  rcases listed with rfl | rfl | rfl <;> revert release <;> decide

theorem validatesFirst_buildBasePlan {snap : Option SnapshotSource} {intent : ConfigIntent}
    (built : buildBasePlan platform planID node snap intent = .ok plan) :
    ValidatesFirst plan.types := by
  unfold buildBasePlan at built
  rw [Except.bind_ok_iff] at built
  obtain ⟨sidecar, progression, built⟩ := built
  refine validatesFirst_withConfigValues built ?_
  rw [types_startupPlan]
  intro member late release
  have front : late ∉ [TaskType.ensureDataPVC] ++ validations node ++
      [.applyRBACProxyConfig, .applyStatefulSet, .applyService] := by
    simp only [List.mem_append, not_or]
    refine ⟨⟨?_, not_mem_validations release⟩, ?_⟩
    · rintro member
      rw [List.mem_singleton.mp member] at release
      revert release
      decide
    · intro member
      simp only [List.mem_cons, List.not_mem_nil, or_false] at member
      rcases member with rfl | rfl | rfl <;> revert release <;> decide
  refine precedes_append front ?_
  unfold withoutManagedConfigTasks at member ⊢
  split
  next mounted =>
    -- a mounted node's plan carries no validation
    rw [if_pos mounted] at member
    rcases List.mem_append.mp member with early | kept
    · simp only [List.mem_append, List.mem_singleton] at early
      rcases early with (never | key) | never
      · cases never
      · have listed := mem_validations key
        simp at listed
      · simp at never
    · simp at kept
  · exact validatesFirst_sidecarProgression progression release

theorem validatesFirst_buildInitPlan (built : mode.buildInitPlan platform planID node = .ok plan) :
    ValidatesFirst plan.types := by
  cases mode with
  | full | archive | replayer | seed => exact validatesFirst_buildBasePlan built
  | validator spec =>
    unfold ModePlanner.buildInitPlan at built
    dsimp only at built
    split at built
    · unfold buildGenesisPlan at built
      refine validatesFirst_withConfigValues built ?_
      rw [types_startupPlan]
      exact fun _ => by decide
    · exact validatesFirst_buildBasePlan built

/-! ## Plans of a Running node -/

theorem updatePlan_ok {patch : PatchFiles}
    (built : updatePlan platform planID node prog patch = .ok plan) :
    ∃ regenerated,
      (regenerated = prog ∨ insertBefore prog .configPatch .configApply = .ok regenerated) ∧
      withConfigValues platform
        (assembleSteps planID (regenerated.map fun taskType =>
          ⟨taskType, paramsForUpdateTask platform node taskType patch⟩)) node = .ok plan := by
  unfold updatePlan at built
  dsimp only at built
  split at built
  · rw [Except.bind_ok_iff] at built
    obtain ⟨regenerated, inserted, built⟩ := built
    exact ⟨regenerated, .inr inserted, built⟩
  · exact ⟨prog, .inl rfl, built⟩

theorem updatePlan_fresh {patch : PatchFiles}
    (built : updatePlan platform planID node prog patch = .ok plan) : Fresh plan := by
  obtain ⟨regenerated, -, built⟩ := updatePlan_ok built
  exact (fresh_assembleSteps planID _).overlaid (withConfigValues_overlaid built)

theorem validatesFirst_updatePlan {patch : PatchFiles}
    (ordered : ∀ late ∈ releases, precedes .configValidate late prog = true)
    (built : updatePlan platform planID node prog patch = .ok plan) :
    ValidatesFirst plan.types := by
  obtain ⟨regenerated, inserted, built⟩ := updatePlan_ok built
  refine validatesFirst_withConfigValues built fun _ late release => ?_
  rw [types_assembleSteps, List.map_map]
  refine Eq.trans (congrArg (precedes .configValidate late) (List.map_id regenerated)) ?_
  rcases inserted with rfl | inserted
  · exact ordered late release
  · refine precedes_insertBefore inserted ?_ (ordered late release)
    rintro rfl
    revert release
    decide

theorem mem_gates {type : TaskType} (member : type ∈ mode.gates node) : type ∉ releases := by
  cases mode with
  | validator =>
    exact fun release => not_mem_validations release member
  | seed =>
    unfold ModePlanner.gates at member
    dsimp only at member
    split at member
    · rw [List.mem_singleton.mp member]
      decide
    · cases member
  | full | archive | replayer => cases member

structure Validated (plan : TaskPlan) : Prop where
  fresh : Fresh plan
  first : ValidatesFirst plan.types

theorem validated_assembleUpdatePlan {reason : NodeUpdateReason} {message : String}
    {after : SeiNode} (ordered : ∀ late ∈ releases, precedes .configValidate late prog = true)
    (built : assembleUpdatePlan platform planID prog reason message node = (after, .ok (some plan))) :
    Validated plan := by
  unfold assembleUpdatePlan at built
  split at built
  · cases built
  next assembled =>
    cases built
    exact ⟨updatePlan_fresh assembled, validatesFirst_updatePlan ordered assembled⟩

theorem validated_reapproval (planID : String) (node : SeiNode) :
    Validated (buildMarkReadyPlan planID node) := by
  refine ⟨fresh_assembleSteps planID _, .of_absent ?_⟩
  rw [types_buildMarkReadyPlan]
  decide

theorem validated_modeBuildPlan {after : SeiNode}
    (built : mode.buildPlan platform planID node = (after, .ok (some plan))) : Validated plan := by
  unfold ModePlanner.buildPlan at built
  split at built
  · unfold buildRunningUpdate at built
    split at built
    · refine validated_assembleUpdatePlan (fun late release => ?_) built
      refine precedes_append (fun member => mem_gates member release) ?_
      simp only [releases, List.mem_cons, List.not_mem_nil, or_false] at release
      rcases release with rfl | rfl | rfl <;> rfl
    · split at built
      · exact validated_assembleUpdatePlan (by decide) built
      · split at built
        · cases built
          exact validated_reapproval planID _
        · cases built
  · cases started : mode.buildInitPlan platform planID node with
    | error err =>
      rw [started] at built
      cases built
    | ok first =>
      rw [started] at built
      cases built
      exact ⟨(startup_buildInitPlan started).fresh, validatesFirst_buildInitPlan started⟩

theorem StaticRunning.no_validation (built : StaticRunning platform planID node plan) :
    .configValidate ∉ plan.types := by
  intro member
  rcases built.mem_types member with ⟨_, reset⟩ | listed
  · revert reset
    unfold resetEnding
    repeat' split
    all_goals decide
  · revert listed
    decide

theorem validated_buildPlan {after : SeiNode}
    (built : buildPlan platform planID mode node = (after, .ok (some plan))) : Validated plan := by
  unfold buildPlan at built
  split at built
  · unfold buildStaticPlan at built
    split at built
    · have running := staticRunning_of_built built
      exact ⟨running.fresh.1, .of_absent running.no_validation⟩
    · split at built
      next planned =>
        have validated := validated_modeBuildPlan planned
        split at built
        · cases built
          exact validated
        · cases parked : parkInsteadOfRelease _ with
          | error err =>
            rw [parked] at built
            cases built
          | ok result =>
            rw [parked] at built
            cases built
            exact ⟨(retasked_park parked).fresh validated.fresh,
              validatesFirst_park parked validated.first⟩
      · exact validated_modeBuildPlan built
  · exact validated_modeBuildPlan built

end SeiController
