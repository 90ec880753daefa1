import SeiController.Lib.Places
import SeiController.Genesis.Overrides
import SeiController.Planner.OverlayTree

/-!
# The order of the overrides

The overrides are a map, visited in an order that changes from run to run.  Each is a write
at its path, so the outcome depends on the order exactly when one key begins another and the
two do not agree, or the longer one needs the shorter one to make way for it.
-/

set_option autoImplicit false

namespace SeiController

open Json (opens place)

/-- The overrides of a task: a map of values, whose objects are listed by key. -/
structure OverridesMap where
  entries : List (String × Json)
  keysDistinct : (entries.map Prod.fst).Nodup
  valuesSorted : ∀ override ∈ entries, override.2.Sorted

def overrideWrite (override : String × Json) : Json.Write :=
  ⟨keyPath override.1, override.2⟩

structure Addressed (appState : List (String × Json)) (override : String × Json) : Prop where
  key : override.1 ≠ ""
  deep : 2 ≤ (keyPath override.1).length
  named : "" ∉ keyPath override.1
  known : (Assoc.get (overrideModule override) appState).isSome = true

/-! ## One override as a write -/

variable {fields t s : List (String × Json)} {path : List String}

theorem childMap_ok_iff {originalKey head : String} {old : Option Json} :
    childMap originalKey head old = .ok fields ↔ (old.getD .null).openFields = some fields := by
  cases old with
  | none => simp [childMap, Json.openFields]
  | some raw =>
    rw [childMap, Except.mapError_ok_iff, Option.getD_some]
    cases raw <;> simp [unmarshalMap, Json.openFields]

/-- A path goes on in the entries that are open. -/
theorem opens_of_openFields {tree : Json} (open_ : tree.openFields = some fields)
    (deeper : path ≠ []) :
    tree.opens path = (Json.obj fields).opens path ∧
      ∀ value, place value path tree = place value path (.obj fields) := by
  obtain ⟨key, path, rfl⟩ := List.exists_cons_of_ne_nil deeper
  have entries : tree.entries = fields := by rw [Json.entries, open_, Option.getD_some]
  refine ⟨?_, fun value => ?_⟩
  · simp [Json.opens_cons, open_, Json.child, entries]
  · simp [Json.place_cons, Json.child, entries]

theorem opens_of_not_openFields {tree : Json} (shut : tree.openFields = none) (deeper : path ≠ []) :
    tree.opens path = false := by
  obtain ⟨key, path, rfl⟩ := List.exists_cons_of_ne_nil deeper
  simp [Json.opens_cons, shut]

theorem setNestedRaw_ok_iff {key : String} {value : Json} (nonempty : path ≠ [])
    {state : List (String × Json)} :
    setNestedRaw key value path state = .ok t ↔
      (Json.obj state).opens path = true ∧ .obj t = place value path (.obj state) := by
  induction path generalizing state t with
  | nil => exact absurd rfl nonempty
  | cons head rest ih =>
    have below : (Json.obj state).child head = (Assoc.get head state).getD .null := rfl
    rw [setNestedRaw_cons, Json.opens_cons, Json.openFields_obj, Option.isSome_some, Bool.true_and,
      Json.place_cons, Json.entries_obj, below, Json.obj.injEq]
    generalize Assoc.get head state = old
    constructor
    · rintro ⟨placed, nested, rfl⟩
      cases nested with
      | leaf => simp
      | @below _ _ child child' deeper opened written =>
        obtain ⟨opens, places⟩ := opens_of_openFields (childMap_ok_iff.mp opened) deeper
        obtain ⟨open_, written⟩ := (ih deeper).mp written
        rw [opens, places, ← written]
        exact ⟨open_, rfl⟩
    · rintro ⟨open_, rfl⟩
      refine ⟨_, ?_, rfl⟩
      by_cases last : rest = []
      · subst last
        exact .leaf old
      · cases opened : (old.getD .null).openFields with
        | none =>
          rw [opens_of_not_openFields opened last] at open_
          cases open_
        | some child =>
          obtain ⟨opens, places⟩ := opens_of_openFields opened last
          obtain ⟨inner, path, rfl⟩ := List.exists_cons_of_ne_nil last
          rw [places, Json.place_cons]
          refine .below last (childMap_ok_iff.mpr opened) ((ih last).mpr ⟨?_, ?_⟩)
          · rw [← opens]
            exact open_
          · rw [Json.place_cons]

theorem unmarshalMap_ok_iff {raw : Json} :
    unmarshalMap raw = .ok fields ↔ raw.openFields = some fields := by
  cases raw <;> simp [unmarshalMap, Json.openFields]

theorem Overridden.addressed {override : String × Json} {module : String}
    {before after : List (String × Json)} (made : Overridden override s t module path before after) :
    Addressed s override := by
  obtain ⟨raw, found, -⟩ := made.opened
  have length := List.length_pos_of_ne_nil made.deep
  refine ⟨made.key, ?_, ?_, ?_⟩
  · rw [made.split, List.length_cons]
    omega
  · rw [made.split]
    exact List.idxOf?_eq_none_iff.mp made.named
  · rw [made.module_eq, found, Option.isSome_some]

/-- An override of a field of a known module is the write at its path. -/
theorem applyGenesisOverride_write {override : String × Json} :
    applyGenesisOverride override s = .ok t ↔
      Addressed s override ∧ (Json.obj s).opens (keyPath override.1) = true ∧
        .obj t = place override.2 (keyPath override.1) (.obj s) := by
  rw [applyGenesisOverride_ok]
  constructor
  · rintro ⟨module, path, before, after, made⟩
    obtain ⟨raw, found, opened⟩ := made.opened
    obtain ⟨opens, places⟩ := opens_of_openFields (unmarshalMap_ok_iff.mp opened) made.deep
    obtain ⟨open_, written⟩ := (setNestedRaw_ok_iff made.deep).mp made.written
    refine ⟨made.addressed, ?_, ?_⟩
    · rw [made.split, Json.opens_cons, Json.child_of_get found, opens, open_]
      rfl
    · rw [made.split, Json.place_cons, Json.child_of_get found, places, ← written, made.result,
        Json.entries_obj]
  · rintro ⟨addressed, open_, placed⟩
    have known := addressed.known
    obtain ⟨module, path, split⟩ := List.exists_cons_of_ne_nil (keyPath_ne_nil override.1)
    have deep : path ≠ [] := by
      rintro rfl
      have length := addressed.deep
      rw [split] at length
      simp at length
    rw [overrideModule, split, List.headD_cons] at known
    obtain ⟨raw, found⟩ := Option.isSome_iff_exists.mp known
    rw [split, Json.opens_cons, Json.child_of_get found, Bool.and_eq_true] at open_
    rw [split, Json.place_cons, Json.child_of_get found, Json.entries_obj, Json.obj.injEq] at placed
    cases opened : raw.openFields with
    | none =>
      rw [opens_of_not_openFields opened deep] at open_
      cases open_.2
    | some before =>
      obtain ⟨opens, places⟩ := opens_of_openFields opened deep
      obtain ⟨field, rest, rfl⟩ := List.exists_cons_of_ne_nil deep
      refine ⟨module, field :: rest, before, _, addressed.key, split, deep, ?_,
        ⟨raw, found, unmarshalMap_ok_iff.mpr opened⟩,
        (setNestedRaw_ok_iff deep).mpr ⟨opens ▸ open_.2, rfl⟩, ?_⟩
      · rw [← split]
        exact List.idxOf?_eq_none_iff.mpr addressed.named
      · rw [placed, places]
        rfl

theorem Addressed.after {override other : String × Json} {s t : List (String × Json)}
    (done : applyGenesisOverride override s = .ok t) : Addressed t other ↔ Addressed s other := by
  have modules : (Assoc.get (overrideModule other) t).isSome =
      (Assoc.get (overrideModule other) s).isSome := by
    obtain ⟨module, path, before, after, made⟩ := applyGenesisOverride_ok.mp done
    obtain ⟨raw, found, -⟩ := made.opened
    rw [made.result, Assoc.get_set]
    split
    next same => rw [same, found, Option.isSome_some, Option.isSome_some]
    next => rfl
  constructor
  · rintro ⟨key, deep, named, known⟩
    exact ⟨key, deep, named, modules ▸ known⟩
  · rintro ⟨key, deep, named, known⟩
    exact ⟨key, deep, named, modules ▸ known⟩

/-! ## All overrides -/

theorem applyGenesisOverrides_run {order : List (String × Json)} :
    applyGenesisOverrides order s = .ok t ↔
      (∀ override ∈ order, Addressed s override) ∧
        Json.run (order.map overrideWrite) (.obj s) = some (.obj t) := by
  induction order generalizing s with
  | nil => simp [applyGenesisOverrides, Updates.applyAll_nil, Json.run]
  | cons override rest ih =>
    rw [applyGenesisOverrides, Updates.applyAll_cons, List.map_cons, Json.run_cons,
      List.forall_mem_cons]
    constructor
    · rintro ⟨between, first, others⟩
      obtain ⟨addressed, open_, placed⟩ := applyGenesisOverride_write.mp first
      obtain ⟨known, ran⟩ := ih.mp others
      refine ⟨⟨addressed, fun other member => (Addressed.after first).mp (known other member)⟩,
        open_, ?_⟩
      rw [placed] at ran
      exact ran
    · rintro ⟨⟨addressed, known⟩, open_, ran⟩
      obtain ⟨key, path, split⟩ := List.exists_cons_of_ne_nil (keyPath_ne_nil override.1)
      have first : applyGenesisOverride override s = .ok _ :=
        applyGenesisOverride_write.mpr ⟨addressed, open_, by rw [split, Json.place_cons]⟩
      refine ⟨_, first, ih.mpr ⟨fun other member => (Addressed.after first).mpr (known other member), ?_⟩⟩
      have placed := (applyGenesisOverride_write.mp first).2.2
      rw [placed]
      exact ran

theorem keyPath_injective : Function.Injective keyPath := by
  intro left right same
  have parts := List.map_injective_iff.mpr (fun _ _ same => String.ofList_injective same) same
  have chars := congrArg ['.'].intercalate parts
  rw [List.intercalate_splitOn, List.intercalate_splitOn] at chars
  exact String.toList_inj.mp chars

theorem overrideWrite_injective : Function.Injective overrideWrite := by
  rintro ⟨key, value⟩ ⟨key', value'⟩ same
  have paths : keyPath key = keyPath key' := congrArg Json.Write.path same
  have values : value = value' := congrArg Json.Write.value same
  rw [keyPath_injective paths, values]

theorem OverridesMap.distinctPaths (overrides : OverridesMap) :
    Json.DistinctPaths (overrides.entries.map overrideWrite) := by
  have distinct := overrides.keysDistinct.map keyPath_injective
  rw [Json.DistinctPaths, List.map_map]
  rwa [List.map_map] at distinct

/-- Every order of the writes is one of the overrides. -/
theorem exists_order_of_writes {overrides : List (String × Json)} {writes : List Json.Write}
    (perm : writes.Perm (overrides.map overrideWrite)) :
    ∃ order : List (String × Json), order.Perm overrides ∧ order.map overrideWrite = writes := by
  have image : ∀ write ∈ writes, ∃ override, overrideWrite override = write := by
    intro write member
    obtain ⟨override, -, same⟩ := List.mem_map.mp (perm.mem_iff.mp member)
    exact ⟨override, same⟩
  obtain ⟨order, rfl⟩ : ∃ order : List (String × Json), order.map overrideWrite = writes := by
    clear perm
    induction writes with
    | nil => exact ⟨[], rfl⟩
    | cons write rest ih =>
      obtain ⟨⟨override, rfl⟩, others⟩ := List.forall_mem_cons.mp image
      obtain ⟨order, rfl⟩ := ih others
      exact ⟨override :: order, rfl⟩
  exact ⟨order, (List.map_perm_map_iff overrideWrite_injective).mp perm, rfl⟩

theorem obj_of_run {order : List (String × Json)} {done : Json}
    (ran : Json.run (order.map overrideWrite) (.obj s) = some done) : ∃ t, done = .obj t := by
  induction order generalizing s with
  | nil =>
    cases ran
    exact ⟨s, rfl⟩
  | cons override rest ih =>
    obtain ⟨-, ran⟩ := Json.run_cons.mp ran
    obtain ⟨key, path, split⟩ := List.exists_cons_of_ne_nil (keyPath_ne_nil override.1)
    rw [overrideWrite, split, Json.place_cons] at ran
    exact ih ran

/-- Every order of the overrides has the same outcome, and where that is an app state every
override can be read in it. -/
def OrderIndependent (appState : List (String × Json)) (overrides : OverridesMap) : Prop :=
  (∀ order order', order.Perm overrides.entries → order'.Perm overrides.entries →
    (applyGenesisOverrides order appState).toOption =
      (applyGenesisOverrides order' appState).toOption) ∧
  ∀ order, order.Perm overrides.entries → ∀ final,
    applyGenesisOverrides order appState = .ok final →
      ∀ override ∈ overrides.entries, (Json.obj final).valueAt (keyPath override.1) = some override.2

/-- An override that fails whatever was applied before: its key names no field of a known
module, or its path leads through a value that is no object, in the app state and in the
value of every override whose key begins its own. -/
def RefusedAlways (appState : List (String × Json)) (overrides : OverridesMap)
    (override : String × Json) : Prop :=
  ¬ Addressed appState override ∨
    Json.Blocked (overrides.entries.map overrideWrite) (.obj appState) (overrideWrite override)

/-- Every path is open in the app state, and where one key begins another its value holds the
other's value at the rest of the path. -/
structure Harmonious (appState : List (String × Json)) (overrides : OverridesMap) : Prop where
  open_ : ∀ override ∈ overrides.entries, (Json.obj appState).opens (keyPath override.1) = true
  agreeing : ∀ override ∈ overrides.entries, ∀ other ∈ overrides.entries, ∀ rest, rest ≠ [] →
    keyPath other.1 = keyPath override.1 ++ rest → override.2.valueAt rest = some other.2

theorem toOption_eq_some {α : Type} {outcome : Except String α} {value : α} :
    outcome.toOption = some value ↔ outcome = .ok value := by
  cases outcome <;> simp [Except.toOption]

section

variable {appState : List (String × Json)} {overrides : OverridesMap}

theorem orderIndependent_iff_writes
    (addressed : ∀ override ∈ overrides.entries, Addressed appState override) :
    OrderIndependent appState overrides ↔
      Json.Independent (overrides.entries.map overrideWrite) (.obj appState) := by
  have ran {order : List (String × Json)} (perm : order.Perm overrides.entries)
      {final : List (String × Json)} : applyGenesisOverrides order appState = .ok final ↔
        Json.run (order.map overrideWrite) (.obj appState) = some (.obj final) := by
    rw [applyGenesisOverrides_run]
    exact and_iff_right fun override member => addressed override (perm.mem_iff.mp member)
  constructor
  · rintro ⟨same, reads⟩
    refine ⟨fun writes writes' perm perm' => ?_, fun writes perm done run write member => ?_⟩
    · obtain ⟨order, ordered, rfl⟩ := exists_order_of_writes perm
      obtain ⟨order', ordered', rfl⟩ := exists_order_of_writes perm'
      have alike := same order order' ordered ordered'
      refine Option.ext fun done => ?_
      constructor
      · intro run
        obtain ⟨final, rfl⟩ := obj_of_run run
        rw [← ran ordered, ← toOption_eq_some, alike, toOption_eq_some, ran ordered'] at run
        exact run
      · intro run
        obtain ⟨final, rfl⟩ := obj_of_run run
        rw [← ran ordered', ← toOption_eq_some, ← alike, toOption_eq_some, ran ordered] at run
        exact run
    · obtain ⟨order, ordered, rfl⟩ := exists_order_of_writes perm
      obtain ⟨final, rfl⟩ := obj_of_run run
      obtain ⟨override, there, rfl⟩ := List.mem_map.mp member
      exact reads order ordered final ((ran ordered).mpr run) override there
  · rintro ⟨same, reads⟩
    refine ⟨fun order order' perm perm' => ?_, fun order perm final done override member => ?_⟩
    · refine Option.ext fun final => ?_
      rw [toOption_eq_some, toOption_eq_some, ran perm, ran perm',
        same _ _ (perm.map overrideWrite) (perm'.map overrideWrite)]
    · exact reads _ (perm.map overrideWrite) _ ((ran perm).mp done) _ (List.mem_map_of_mem member)

/-- The outcome is the same for every order of the overrides, with every override readable in
it, exactly when one override fails in every order or all are harmonious. -/
theorem orderIndependent_iff (appState : List (String × Json)) (overrides : OverridesMap) :
    OrderIndependent appState overrides ↔
      (∃ override ∈ overrides.entries, RefusedAlways appState overrides override) ∨
        Harmonious appState overrides := by
  by_cases addressed : ∀ override ∈ overrides.entries, Addressed appState override
  · have sorted : ∀ write ∈ overrides.entries.map overrideWrite, write.value.Sorted := by
      intro write member
      obtain ⟨override, there, rfl⟩ := List.mem_map.mp member
      exact overrides.valuesSorted override there
    rw [orderIndependent_iff_writes addressed, Json.independent_iff overrides.distinctPaths sorted]
    refine or_congr ?_ ?_
    · constructor
      · rintro ⟨write, member, blocked⟩
        obtain ⟨override, there, rfl⟩ := List.mem_map.mp member
        exact ⟨override, there, .inr blocked⟩
      · rintro ⟨override, there, unaddressed | blocked⟩
        · exact absurd (addressed override there) unaddressed
        · exact ⟨_, List.mem_map_of_mem there, blocked⟩
    · constructor
      · rintro ⟨open_, agreeing⟩
        exact ⟨fun override there => open_ _ (List.mem_map_of_mem there),
          fun override there other there' =>
            agreeing _ (List.mem_map_of_mem there) _ (List.mem_map_of_mem there')⟩
      · rintro ⟨open_, agreeing⟩
        simp only [Json.Agreeing, List.forall_mem_map]
        exact ⟨open_, agreeing⟩
  · push Not at addressed
    obtain ⟨override, member, refused⟩ := addressed
    refine iff_of_true ?_ (.inl ⟨override, member, .inl refused⟩)
    have fails {order : List (String × Json)} (perm : order.Perm overrides.entries)
        {final : List (String × Json)} : applyGenesisOverrides order appState ≠ .ok final :=
      fun done => refused ((applyGenesisOverrides_run.mp done).1 override (perm.mem_iff.mpr member))
    refine ⟨fun order order' perm perm' => ?_, fun order perm final done => absurd done (fails perm)⟩
    refine Option.ext fun final => ?_
    rw [toOption_eq_some, toOption_eq_some]
    exact iff_of_false (fails perm) (fails perm')

end

/-! A field and a field below it: one order fails, the other loses an override. -/

def overlappingOverrides : OverridesMap where
  entries := [("m.a", .bool true), ("m.a.b", .bool false)]
  keysDistinct := by decide
  valuesSorted := by
    intro override member
    simp only [List.mem_cons, List.not_mem_nil, or_false] at member
    rcases member with rfl | rfl <;> trivial

theorem overlapping_overrides_order_matters :
    ¬ OrderIndependent [("m", .obj [])] overlappingOverrides ∧
      applyGenesisOverrides [("m.a", .bool true), ("m.a.b", .bool false)] [("m", .obj [])]
        = .error ("genesis-overrides: key \"m.a.b\" traverses non-object at segment \"a\": "
          ++ "json: cannot unmarshal bool into Go value of type map[string]json.RawMessage") ∧
      applyGenesisOverrides [("m.a.b", .bool false), ("m.a", .bool true)] [("m", .obj [])]
        = .ok [("m", .obj [("a", .bool true)])] := by
  have fails : applyGenesisOverrides [("m.a", .bool true), ("m.a.b", .bool false)] [("m", .obj [])]
      = .error ("genesis-overrides: key \"m.a.b\" traverses non-object at segment \"a\": "
        ++ "json: cannot unmarshal bool into Go value of type map[string]json.RawMessage") := by
    decide +kernel
  have succeeds : applyGenesisOverrides [("m.a.b", .bool false), ("m.a", .bool true)] [("m", .obj [])]
      = .ok [("m", .obj [("a", .bool true)])] := by decide +kernel
  refine ⟨fun independent => ?_, fails, succeeds⟩
  have same := independent.1 _ _ (.refl _) (.swap _ _ [])
  rw [show overlappingOverrides.entries = [("m.a", .bool true), ("m.a.b", .bool false)] from rfl,
    fails, succeeds] at same
  cases same

end SeiController
