import SeiController.Lib.MergePatch

/-!
# Merge and RFC 7386

`tomlpatch.Merge` against the procedure of RFC 7386.  The two differ in one place: under a
key the target lacks, `Merge` puts the patch's value as it is, with the nulls in it, where
the RFC merges it into nothing.
-/

set_option autoImplicit false

namespace Json

mutual

/-- `MergePatch` of RFC 7386; the target may be undefined. -/
def mergePatch (target : Option Json) : Json → Json
  | obj patch => obj (mergePatchFields ((target.bind fields?).getD []) patch)
  | patch => patch

def mergePatchFields (target : List (String × Json)) : List (String × Json) → List (String × Json)
  | [] => target
  | (name, value) :: rest =>
    mergePatchFields
      (if value = null then target.filter fun entry => entry.1 ≠ name
        else Assoc.set name (mergePatch (Assoc.get name target) value) target) rest

end

mutual

/-- No member is null, at any depth outside arrays. -/
def nullFree : Json → Bool
  | obj fields => fieldsNullFree fields
  | _ => true

def fieldsNullFree : List (String × Json) → Bool
  | [] => true
  | (_, value) :: rest => value ≠ null && value.nullFree && fieldsNullFree rest

end

mutual

/-- The patch has no null inside a table the original lacks. -/
def patchesInPlace (original : Json) : Json → Bool
  | obj patch => fieldsInPlace (original.fields?.getD []) patch
  | _ => true

def fieldsInPlace (table : List (String × Json)) : List (String × Json) → Bool
  | [] => true
  | (name, value) :: rest =>
    (value = null || match Assoc.get name table with
      | some current => patchesInPlace current value
      | none => value.nullFree) && fieldsInPlace table rest

end

/-! ## What the two leave under a key -/

def mergeEntry (old : Option Json) (value : Json) : Option Json :=
  if value = null then none else some ((old.map fun current => merge current value).getD value)

def mergePatchEntry (old : Option Json) (value : Json) : Option Json :=
  if value = null then none else some (mergePatch old value)

theorem get_mergeField (result : List (String × Json)) (key : String) (value : Json) :
    Assoc.get key (mergeField result key value) = mergeEntry (Assoc.get key result) value := by
  cases value with
  | null => rw [mergeField, get_filter_ne, if_pos rfl, mergeEntry, if_pos rfl]
  | obj patch => cases found : Assoc.get key result <;> simp [get_mergeField_obj, mergeEntry, found]
  | _ => cases Assoc.get key result <;> simp [mergeField, Assoc.get_set, mergeEntry, merge]

variable {patch fields : List (String × Json)}

theorem get_mergeFields (sorted : Assoc.Sorted patch) (result : List (String × Json)) (key : String) :
    Assoc.get key (mergeFields result patch) =
      match Assoc.get key patch with
      | some value => mergeEntry (Assoc.get key result) value
      | none => Assoc.get key result := by
  cases found : Assoc.get key patch with
  | none => exact get_mergeFields_of_none patch result found
  | some value => rw [get_mergeFields_of_get patch result sorted found, get_mergeField]

theorem get_mergePatchFields (sorted : Assoc.Sorted patch) (target : List (String × Json))
    (key : String) :
    Assoc.get key (mergePatchFields target patch) =
      match Assoc.get key patch with
      | some value => mergePatchEntry (Assoc.get key target) value
      | none => Assoc.get key target := by
  induction patch generalizing target with
  | nil => simp [mergePatchFields]
  | cons head rest ih =>
    obtain ⟨name, value⟩ := head
    rw [mergePatchFields, ih sorted.tail, Assoc.get_cons]
    by_cases here : key = name
    · subst here
      rw [sorted.get_head_rest, if_pos rfl]
      by_cases deletes : value = null
      · simp only [if_pos deletes, get_filter_ne, if_true, mergePatchEntry]
      · simp [deletes, Assoc.get_set, mergePatchEntry]
    · rw [if_neg here]
      by_cases deletes : value = null
      · rw [if_pos deletes, get_filter_ne, if_neg here]
      · simp [deletes, Assoc.get_set, here]

/-! ## Tables stay sorted -/

theorem sortedFields_filter (sorted : SortedFields fields) (keep : String × Json → Bool) :
    SortedFields (fields.filter keep) := by
  induction fields with
  | nil => exact sorted
  | cons head rest ih =>
    rw [List.filter_cons]
    split
    · exact ⟨sorted.1, ih sorted.2⟩
    · exact ih sorted.2

theorem sorted_filter (sorted : (obj fields).Sorted) (keep : String × Json → Bool) :
    (obj (fields.filter keep)).Sorted :=
  ⟨sorted.1.sublist (List.filter_sublist.map _), sortedFields_filter sorted.2 keep⟩

theorem sorted_set (sorted : (obj fields).Sorted) (key : String) {value : Json}
    (sortedValue : value.Sorted) : (obj (Assoc.set key value fields)).Sorted :=
  ⟨sorted.1.set key value, sorted.2.set key sortedValue⟩

theorem sorted_fieldsOr {value : Json} (sorted : value.Sorted) :
    (obj (value.fields?.getD [])).Sorted := by
  cases value with
  | obj fields => exact sorted
  | _ => exact ⟨Assoc.sorted_nil, trivial⟩

mutual

theorem sorted_mergeFields : ∀ (patch : List (String × Json)) {result : List (String × Json)},
    SortedFields patch → (obj result).Sorted → (obj (mergeFields result patch)).Sorted
  | [], _, _, sorted => by rwa [mergeFields]
  | (key, value) :: rest, result, below, sorted => by
    rw [mergeFields]
    exact sorted_mergeFields rest below.2 (sorted_mergeField value key below.1 sorted)

theorem sorted_mergeField : ∀ (value : Json) {result : List (String × Json)} (key : String),
    value.Sorted → (obj result).Sorted → (obj (mergeField result key value)).Sorted
  | null, _, _, _, sorted => by
    rw [mergeField]
    exact sorted_filter sorted _
  | obj patch, result, key, below, sorted => by
    rw [mergeField]
    split
    next current found =>
      exact sorted_set sorted key (sorted_mergeFields patch below.2 (sorted.2.of_get found))
    · exact sorted_set sorted key (sorted_mergeFields patch below.2 ⟨Assoc.sorted_nil, trivial⟩)
    · exact sorted_set sorted key below
  | bool leaf, _, key, below, sorted | num leaf, _, key, below, sorted
  | str leaf, _, key, below, sorted | arr leaf, _, key, below, sorted => by
    simp only [mergeField]
    exact sorted_set sorted key below

end

theorem Sorted.merge {original patch : Json} (sorted : original.Sorted) (below : patch.Sorted) :
    (merge original patch).Sorted := by
  cases patch with
  | obj fields => exact sorted_mergeFields fields below.2 (sorted_fieldsOr sorted)
  | _ => exact below

mutual

theorem sorted_mergePatch : ∀ (patch : Json) {target : Option Json}, patch.Sorted →
    (∀ value, target = some value → value.Sorted) → (mergePatch target patch).Sorted
  | obj patch, target, below, sorted => by
    rw [mergePatch]
    refine sorted_mergePatchFields patch below.2 ?_
    cases target with
    | none => exact ⟨Assoc.sorted_nil, trivial⟩
    | some value => exact sorted_fieldsOr (sorted value rfl)
  | null, _, below, _ | bool _, _, below, _ | num _, _, below, _ | str _, _, below, _
  | arr _, _, below, _ => by
    rw [mergePatch]
    · exact below
    · exact nofun

theorem sorted_mergePatchFields : ∀ (patch : List (String × Json)) {target : List (String × Json)},
    SortedFields patch → (obj target).Sorted → (obj (mergePatchFields target patch)).Sorted
  | [], _, _, sorted => by rwa [mergePatchFields]
  | (name, value) :: rest, target, below, sorted => by
    rw [mergePatchFields]
    refine sorted_mergePatchFields rest below.2 ?_
    split
    · exact sorted_filter sorted _
    · refine sorted_set sorted name (sorted_mergePatch value below.1 fun current found => ?_)
      exact sorted.2.of_get found

end

/-! ## Induction through the tables -/

@[elab_as_elim] theorem by_tables {P : Json → Prop}
    (leaf : ∀ value, value.fields? = none → P value)
    (table : ∀ fields, (∀ name value, Assoc.get name fields = some value → P value) →
      P (obj fields)) (value : Json) : P value := by
  refine @Json.rec P (fun _ => True)
    (fun fields => ∀ name value, Assoc.get name fields = some value → P value)
    (fun entry => P entry.2) (leaf null rfl) (fun value => leaf (bool value) rfl)
    (fun token => leaf (num token) rfl) (fun text => leaf (str text) rfl)
    (fun items _ => leaf (arr items) rfl) table trivial (fun _ _ _ _ => trivial) ?nil ?cons
    (fun _ _ here => here) value
  case nil =>
    intro name value found
    cases found
  case cons =>
    intro head rest here below name value found
    rw [Assoc.get_cons] at found
    split at found
    · cases found
      exact here
    · exact below name value found

/-- Every entry of a sorted table is its first or stands in the rest. -/
theorem forall_get_cons {Q : String → Json → Prop} {key : String} {first : Json}
    {rest : List (String × Json)} (sorted : Assoc.Sorted ((key, first) :: rest)) :
    (∀ name value, Assoc.get name ((key, first) :: rest) = some value → Q name value) ↔
      Q key first ∧ ∀ name value, Assoc.get name rest = some value → Q name value := by
  simp only [Assoc.get_cons]
  constructor
  · intro all
    refine ⟨all key first (if_pos rfl), fun name value found => all name value ?_⟩
    rw [if_neg, found]
    rintro rfl
    rw [sorted.get_head_rest] at found
    cases found
  · intro both name value found
    split at found
    next same =>
      cases found
      exact same ▸ both.1
    · exact both.2 name value found

theorem fieldsNullFree_iff (sorted : Assoc.Sorted fields) :
    fieldsNullFree fields = true ↔
      ∀ name value, Assoc.get name fields = some value → value ≠ null ∧ value.nullFree = true := by
  induction fields with
  | nil => simp [fieldsNullFree]
  | cons head rest ih => simp [fieldsNullFree, forall_get_cons sorted, ih sorted.tail]

def EntryInPlace (old : Option Json) (value : Json) : Prop :=
  value ≠ null → match old with
    | some current => patchesInPlace current value = true
    | none => value.nullFree = true

theorem fieldsInPlace_iff (sorted : Assoc.Sorted patch) (fields : List (String × Json)) :
    fieldsInPlace fields patch = true ↔ ∀ name value, Assoc.get name patch = some value →
      EntryInPlace (Assoc.get name fields) value := by
  induction patch with
  | nil => simp [fieldsInPlace]
  | cons head rest ih =>
    obtain ⟨key, first⟩ := head
    rw [forall_get_cons sorted, fieldsInPlace, Bool.and_eq_true, ih sorted.tail]
    refine and_congr_left fun _ => ?_
    unfold EntryInPlace
    by_cases deletes : first = null
    · simp [deletes]
    · cases Assoc.get key fields <;> simp [deletes]

/-! ## Where the two agree -/

/-- Two tables that answer alike off the entries of a patch are told apart at them. -/
theorem obj_eq_iff (patch : List (String × Json)) {left right : List (String × Json)}
    (sortedLeft : (obj left).Sorted) (sortedRight : (obj right).Sorted)
    (off : ∀ key, Assoc.get key patch = none → Assoc.get key left = Assoc.get key right) :
    obj left = obj right ↔ ∀ name value, Assoc.get name patch = some value →
      Assoc.get name left = Assoc.get name right := by
  constructor
  · rintro ⟨⟩ _ _ _
    rfl
  · intro all
    rw [Assoc.ext sortedLeft.1 sortedRight.1 fun key => ?_]
    cases found : Assoc.get key patch with
    | none => exact off key found
    | some value => exact all key value found

theorem merge_eq_mergePatch_iff (patch : Json) : patch.Sorted →
    (∀ original : Json, original.Sorted →
      (merge original patch = mergePatch (some original) patch ↔
        patchesInPlace original patch = true)) ∧
    (patch = mergePatch none patch ↔ patch.nullFree = true) := by
  induction patch using by_tables with
  | leaf value single =>
    intro _
    cases value with
    | obj fields => cases single
    | _ => simp [merge, mergePatch, patchesInPlace, nullFree]
  | table fields ih =>
    intro sorted
    constructor
    · intro original sortedOriginal
      have below := sorted_fieldsOr sortedOriginal
      rw [merge, mergePatch, patchesInPlace, fieldsInPlace_iff sorted.1, Option.bind_some,
        obj_eq_iff fields (sorted_mergeFields fields sorted.2 below)
          (sorted_mergePatchFields fields sorted.2 below) fun key missing => by
            rw [get_mergeFields sorted.1, get_mergePatchFields sorted.1, missing]]
      refine forall₃_congr fun name value found => ?_
      obtain ⟨merged, copied⟩ := ih name value found (sorted.2.of_get found)
      rw [get_mergeFields sorted.1, get_mergePatchFields sorted.1, found]
      unfold mergeEntry mergePatchEntry EntryInPlace
      by_cases deletes : value = null
      · simp [deletes]
      · cases stands : Assoc.get name (original.fields?.getD []) with
        | none => simp [deletes, copied]
        | some current => simp [deletes, merged current (below.2.of_get stands)]
    · have empty : (obj []).Sorted := ⟨Assoc.sorted_nil, trivial⟩
      rw [mergePatch, nullFree, fieldsNullFree_iff sorted.1, Option.bind_none, Option.getD_none,
        obj_eq_iff fields sorted (sorted_mergePatchFields fields sorted.2 empty) fun key missing => by
          rw [get_mergePatchFields sorted.1, missing, Assoc.get_nil]]
      refine forall₃_congr fun name value found => ?_
      obtain ⟨_, copied⟩ := ih name value found (sorted.2.of_get found)
      rw [get_mergePatchFields sorted.1, found, Assoc.get_nil]
      unfold mergePatchEntry
      by_cases deletes : value = null
      · simp [deletes]
      · simp [deletes, copied]

/-! ## Merging where the patch fits -/

theorem merge_ne_null {original patch : Json} (kept : patch ≠ null) : merge original patch ≠ null := by
  cases patch with
  | null => contradiction
  | _ => simp [merge]

theorem nullFree_merge (patch : Json) : patch.Sorted → ∀ original : Json, original.Sorted →
    patchesInPlace original patch = true → original.nullFree = true →
      (merge original patch).nullFree = true := by
  induction patch using by_tables with
  | leaf value single =>
    intro _ original _ _ _
    cases value with
    | obj fields => cases single
    | _ => simp [merge, nullFree]
  | table fields ih =>
    intro sorted original sortedOriginal inPlace free
    have below := sorted_fieldsOr sortedOriginal
    have clean : fieldsNullFree (original.fields?.getD []) = true := by
      cases original with
      | obj entries => exact free
      | _ => rfl
    rw [fieldsNullFree_iff below.1] at clean
    rw [patchesInPlace, fieldsInPlace_iff sorted.1] at inPlace
    rw [merge, nullFree, fieldsNullFree_iff (sorted_mergeFields fields sorted.2 below).1]
    intro name value left
    rw [get_mergeFields sorted.1] at left
    cases found : Assoc.get name fields with
    | none =>
      rw [found] at left
      exact clean name value left
    | some entry =>
      have fits := inPlace name entry found
      rw [found] at left
      dsimp only [mergeEntry] at left
      by_cases deletes : entry = null
      · simp [deletes] at left
      · cases stands : Assoc.get name (original.fields?.getD []) with
        | none =>
          simp only [EntryInPlace, stands] at fits
          simp only [stands, deletes, Option.map_none, Option.getD_none, if_false] at left
          cases left
          exact ⟨deletes, fits deletes⟩
        | some current =>
          simp only [EntryInPlace, stands] at fits
          simp only [stands, deletes, Option.map_some, Option.getD_some, if_false] at left
          cases left
          exact ⟨merge_ne_null deletes, ih name entry found (sorted.2.of_get found) current
            (below.2.of_get stands) (fits deletes) (clean name current stands).2⟩

theorem merge_merge (patch : Json) : patch.Sorted →
    (∀ original : Json, original.Sorted → patchesInPlace original patch = true →
      merge (merge original patch) patch = merge original patch) ∧
    (patch.nullFree = true → merge patch patch = patch) := by
  induction patch using by_tables with
  | leaf value single =>
    intro _
    cases value with
    | obj fields => cases single
    | _ => simp [merge]
  | table fields ih =>
    intro sorted
    constructor
    · intro original sortedOriginal inPlace
      have below := sorted_fieldsOr sortedOriginal
      have once := sorted_mergeFields fields sorted.2 below
      rw [patchesInPlace, fieldsInPlace_iff sorted.1] at inPlace
      refine (obj_eq_iff fields (sorted_mergeFields fields sorted.2 once) once fun name missing => ?_).mpr
        fun name entry found => ?_
      · rw [get_mergeFields_of_none _ _ missing]
      obtain ⟨merged, copied⟩ := ih name entry found (sorted.2.of_get found)
      have fits := inPlace name entry found
      rw [get_mergeFields sorted.1 (mergeFields _ _), get_mergeFields sorted.1, found]
      unfold mergeEntry EntryInPlace at *
      by_cases deletes : entry = null
      · simp [deletes]
      · cases stands : Assoc.get name (original.fields?.getD []) with
        | none =>
          rw [stands] at fits
          simp [deletes, copied (fits deletes)]
        | some current =>
          rw [stands] at fits
          simp [deletes, merged current (below.2.of_get stands) (fits deletes)]
    · intro free
      rw [nullFree, fieldsNullFree_iff sorted.1] at free
      refine (obj_eq_iff fields (sorted_mergeFields fields sorted.2 sorted) sorted
        fun name missing => get_mergeFields_of_none _ _ missing).mpr fun name entry found => ?_
      obtain ⟨kept, clean⟩ := free name entry found
      obtain ⟨_, copied⟩ := ih name entry found (sorted.2.of_get found)
      rw [get_mergeFields sorted.1, found]
      simp [mergeEntry, kept, copied clean]

end Json

namespace SeiController

/-- A decoded document: each table lists its keys once, in order. -/
structure Document where
  value : Json
  sorted : value.Sorted

namespace Document

/-- `tomlpatch.Merge`. -/
def merge (original patch : Document) : Document :=
  ⟨Json.merge original.value patch.value, original.sorted.merge patch.sorted⟩

/-- Merging is RFC 7386's, leaves no null outside arrays in a document that has none, and
changes nothing the second time, exactly when the patch has no null inside a table that the
document lacks. -/
theorem merge_as_rfc_iff (target patch : Document) :
    ((target.merge patch).value = Json.mergePatch (some target.value) patch.value ∧
      (target.value.nullFree = true → (target.merge patch).value.nullFree = true) ∧
      (target.merge patch).merge patch = target.merge patch) ↔
        Json.patchesInPlace target.value patch.value = true := by
  have agrees := (Json.merge_eq_mergePatch_iff patch.value patch.sorted).1 target.value target.sorted
  constructor
  · intro holds
    exact agrees.mp holds.1
  · intro inPlace
    refine ⟨agrees.mpr inPlace, fun free => ?_, ?_⟩
    · exact Json.nullFree_merge _ patch.sorted _ target.sorted inPlace free
    · have again := (Json.merge_merge _ patch.sorted).1 target.value target.sorted inPlace
      simpa only [merge, mk.injEq] using again

/-- A null in a table the target lacks stays in the result, and the second merge deletes it. -/
theorem null_in_new_table_stays :
    let target : Document := ⟨.obj [], Assoc.sorted_nil, trivial⟩
    let patch : Document :=
      ⟨.obj [("p2p", .obj [("seeds", .null)])], by simp [Json.Sorted, Json.SortedFields, Assoc.Sorted]⟩
    (target.merge patch).value = .obj [("p2p", .obj [("seeds", .null)])] ∧
      Json.mergePatch (some target.value) patch.value = .obj [("p2p", .obj [])] ∧
      ((target.merge patch).merge patch).value = .obj [("p2p", .obj [])] := by
  refine ⟨?_, ?_, ?_⟩ <;> decide +kernel

end Document

end SeiController
