import SeiController.Lib.Toml

/-!
# Merge-patching a tree of tables

A patch replaces what it names and keeps the rest: tables are merged key by key, a null
deletes its key, and any other value replaces what stood there.  What a merge leaves at a
path depends on what stood at that path only.
-/

set_option autoImplicit false

namespace Json

mutual

def mergeFields (result : List (String × Json)) : List (String × Json) → List (String × Json)
  | [] => result
  | (key, value) :: rest => mergeFields (mergeField result key value) rest

def mergeField (result : List (String × Json)) (key : String) : Json → List (String × Json)
  | null => result.filter fun entry => entry.1 ≠ key
  | obj patch =>
    match Assoc.get key result with
    | some (obj current) => Assoc.set key (obj (mergeFields current patch)) result
    | some _ => Assoc.set key (obj (mergeFields [] patch)) result
    | none => Assoc.set key (obj patch) result
  | value => Assoc.set key value result

end

/-- The patch laid over the original; a patch that is no table replaces it. -/
def merge (original : Json) : Json → Json
  | obj patch => obj (mergeFields (original.fields?.getD []) patch)
  | patch => patch

def valueAt (value : Json) : List String → Option Json
  | [] => some value
  | key :: path => (value.fields?.bind (Assoc.get key)).bind fun child => valueAt child path

theorem valueAt_obj_cons (fields : List (String × Json)) (key : String) (path : List String) :
    (obj fields).valueAt (key :: path) =
      (Assoc.get key fields).bind fun child => child.valueAt path := rfl

theorem valueAt_append (value : Json) (path below : List String) :
    value.valueAt (path ++ below) = (value.valueAt path).bind fun child => child.valueAt below := by
  induction path generalizing value with
  | nil => rfl
  | cons key path ih =>
    rw [List.cons_append, valueAt, valueAt]
    cases value.fields?.bind (Assoc.get key) with
    | none => rfl
    | some child => exact ih child

variable {path : List String} {key : String} {fields fields' : List (String × Json)}

theorem fields_of_valueAt {value found : Json} (there : value.valueAt (key :: path) = some found) :
    ∃ fields child, value = obj fields ∧ Assoc.get key fields = some child ∧
      child.valueAt path = some found := by
  cases value with
  | obj fields =>
    rw [valueAt_obj_cons] at there
    obtain ⟨child, got, below⟩ := Option.bind_eq_some_iff.mp there
    exact ⟨fields, child, rfl, got, below⟩
  | null => cases there
  | bool _ => cases there
  | num _ => cases there
  | str _ => cases there
  | arr _ => cases there

theorem get_filter_ne (key key' : String) (fields : List (String × Json)) :
    Assoc.get key (fields.filter fun entry => entry.1 ≠ key') =
      if key = key' then none else Assoc.get key fields := by
  induction fields with
  | nil => simp
  | cons head rest ih =>
    obtain ⟨name, value⟩ := head
    by_cases dropped : name = key'
    · rw [List.filter_cons_of_neg (by simpa using dropped), ih, Assoc.get_cons]
      by_cases same : key = key'
      · rw [if_pos same, if_pos same]
      · rw [if_neg same, if_neg same, if_neg (fun eq => same (eq.trans dropped))]
    · rw [List.filter_cons_of_pos (by simpa using dropped), Assoc.get_cons, Assoc.get_cons, ih]
      by_cases here : key = name
      · rw [if_pos here, if_pos here, if_neg (fun eq => dropped (here.symm.trans eq))]
      · rw [if_neg here, if_neg here]

/-! ## Paths a patch leaves alone -/

mutual

/-- The patch may change what stands at the path. -/
def touches : Json → List String → Bool
  | obj fields, key :: path => fieldsTouch fields key path
  | _, _ => true

def fieldsTouch : List (String × Json) → String → List String → Bool
  | [], _, _ => false
  | (name, value) :: rest, key, path =>
    (name == key && touches value path) || fieldsTouch rest key path

end

mutual

theorem valueAt_of_untouched : ∀ (patch : Json) (path : List String),
    patch.touches path = false → patch.valueAt path = none
  | obj fields, key :: path, apart => get_of_untouched fields key path apart
  | obj _, [], apart => by cases apart
  | null, _, apart => by cases apart
  | bool _, _, apart => by cases apart
  | num _, _, apart => by cases apart
  | str _, _, apart => by cases apart
  | arr _, _, apart => by cases apart

theorem get_of_untouched : ∀ (fields : List (String × Json)) (key : String) (path : List String),
    fieldsTouch fields key path = false →
      ((Assoc.get key fields).bind fun child => child.valueAt path) = none
  | [], _, _, _ => rfl
  | (name, value) :: rest, key, path, apart => by
      rw [fieldsTouch, Bool.or_eq_false_iff] at apart
      rw [Assoc.get_cons]
      by_cases here : key = name
      · have below : value.touches path = false := by simpa [here] using apart.1
        rw [if_pos here, Option.bind_some]
        exact valueAt_of_untouched value path below
      · rw [if_neg here]
        exact get_of_untouched rest key path apart.2

end

theorem mergeField_leaf {result : List (String × Json)} (value : Json) (leaf : value.fields? = none)
    (present : value ≠ null) : mergeField result key value = Assoc.set key value result := by
  cases value with
  | null => exact absurd rfl present
  | obj _ => cases leaf
  | bool _ => rfl
  | num _ => rfl
  | str _ => rfl
  | arr _ => rfl

theorem get_mergeField_of_ne {name : String} (differ : key ≠ name) (result : List (String × Json))
    (value : Json) : Assoc.get key (mergeField result name value) = Assoc.get key result := by
  cases value with
  | null => rw [mergeField, get_filter_ne, if_neg differ]
  | obj patch =>
    rw [mergeField]
    split
    · rw [Assoc.get_set, if_neg differ]
    · rw [Assoc.get_set, if_neg differ]
    · rw [Assoc.get_set, if_neg differ]
  | bool leaf => rw [mergeField_leaf (bool leaf) rfl nofun, Assoc.get_set, if_neg differ]
  | num leaf => rw [mergeField_leaf (num leaf) rfl nofun, Assoc.get_set, if_neg differ]
  | str leaf => rw [mergeField_leaf (str leaf) rfl nofun, Assoc.get_set, if_neg differ]
  | arr leaf => rw [mergeField_leaf (arr leaf) rfl nofun, Assoc.get_set, if_neg differ]

mutual

/-- A merge keeps what stands at a path its patch does not touch. -/
theorem mergeFields_untouched : ∀ (patch result : List (String × Json)) (key : String)
    (path : List String), fieldsTouch patch key path = false →
      ((Assoc.get key (mergeFields result patch)).bind fun child => child.valueAt path) =
        (Assoc.get key result).bind fun child => child.valueAt path
  | [], _, _, _, _ => by rw [mergeFields]
  | (name, value) :: rest, result, key, path, apart => by
      rw [fieldsTouch, Bool.or_eq_false_iff] at apart
      rw [mergeFields, mergeFields_untouched rest (mergeField result name value) key path apart.2]
      by_cases here : key = name
      · subst here
        exact mergeField_untouched value result key path (by simpa using apart.1)
      · rw [get_mergeField_of_ne here]

theorem mergeField_untouched : ∀ (value : Json) (result : List (String × Json)) (key : String)
    (path : List String), value.touches path = false →
      ((Assoc.get key (mergeField result key value)).bind fun child => child.valueAt path) =
        (Assoc.get key result).bind fun child => child.valueAt path
  | obj patch, result, key, inner :: path, apart => by
      rw [mergeField]
      split
      next current found =>
        rw [Assoc.get_set, if_pos rfl, found, Option.bind_some, Option.bind_some, valueAt_obj_cons,
          mergeFields_untouched patch current inner path apart, valueAt_obj_cons]
      next other notTable found =>
        rw [Assoc.get_set, if_pos rfl, found, Option.bind_some, Option.bind_some, valueAt_obj_cons,
          mergeFields_untouched patch [] inner path apart]
        cases other with
        | obj fields => exact absurd rfl (notTable fields)
        | _ => rfl
      next found =>
        rw [Assoc.get_set, if_pos rfl, found, Option.bind_some, Option.bind_none, valueAt_obj_cons]
        exact get_of_untouched patch inner path apart
  | obj _, _, _, [], apart => by cases apart
  | null, _, _, _, apart => by cases apart
  | bool _, _, _, _, apart => by cases apart
  | num _, _, _, _, apart => by cases apart
  | str _, _, _, _, apart => by cases apart
  | arr _, _, _, _, apart => by cases apart

end

theorem valueAt_merge_of_untouched (original : Json) {patch : Json}
    (apart : patch.touches path = false) :
    (merge original patch).valueAt path = original.valueAt path := by
  cases patch with
  | obj fields =>
    cases path with
    | nil => cases apart
    | cons key path =>
      have kept := mergeFields_untouched fields (original.fields?.getD []) key path apart
      rw [merge, valueAt_obj_cons, kept]
      cases original <;> rfl
  | _ => cases apart

/-! ## What a patch puts in place -/

theorem get_mergeFields_of_none (patch : List (String × Json)) :
    ∀ result : List (String × Json), Assoc.get key patch = none →
      Assoc.get key (mergeFields result patch) = Assoc.get key result := by
  induction patch with
  | nil => intro result _; rw [mergeFields]
  | cons head rest ih =>
    intro result missing
    obtain ⟨name, value⟩ := head
    rw [Assoc.get_cons] at missing
    by_cases here : key = name
    · simp [here] at missing
    · rw [if_neg here] at missing
      rw [mergeFields, ih _ missing, get_mergeField_of_ne here]

theorem get_mergeField_obj (result : List (String × Json)) (key : String)
    (patch : List (String × Json)) :
    Assoc.get key (mergeField result key (obj patch)) =
      some (match Assoc.get key result with
        | some current => merge current (obj patch)
        | none => obj patch) := by
  rw [mergeField]
  split
  next found => rw [Assoc.get_set, if_pos rfl, found]; rfl
  next other notTable found =>
    rw [Assoc.get_set, if_pos rfl, found]
    cases other with
    | obj fields => exact absurd rfl (notTable fields)
    | _ => rfl
  next found => rw [Assoc.get_set, if_pos rfl, found]

theorem get_mergeField_congr {left right : List (String × Json)}
    (same : Assoc.get key left = Assoc.get key right) (value : Json) :
    Assoc.get key (mergeField left key value) = Assoc.get key (mergeField right key value) := by
  cases value with
  | null => rw [mergeField, mergeField, get_filter_ne, get_filter_ne, same]
  | obj patch => rw [get_mergeField_obj, get_mergeField_obj, same]
  | bool leaf =>
    rw [mergeField_leaf (bool leaf) rfl nofun, mergeField_leaf (bool leaf) rfl nofun,
      Assoc.get_set, Assoc.get_set, same]
  | num leaf =>
    rw [mergeField_leaf (num leaf) rfl nofun, mergeField_leaf (num leaf) rfl nofun,
      Assoc.get_set, Assoc.get_set, same]
  | str leaf =>
    rw [mergeField_leaf (str leaf) rfl nofun, mergeField_leaf (str leaf) rfl nofun,
      Assoc.get_set, Assoc.get_set, same]
  | arr leaf =>
    rw [mergeField_leaf (arr leaf) rfl nofun, mergeField_leaf (arr leaf) rfl nofun,
      Assoc.get_set, Assoc.get_set, same]

/-- The entry of a key, and no other, decides what the key becomes. -/
theorem get_mergeFields_of_get {value : Json} (patch : List (String × Json)) :
    ∀ result : List (String × Json), Assoc.Sorted patch → Assoc.get key patch = some value →
      Assoc.get key (mergeFields result patch) = Assoc.get key (mergeField result key value) := by
  induction patch with
  | nil => intro result _ found; cases found
  | cons head rest ih =>
    intro result sorted found
    obtain ⟨name, first⟩ := head
    rw [Assoc.get_cons] at found
    by_cases here : key = name
    · subst here
      rw [if_pos rfl] at found
      cases found
      rw [mergeFields, get_mergeFields_of_none rest _ sorted.get_head_rest]
    · rw [if_neg here] at found
      rw [mergeFields, ih _ sorted.tail found]
      exact get_mergeField_congr (get_mergeField_of_ne here result first) value

/-- A value of the patch that is no table stands in the merged document where the patch
has it. -/
theorem valueAt_merge_of_leaf {leaf : Json} (single : leaf.fields? = none) (present : leaf ≠ null)
    (path : List String) : ∀ original patch : Json, patch.Sorted →
      patch.valueAt path = some leaf → (merge original patch).valueAt path = some leaf := by
  induction path with
  | nil =>
    intro original patch _ there
    cases there
    cases leaf with
    | obj fields => cases single
    | _ => rfl
  | cons key path ih =>
    intro original patch sorted there
    obtain ⟨fields, child, rfl, found, below⟩ := fields_of_valueAt there
    have entry := get_mergeFields_of_get fields (original.fields?.getD []) sorted.1 found
    rw [merge, valueAt_obj_cons, entry]
    have sortedChild : child.Sorted := sorted.2.of_get found
    cases kind : child.fields? with
    | none =>
      -- A value without fields is the leaf itself.
      cases path with
      | nil =>
        cases below
        rw [mergeField_leaf leaf single present, Assoc.get_set, if_pos rfl]
        rfl
      | cons inner path =>
        obtain ⟨inside, _, rfl, _⟩ := fields_of_valueAt below
        cases kind
    | some inside =>
      obtain rfl : child = obj inside := by
        cases child with
        | obj entries => cases kind; rfl
        | _ => cases kind
      rw [get_mergeField_obj, Option.bind_some]
      split
      next current _ => exact ih current (obj inside) sortedChild below
      · exact below

/-! ## Leaves -/

def IsLeaf (value : Json) : Prop :=
  value.fields? = none ∨ value = obj []

theorem exists_leaf : ∀ value : Json, ∃ path leaf, value.valueAt path = some leaf ∧ leaf.IsLeaf
  | obj [] => ⟨[], obj [], rfl, .inr rfl⟩
  | obj ((name, child) :: rest) => by
      obtain ⟨path, leaf, there, ends⟩ := exists_leaf child
      refine ⟨name :: path, leaf, ?_, ends⟩
      rw [valueAt_obj_cons, Assoc.get_cons, if_pos rfl]
      exact there
  | null => ⟨[], null, rfl, .inl rfl⟩
  | bool value => ⟨[], bool value, rfl, .inl rfl⟩
  | num token => ⟨[], num token, rfl, .inl rfl⟩
  | str text => ⟨[], str text, rfl, .inl rfl⟩
  | arr items => ⟨[], arr items, rfl, .inl rfl⟩

theorem get_of_fieldsTouch (fields : List (String × Json)) :
    Assoc.Sorted fields → fieldsTouch fields key path = true →
      ∃ child, Assoc.get key fields = some child ∧ child.touches path = true := by
  induction fields with
  | nil => intro _ touched; simp [fieldsTouch] at touched
  | cons head rest ih =>
    intro sorted touched
    obtain ⟨name, value⟩ := head
    rw [fieldsTouch, Bool.or_eq_true, Bool.and_eq_true, beq_iff_eq] at touched
    rcases touched with ⟨rfl, below⟩ | later
    · exact ⟨value, by rw [Assoc.get_cons, if_pos rfl], below⟩
    · obtain ⟨child, found, below⟩ := ih sorted.tail later
      refine ⟨child, ?_, below⟩
      rw [Assoc.get_cons]
      by_cases here : key = name
      · rw [here, sorted.get_head_rest] at found
        cases found
      · rw [if_neg here]
        exact found

/-- A path the patch touches is above or below one of its leaves. -/
theorem leaf_of_touches (path : List String) : ∀ patch : Json, patch.Sorted →
    patch.touches path = true → ∃ below leaf, patch.valueAt below = some leaf ∧ leaf.IsLeaf ∧
      (path <+: below ∨ below <+: path) := by
  induction path with
  | nil =>
    intro patch _ _
    obtain ⟨below, leaf, there, ends⟩ := exists_leaf patch
    exact ⟨below, leaf, there, ends, .inl (List.nil_prefix)⟩
  | cons key path ih =>
    intro patch sorted touched
    cases kind : patch.fields? with
    | none => exact ⟨[], patch, rfl, .inl kind, .inr List.nil_prefix⟩
    | some fields =>
      obtain rfl : patch = obj fields := by
        cases patch with
        | obj entries => cases kind; rfl
        | _ => cases kind
      obtain ⟨child, found, below⟩ := get_of_fieldsTouch fields sorted.1 touched
      obtain ⟨tail, leaf, there, ends, near⟩ := ih child (sorted.2.of_get found) below
      refine ⟨key :: tail, leaf, ?_, ends, ?_⟩
      · rw [valueAt_obj_cons, found]
        exact there
      · simpa only [List.prefix_cons_inj] using near

/-! ## Equal at a path -/

/-- The values look alike along the path: what stands at it is the same, or is missing in
both from the same table on. -/
def Alike : List String → Json → Json → Prop
  | [], left, right => left = right
  | key :: path, left, right =>
    left = right ∨ ∃ fields fields', left = obj fields ∧ right = obj fields' ∧
      ((Assoc.get key fields = none ∧ Assoc.get key fields' = none) ∨
        ∃ child child', Assoc.get key fields = some child ∧ Assoc.get key fields' = some child' ∧
          Alike path child child')

theorem Alike.of_eq (path : List String) {left right : Json} (same : left = right) :
    Alike path left right := by
  cases path with
  | nil => exact same
  | cons key path => exact .inl same

theorem Alike.valueAt : ∀ {path : List String} {left right : Json},
    Alike path left right → left.valueAt path = right.valueAt path
  | [], _, _, alike => congrArg some alike
  | _ :: _, _, _, .inl same => by rw [same]
  | key :: path, _, _, .inr ⟨fields, fields', table, table', below⟩ => by
      rw [table, table', valueAt_obj_cons, valueAt_obj_cons]
      rcases below with ⟨none, none'⟩ | ⟨child, child', got, got', alike⟩
      · rw [none, none']
      · rw [got, got', Option.bind_some, Option.bind_some]
        exact alike.valueAt

def AlikeAt (key : String) (path : List String) (fields fields' : List (String × Json)) : Prop :=
  (Assoc.get key fields = none ∧ Assoc.get key fields' = none) ∨
    ∃ child child', Assoc.get key fields = some child ∧ Assoc.get key fields' = some child' ∧
      Alike path child child'

theorem AlikeAt.of_set (key : String) (path : List String) {child child' : Json}
    (alike : Alike path child child') :
    AlikeAt key path (Assoc.set key child fields) (Assoc.set key child' fields') :=
  .inr ⟨child, child', by rw [Assoc.get_set, if_pos rfl], by rw [Assoc.get_set, if_pos rfl], alike⟩

theorem Alike.cases {left right : Json} (alike : Alike (key :: path) left right) :
    left = right ∨ ∃ fields fields', left = obj fields ∧ right = obj fields' ∧
      AlikeAt key path fields fields' :=
  alike

theorem Alike.of_fields (alike : AlikeAt key path fields fields') :
    Alike (key :: path) (obj fields) (obj fields') :=
  .inr ⟨fields, fields', rfl, rfl, alike⟩

theorem mergeField_leaf_alike {value : Json} (leaf : value.fields? = none) (present : value ≠ null) :
    AlikeAt key path (mergeField fields key value) (mergeField fields' key value) := by
  rw [mergeField_leaf value leaf present, mergeField_leaf value leaf present]
  exact .of_set key path (.of_eq path rfl)

mutual

theorem mergeFields_alike : ∀ (patch : List (String × Json)) {key : String} {path : List String}
    {fields fields' : List (String × Json)}, AlikeAt key path fields fields' →
      AlikeAt key path (mergeFields fields patch) (mergeFields fields' patch)
  | [], _, _, _, _, alike => by rw [mergeFields, mergeFields]; exact alike
  | (name, value) :: rest, key, path, fields, fields', alike => by
      rw [mergeFields, mergeFields]
      refine mergeFields_alike rest ?_
      by_cases here : key = name
      · subst here
        exact mergeField_alike value alike
      · unfold AlikeAt
        rw [get_mergeField_of_ne here, get_mergeField_of_ne here]
        exact alike

theorem mergeField_alike : ∀ (value : Json) {key : String} {path : List String}
    {fields fields' : List (String × Json)}, AlikeAt key path fields fields' →
      AlikeAt key path (mergeField fields key value) (mergeField fields' key value)
  | null, key, path, fields, fields', _ => by
      rw [mergeField, mergeField]
      refine .inl ⟨?_, ?_⟩
      · rw [get_filter_ne, if_pos rfl]
      · rw [get_filter_ne, if_pos rfl]
  | obj patch, key, path, fields, fields', alike => by
      rcases alike with ⟨none, none'⟩ | ⟨child, child', got, got', below⟩
      · rw [mergeField, mergeField, none, none']
        exact .of_set key path (.of_eq path rfl)
      · rw [mergeField, mergeField, got, got']
        cases path with
        | nil =>
          have same : child = child' := below
          subst same
          cases child with
          | obj current => exact .of_set key [] rfl
          | _ => exact .of_set key [] rfl
        | cons inner path =>
          rcases below.cases with same | ⟨current, current', table, table', inside⟩
          · subst same
            cases child with
            | obj current => exact .of_set key (inner :: path) (.of_eq _ rfl)
            | _ => exact .of_set key (inner :: path) (.of_eq _ rfl)
          · subst table table'
            exact .of_set key (inner :: path) (.of_fields (mergeFields_alike patch inside))
  | bool value, _, _, _, _, _ => mergeField_leaf_alike rfl nofun
  | num token, _, _, _, _, _ => mergeField_leaf_alike rfl nofun
  | str text, _, _, _, _, _ => mergeField_leaf_alike rfl nofun
  | arr items, _, _, _, _, _ => mergeField_leaf_alike rfl nofun

end

theorem Alike.merge {left right : Json} (alike : Alike path left right) (patch : Json) :
    Alike path (Json.merge left patch) (Json.merge right patch) := by
  cases path with
  | nil =>
    have same : left = right := alike
    exact congrArg (fun value => Json.merge value patch) same
  | cons key path =>
    rcases alike.cases with same | ⟨fields, fields', table, table', below⟩
    · exact .of_eq _ (congrArg (fun value => Json.merge value patch) same)
    · subst table table'
      cases patch with
      | obj entries => exact .of_fields (mergeFields_alike entries below)
      | _ => exact .of_eq _ rfl

/-! ## Paths that end at a value -/

/-- A value that is no table stands at the path. -/
def LeafAt (path : List String) (value : Json) : Prop :=
  ∃ leaf, value.valueAt path = some leaf ∧ leaf.fields? = none

theorem LeafAt.child {value : Json} (leaf : LeafAt (key :: path) value) :
    ∃ fields child, value = obj fields ∧ Assoc.get key fields = some child ∧ LeafAt path child := by
  obtain ⟨found, there, single⟩ := leaf
  obtain ⟨fields, child, table, got, below⟩ := fields_of_valueAt there
  exact ⟨fields, child, table, got, found, below, single⟩

theorem LeafAt.mergeField_of_untouched {name : String} {value : Json}
    (leaf : LeafAt (key :: path) (obj fields)) (apart : ¬ (name = key ∧ value.touches path = true)) :
    LeafAt (key :: path) (obj (mergeField fields name value)) := by
  obtain ⟨found, there, single⟩ := leaf
  refine ⟨found, ?_, single⟩
  rw [valueAt_obj_cons] at there ⊢
  by_cases here : key = name
  · subst here
    rw [mergeField_untouched value fields key path (by simpa using apart), there]
  · rw [get_mergeField_of_ne here, there]

mutual

/-- What a patch leaves at a path it touches does not depend on the value that stood there. -/
theorem merge_touched : ∀ (patch : Json) {path : List String} {left right : Json},
    LeafAt path left → LeafAt path right → patch.touches path = true →
      Alike path (merge left patch) (merge right patch)
  | obj patch, [], left, right, ⟨_, here, single⟩, ⟨_, here', single'⟩, _ => by
      cases here
      cases here'
      change obj _ = obj _
      rw [single, single']
  | obj patch, key :: path, left, right, leaf, leaf', touched => by
      obtain ⟨fields, _, rfl, -⟩ := leaf.child
      obtain ⟨fields', _, rfl, -⟩ := leaf'.child
      exact .of_fields (mergeFields_touched patch leaf leaf' touched)
  | null, _, _, _, _, _, _ => .of_eq _ rfl
  | bool _, _, _, _, _, _, _ => .of_eq _ rfl
  | num _, _, _, _, _, _, _ => .of_eq _ rfl
  | str _, _, _, _, _, _, _ => .of_eq _ rfl
  | arr _, _, _, _, _, _, _ => .of_eq _ rfl

theorem mergeFields_touched : ∀ (patch : List (String × Json)) {key : String} {path : List String}
    {fields fields' : List (String × Json)}, LeafAt (key :: path) (obj fields) →
      LeafAt (key :: path) (obj fields') → fieldsTouch patch key path = true →
        AlikeAt key path (mergeFields fields patch) (mergeFields fields' patch)
  | [], _, _, _, _, _, _, touched => by simp [fieldsTouch] at touched
  | (name, value) :: rest, key, path, fields, fields', leaf, leaf', touched => by
      rw [mergeFields, mergeFields]
      by_cases head : name = key ∧ value.touches path = true
      · -- From here on the two agree at the path, and the rest of the patch keeps that.
        refine mergeFields_alike rest ?_
        obtain ⟨rfl, reached⟩ := head
        obtain ⟨_, child, table, got, below⟩ := leaf.child
        obtain ⟨_, child', table', got', below'⟩ := leaf'.child
        cases table
        cases table'
        cases value with
        | obj patch =>
          unfold AlikeAt
          rw [get_mergeField_obj, get_mergeField_obj, got, got']
          exact .inr ⟨_, _, rfl, rfl, merge_touched (obj patch) below below' reached⟩
        | null =>
          rw [mergeField, mergeField]
          refine .inl ⟨?_, ?_⟩ <;> rw [get_filter_ne, if_pos rfl]
        | bool _ => exact mergeField_leaf_alike rfl nofun
        | num _ => exact mergeField_leaf_alike rfl nofun
        | str _ => exact mergeField_leaf_alike rfl nofun
        | arr _ => exact mergeField_leaf_alike rfl nofun
      · rw [fieldsTouch, Bool.or_eq_true, Bool.and_eq_true, beq_iff_eq] at touched
        exact mergeFields_touched rest (leaf.mergeField_of_untouched head)
          (leaf'.mergeField_of_untouched head) (touched.resolve_left head)

end

end Json
