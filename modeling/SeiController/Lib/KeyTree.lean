import SeiController.Lib.Assoc

/-!
# Trees of association lists

Values of which some are tables of further values, seen through a `view` that gives a
table's entries.  What stands at a path of keys is either a table or a leaf.
-/

set_option autoImplicit false

namespace KeyTree

/-- What stands at a path: a table, or a value that is not one. -/
inductive Node (α : Type)
  | table
  | leaf (value : α)
deriving DecidableEq

def Node.map {α β : Type} (f : α → β) : Node α → Node β
  | table => table
  | leaf value => leaf (f value)

section

variable {κ α β : Type} [LinearOrder κ] (view : α → Option (List (κ × α)))

def node (value : α) : Node α :=
  match view value with
  | some _ => .table
  | none => .leaf value

def at? (value : α) : List κ → Option (Node α)
  | [] => some (node view value)
  | key :: path => ((view value).bind (Assoc.get key)).bind fun child => at? child path

variable {view}

@[simp] theorem at?_nil (value : α) : at? view value [] = some (node view value) := rfl

theorem at?_cons {value : α} {fields : List (κ × α)} (table : view value = some fields)
    (key : κ) (path : List κ) :
    at? view value (key :: path) = (Assoc.get key fields).bind fun child => at? view child path := by
  rw [at?, table, Option.bind_some]

theorem at?_leaf {value : α} (leaf : view value = none) (key : κ) (path : List κ) :
    at? view value (key :: path) = none := by
  rw [at?, leaf, Option.bind_none, Option.bind_none]

omit [LinearOrder κ] in
theorem node_table {value : α} {fields : List (κ × α)} (table : view value = some fields) :
    node view value = .table := by
  rw [node, table]

omit [LinearOrder κ] in
theorem node_leaf {value : α} (leaf : view value = none) : node view value = .leaf value := by
  rw [node, leaf]

omit [LinearOrder κ] in
theorem node_eq_table {value : α} :
    node view value = .table ↔ ∃ fields, view value = some fields := by
  cases shown : view value with
  | none => simp [node_leaf shown]
  | some fields => simp [node_table shown]

/-- A function that keeps tables tables acts on each node. -/
theorem at?_map {view' : β → Option (List (κ × β))} {f : α → β}
    (commutes : ∀ value, view' (f value) = (view value).map (Assoc.mapValues f))
    (value : α) (path : List κ) :
    at? view' (f value) path = (at? view value path).map (Node.map f) := by
  induction path generalizing value with
  | nil =>
    cases shown : view value with
    | none =>
      have leaf' : view' (f value) = none := by rw [commutes, shown, Option.map_none]
      rw [at?_nil, at?_nil, node_leaf shown, node_leaf leaf']
      rfl
    | some fields =>
      have table' : view' (f value) = some (Assoc.mapValues f fields) := by
        rw [commutes, shown, Option.map_some]
      rw [at?_nil, at?_nil, node_table shown, node_table table']
      rfl
  | cons key path ih =>
    cases shown : view value with
    | none =>
      have leaf' : view' (f value) = none := by rw [commutes, shown, Option.map_none]
      rw [at?_leaf shown, at?_leaf leaf', Option.map_none]
    | some fields =>
      have table' : view' (f value) = some (Assoc.mapValues f fields) := by
        rw [commutes, shown, Option.map_some]
      rw [at?_cons shown, at?_cons table', Assoc.get_mapValues]
      cases Assoc.get key fields with
      | none => rfl
      | some child => simpa using ih child

theorem get_some_of_at? {left right : α} {fields fields' : List (κ × α)}
    (table : view left = some fields) (table' : view right = some fields')
    (same : ∀ path, at? view left path = at? view right path) {key : κ} {child : α}
    (found : Assoc.get key fields = some child) :
    ∃ child', Assoc.get key fields' = some child' ∧
      ∀ path, at? view child path = at? view child' path := by
  have below (path : List κ) := same (key :: path)
  simp only [at?_cons table, at?_cons table', found, Option.bind_some] at below
  cases found' : Assoc.get key fields' with
  | none =>
    have here := below []
    rw [found', Option.bind_none, at?_nil] at here
    cases here
  | some child' =>
    refine ⟨child', rfl, fun path => ?_⟩
    have here := below path
    rwa [found', Option.bind_some] at here

theorem at?_above {value : α} {path path' : List κ} {node' : Node α}
    (first : path <+: path') (found : at? view value path' = some node') :
    ∃ node, at? view value path = some node ∧ (path ≠ path' → node = .table) := by
  induction path generalizing value path' with
  | nil =>
    refine ⟨_, at?_nil value, fun longer => ?_⟩
    cases path' with
    | nil => exact absurd rfl longer
    | cons key path' =>
      cases shown : view value with
      | none => simp [at?_leaf shown] at found
      | some fields => exact node_table shown
  | cons key path ih =>
    obtain ⟨rest, rfl⟩ := first
    cases shown : view value with
    | none => simp [at?_leaf shown] at found
    | some fields =>
      rw [List.cons_append, at?_cons shown] at found
      obtain ⟨child, here, below⟩ := Option.bind_eq_some_iff.mp found
      obtain ⟨node, there, table⟩ := ih (List.prefix_append path rest) below
      refine ⟨node, by rw [at?_cons shown, here, Option.bind_some, there], fun longer => ?_⟩
      exact table fun same => longer (by rw [List.cons_append, ← same])

variable (view) in
/-- The tables on the way to the leaves are sorted. -/
inductive Ordered : α → Prop
  | leaf {value : α} : view value = none → Ordered value
  | table {value : α} {fields : List (κ × α)} : view value = some fields → Assoc.Sorted fields →
      (∀ key child, Assoc.get key fields = some child → Ordered child) → Ordered value

theorem Ordered.ext (faithful : ∀ left right, view left = view right → (view left).isSome → left = right)
    {left right : α} (ordered : Ordered view left) (ordered' : Ordered view right)
    (same : ∀ path, at? view left path = at? view right path) : left = right := by
  induction ordered generalizing right with
  | @leaf left leaf =>
    have here := same []
    rw [at?_nil, at?_nil, node_leaf leaf, Option.some.injEq] at here
    cases shown : view right with
    | none =>
      rw [node_leaf shown] at here
      cases here
      rfl
    | some fields =>
      rw [node_table shown] at here
      cases here
  | @table left fields shown sorted _ ih =>
    have here := same []
    rw [at?_nil, at?_nil, Option.some.injEq] at here
    obtain ⟨fields', shown'⟩ := node_eq_table.mp (here.symm.trans (node_table shown))
    cases ordered' with
    | leaf leaf => simp [leaf] at shown'
    | @table _ fields'' again sorted' below =>
      cases again.symm.trans shown'
      have entries : fields = fields' := Assoc.ext sorted sorted' fun key => by
        cases found : Assoc.get key fields with
        | some value =>
          obtain ⟨value', found', same'⟩ := get_some_of_at? shown shown' same found
          rw [found', ih key value found (below key value' found') same']
        | none =>
          cases found' : Assoc.get key fields' with
          | none => rfl
          | some value' =>
            obtain ⟨value, again, _⟩ :=
              get_some_of_at? shown' shown (fun path => (same path).symm) found'
            rw [found] at again
            cases again
      exact faithful _ _ (by rw [shown, shown', entries]) (by simp [shown])

end

end KeyTree
