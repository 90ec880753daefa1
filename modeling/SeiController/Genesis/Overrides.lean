import SeiController.Lib.Updates
import SeiController.Planner.Overlay

/-!
# Patching the assembled genesis

The dotted overrides of app_state and the merge of the consensus parameters.  The
overrides are a Go map, so their list stands for one of the orders a run may take.
-/

set_option autoImplicit false

namespace SeiController

/-- The kind of a value in an error of `json.Unmarshal`. -/
def jsonKind : Json → String
  | .null => "null"
  | .bool _ => "bool"
  | .num _ => "number"
  | .str _ => "string"
  | .arr _ => "array"
  | .obj _ => "object"

/-- Reading a value into a Go map; `null` leaves the map nil. -/
def unmarshalMap : Json → Except String (List (String × Json))
  | .null => .ok []
  | .obj fields => .ok fields
  | value => .error ("json: cannot unmarshal " ++ jsonKind value
      ++ " into Go value of type map[string]json.RawMessage")

/-- The object a path goes through; a missing one is created. -/
def childMap (originalKey head : String) : Option Json → Except String (List (String × Json))
  | none => .ok []
  | some raw =>
    (unmarshalMap raw).mapError fun err =>
      "genesis-overrides: key \"" ++ originalKey ++ "\" traverses non-object at segment \""
        ++ head ++ "\": " ++ err

def setNestedRaw (originalKey : String) (value : Json) :
    List String → List (String × Json) → Except String (List (String × Json))
  | [], _ => .error ("genesis-overrides: key \"" ++ originalKey ++ "\" has no field path under module")
  | [field], state => .ok (Assoc.set field value state)
  | head :: next :: rest, state => do
      let child ← childMap originalKey head (Assoc.get head state)
      let child ← setNestedRaw originalKey value (next :: rest) child
      return Assoc.set head (.obj child) state

def applyGenesisOverride (override : String × Json) (appState : List (String × Json)) :
    Except String (List (String × Json)) :=
  let key := override.1
  if key = "" then
    .error "genesis-overrides: empty key"
  else
    match keyPath key with
    | [] | [_] =>
      .error ("genesis-overrides: key \"" ++ key ++ "\" must be of the form module.field[.field...]")
    | module :: path =>
      match (module :: path).idxOf? "" with
      | some index =>
        .error ("genesis-overrides: key \"" ++ key ++ "\" has empty segment at index "
          ++ toString index)
      | none =>
        match Assoc.get module appState with
        | none =>
          .error ("genesis-overrides: unknown module \"" ++ module ++ "\" (key \"" ++ key
            ++ "\"); app_state has no such top-level key")
        | some moduleRaw => do
            let moduleState ← (unmarshalMap moduleRaw).mapError fun err =>
              "genesis-overrides: module \"" ++ module ++ "\" is not a JSON object: " ++ err
            let moduleState ← setNestedRaw key override.2 path moduleState
            return Assoc.set module (.obj moduleState) appState

def applyGenesisOverrides (overrides : List (String × Json)) (appState : List (String × Json)) :
    Except String (List (String × Json)) :=
  Updates.applyAll applyGenesisOverride overrides appState

/-! ## Overrides that do not overlap -/

/-- What a set below one key puts there, given what stood there. -/
inductive Nested (originalKey : String) (value : Json) (head : String) :
    List String → Option Json → Json → Prop
  | leaf (old : Option Json) : Nested originalKey value head [] old value
  | below {rest : List String} {old : Option Json} {child child' : List (String × Json)}
      (deeper : rest ≠ []) (opened : childMap originalKey head old = .ok child)
      (written : setNestedRaw originalKey value rest child = .ok child') :
      Nested originalKey value head rest old (.obj child')

variable {t s : List (String × Json)} {override : String × Json} {module : String}

theorem setNestedRaw_cons {originalKey : String} {value : Json} {head : String} {rest : List String}
    {state : List (String × Json)} :
    setNestedRaw originalKey value (head :: rest) state = .ok t ↔
      ∃ placed, Nested originalKey value head rest (Assoc.get head state) placed ∧
        t = Assoc.set head placed state := by
  cases rest with
  | nil =>
    constructor
    · intro written
      cases written
      exact ⟨value, .leaf _, rfl⟩
    · rintro ⟨placed, nested, rfl⟩
      cases nested with
      | leaf => rfl
      | below deeper => exact absurd rfl deeper
  | cons next more =>
    rw [setNestedRaw]
    simp only [Except.bind_ok_iff, Except.pure_ok_iff]
    constructor
    · rintro ⟨child, opened, child', written, rfl⟩
      exact ⟨_, .below (List.cons_ne_nil _ _) opened written, rfl⟩
    · rintro ⟨placed, nested, rfl⟩
      cases nested with
      | below deeper opened written => exact ⟨_, opened, _, written, rfl⟩

/-- What a single override does: it sets one place below a module that is there. -/
structure Overridden (override : String × Json) (s t : List (String × Json)) (module : String)
    (path : List String) (before after : List (String × Json)) : Prop where
  key : override.1 ≠ ""
  split : keyPath override.1 = module :: path
  deep : path ≠ []
  named : (module :: path).idxOf? "" = none
  opened : ∃ raw, Assoc.get module s = some raw ∧ unmarshalMap raw = .ok before
  written : setNestedRaw override.1 override.2 path before = .ok after
  result : t = Assoc.set module (.obj after) s

theorem applyGenesisOverride_ok :
    applyGenesisOverride override s = .ok t ↔
      ∃ module path before after, Overridden override s t module path before after := by
  unfold applyGenesisOverride
  constructor
  · intro done
    by_cases key : override.1 = ""
    · rw [if_pos key] at done
      cases done
    rw [if_neg key] at done
    split at done
    · cases done
    · cases done
    next module path short split =>
      split at done
      · cases done
      next named =>
        split at done
        · cases done
        next raw found =>
          simp only [Except.bind_ok_iff, Except.mapError_ok_iff, Except.pure_ok_iff] at done
          obtain ⟨before, opened, after, written, rfl⟩ := done
          have deep : path ≠ [] := short
          exact ⟨module, path, before, after, key, split, deep, named, ⟨raw, found, opened⟩,
            written, rfl⟩
  · rintro ⟨module, path, before, after, made⟩
    obtain ⟨raw, found, opened⟩ := made.opened
    rw [if_neg made.key]
    split
    next none => rw [made.split] at none; cases none
    next single one => rw [made.split] at one; exact absurd (List.cons.inj one).2 made.deep
    next module' path' short split =>
      rw [made.split] at split
      cases split
      rw [made.named]
      simp only [found]
      simp only [Except.bind_ok_iff, Except.mapError_ok_iff, Except.pure_ok_iff]
      exact ⟨before, opened, after, made.written, made.result.symm⟩

def overrideModule (override : String × Json) : String :=
  (keyPath override.1).headD ""

theorem Overridden.module_eq {path : List String} {before after : List (String × Json)}
    (made : Overridden override s t module path before after) :
    overrideModule override = module := by
  rw [overrideModule, made.split]
  rfl

end SeiController
