import Mathlib.Data.String.Basic
import SeiController.Lib.KeyTree
import SeiController.Lib.Json
import SeiController.Lib.MachineNumber

/-!
# JSON values as typed TOML

The TOML value a JSON value is encoded as, the values found along a path of keys, and
when two JSON values that differ in the spelling of their numbers are the same TOML.
-/

set_option autoImplicit false

/-- Typed TOML; `unencodable` stands where an encoder fails. -/
inductive Toml
  | unencodable
  | bool (value : Bool)
  | number (value : MachineNumber)
  | str (text : String)
  | arr (items : List Toml)
  | table (fields : List (String × Toml))

/-! ## Sorted JSON -/

namespace Json

mutual

def Sorted : Json → Prop
  | arr items => SortedItems items
  | obj fields => Assoc.Sorted fields ∧ SortedFields fields
  | _ => True

def SortedItems : List Json → Prop
  | [] => True
  | item :: rest => item.Sorted ∧ SortedItems rest

def SortedFields : List (String × Json) → Prop
  | [] => True
  | (_, value) :: rest => value.Sorted ∧ SortedFields rest

end

theorem SortedFields.of_get {fields : List (String × Json)} (sorted : SortedFields fields)
    {key : String} {value : Json} (found : Assoc.get key fields = some value) : value.Sorted := by
  induction fields with
  | nil => cases found
  | cons head rest ih =>
    obtain ⟨key', value'⟩ := head
    rw [Assoc.get_cons] at found
    split at found
    · cases found
      exact sorted.1
    · exact ih sorted.2 found

theorem SortedFields.set {fields : List (String × Json)} (sorted : SortedFields fields)
    (key : String) {value : Json} (sortedValue : value.Sorted) :
    SortedFields (Assoc.set key value fields) := by
  induction fields with
  | nil => exact ⟨sortedValue, trivial⟩
  | cons head rest ih =>
    obtain ⟨key', value'⟩ := head
    unfold Assoc.set
    split
    · exact ⟨sortedValue, sorted⟩
    · split
      · exact ⟨sortedValue, sorted.2⟩
      · exact ⟨sorted.1, ih sorted.2⟩

mutual

/-- No table on the way to the leaves lists a key twice.  The order of its entries is an
order in which the map can be visited. -/
def Distinct : Json → Prop
  | obj fields => DistinctFields fields
  | _ => True

def DistinctFields : List (String × Json) → Prop
  | [] => True
  | (name, value) :: rest => Assoc.get name rest = none ∧ value.Distinct ∧ DistinctFields rest

end

mutual

theorem Sorted.distinct : ∀ {value : Json}, value.Sorted → value.Distinct
  | obj _, sorted => distinctFields_of_sorted sorted.1 sorted.2
  | null, _ | bool _, _ | num _, _ | str _, _ | arr _, _ => trivial

theorem distinctFields_of_sorted : ∀ {fields : List (String × Json)}, Assoc.Sorted fields →
    SortedFields fields → DistinctFields fields
  | [], _, _ => trivial
  | (_, _) :: _, sorted, below =>
    ⟨sorted.get_head_rest, below.1.distinct, distinctFields_of_sorted sorted.tail below.2⟩

end

/-! ## Encoding -/

mutual

def encode : Json → Toml
  | null => .unencodable
  | bool value => .bool value
  | num token => .number token.machine
  | str text => .str text
  | arr items => .arr (encodeItems items)
  | obj fields => .table (encodeFields fields)

def encodeItems : List Json → List Toml
  | [] => []
  | item :: rest => item.encode :: encodeItems rest

def encodeFields : List (String × Json) → List (String × Toml)
  | [] => []
  | (key, value) :: rest => (key, value.encode) :: encodeFields rest

end

theorem encodeFields_eq_mapValues (fields : List (String × Json)) :
    encodeFields fields = Assoc.mapValues encode fields := by
  induction fields with
  | nil => rfl
  | cons head rest ih =>
    obtain ⟨key, value⟩ := head
    rw [encodeFields, ih]
    rfl

/-! ## Number spelling -/

mutual

def canonical : Json → Json
  | num token => num token.canonical
  | arr items => arr (canonicalItems items)
  | obj fields => obj (canonicalFields fields)
  | value => value

def canonicalItems : List Json → List Json
  | [] => []
  | item :: rest => item.canonical :: canonicalItems rest

def canonicalFields : List (String × Json) → List (String × Json)
  | [] => []
  | (key, value) :: rest => (key, value.canonical) :: canonicalFields rest

end

theorem canonicalFields_eq_mapValues (fields : List (String × Json)) :
    canonicalFields fields = Assoc.mapValues canonical fields := by
  induction fields with
  | nil => rfl
  | cons head rest ih =>
    obtain ⟨key, value⟩ := head
    rw [canonicalFields, ih]
    rfl

mutual

def numberKinds : Json → List NumberKind
  | num token => [token.kind]
  | arr items => itemKinds items
  | obj fields => fieldKinds fields
  | _ => []

def itemKinds : List Json → List NumberKind
  | [] => []
  | item :: rest => item.numberKinds ++ itemKinds rest

def fieldKinds : List (String × Json) → List NumberKind
  | [] => []
  | (_, value) :: rest => value.numberKinds ++ fieldKinds rest

end

/-- What equal canonical spelling leaves open. -/
structure AlikeUpToKinds (kinds kinds' : List NumberKind) (encoded : Prop) : Prop where
  length : kinds.length = kinds'.length
  iff : encoded ↔ kinds = kinds'

theorem AlikeUpToKinds.append {kinds kinds' more more' : List NumberKind} {encoded encodedMore : Prop}
    (head : AlikeUpToKinds kinds kinds' encoded) (tail : AlikeUpToKinds more more' encodedMore) :
    AlikeUpToKinds (kinds ++ more) (kinds' ++ more') (encoded ∧ encodedMore) where
  length := by rw [List.length_append, List.length_append, head.length, tail.length]
  iff := by
    rw [head.iff, tail.iff]
    constructor
    · rintro ⟨rfl, rfl⟩
      rfl
    · exact fun same => List.append_inj same head.length

mutual

/-- Values of one canonical spelling are the same TOML exactly when their numbers
are of the same kinds. -/
theorem encode_eq_iff : ∀ left right : Json, left.canonical = right.canonical →
    AlikeUpToKinds left.numberKinds right.numberKinds (left.encode = right.encode)
  | null, right, same => by
      cases right <;> simp [canonical] at same
      exact ⟨rfl, by simp⟩
  | bool value, right, same => by
      cases right <;> simp [canonical] at same
      subst same
      exact ⟨rfl, by simp⟩
  | num token, right, same => by
      cases right <;> simp [canonical] at same
      exact ⟨rfl, by simpa [encode, numberKinds] using JsonNumber.machine_eq_iff_kind_eq same⟩
  | str text, right, same => by
      cases right <;> simp [canonical] at same
      subst same
      exact ⟨rfl, by simp⟩
  | arr items, right, same => by
      cases right with
      | arr items' =>
        simp only [canonical, Json.arr.injEq] at same
        have alike := encodeItems_eq_iff items items' same
        exact ⟨alike.length, by simpa [encode, numberKinds] using alike.iff⟩
      | _ => simp [canonical] at same
  | obj fields, right, same => by
      cases right with
      | obj fields' =>
        simp only [canonical, Json.obj.injEq] at same
        have alike := encodeFields_eq_iff fields fields' same
        exact ⟨alike.length, by simpa [encode, numberKinds] using alike.iff⟩
      | _ => simp [canonical] at same

theorem encodeItems_eq_iff : ∀ left right : List Json, canonicalItems left = canonicalItems right →
    AlikeUpToKinds (itemKinds left) (itemKinds right) (encodeItems left = encodeItems right)
  | [], right, same => by
      cases right with
      | nil => exact ⟨rfl, by simp⟩
      | cons _ _ => simp [canonicalItems] at same
  | item :: rest, right, same => by
      cases right with
      | nil => simp [canonicalItems] at same
      | cons item' rest' =>
        simp only [canonicalItems, List.cons.injEq] at same
        have alike := (encode_eq_iff item item' same.1).append
          (encodeItems_eq_iff rest rest' same.2)
        exact ⟨alike.length, by simpa [encodeItems, itemKinds] using alike.iff⟩

theorem encodeFields_eq_iff : ∀ left right : List (String × Json),
    canonicalFields left = canonicalFields right →
    AlikeUpToKinds (fieldKinds left) (fieldKinds right) (encodeFields left = encodeFields right)
  | [], right, same => by
      cases right with
      | nil => exact ⟨rfl, by simp⟩
      | cons _ _ => simp [canonicalFields] at same
  | (key, value) :: rest, right, same => by
      rcases right with _ | ⟨⟨key', value'⟩, rest'⟩
      · simp [canonicalFields] at same
      · simp only [canonicalFields, List.cons.injEq, Prod.mk.injEq] at same
        have alike := (encode_eq_iff value value' same.1.2).append
          (encodeFields_eq_iff rest rest' same.2)
        exact ⟨alike.length, by simpa [encodeFields, fieldKinds, same.1.1] using alike.iff⟩

end

end Json

/-! ## Tables -/

def Json.fields? : Json → Option (List (String × Json))
  | .obj fields => some fields
  | _ => none

/-- What stands at a path of keys below a JSON value. -/
abbrev Json.nodeAt (value : Json) (path : List String) : Option (KeyTree.Node Json) :=
  KeyTree.at? Json.fields? value path

theorem Json.Sorted.ordered : ∀ {value : Json}, value.Sorted → KeyTree.Ordered Json.fields? value
  | .obj fields, sorted => by
      refine .table rfl sorted.1 fun key child found => ?_
      have smaller := Assoc.mem_of_get found
      exact Json.Sorted.ordered (sorted.2.of_get found)
  | .null, _ | .bool _, _ | .num _, _ | .str _, _ | .arr _, _ => .leaf rfl
termination_by value => sizeOf value
decreasing_by
  have below := List.sizeOf_lt_of_mem smaller
  simp only [Prod.mk.sizeOf_spec, Json.obj.sizeOf_spec] at below ⊢
  omega

theorem Json.Sorted.ext {left right : Json} (sorted : left.Sorted) (sorted' : right.Sorted)
    (same : ∀ path, left.nodeAt path = right.nodeAt path) : left = right := by
  refine KeyTree.Ordered.ext (fun left right shown table => ?_) sorted.ordered sorted'.ordered same
  cases left <;> cases right <;> simp [Json.fields?] at shown table
  rw [shown]

namespace Toml

def fields? : Toml → Option (List (String × Toml))
  | table fields => some fields
  | _ => none

theorem fields?_encode (value : Json) :
    value.encode.fields? = value.fields?.map (Assoc.mapValues Json.encode) := by
  cases value with
  | obj fields => simp [Json.encode, fields?, Json.fields?, Json.encodeFields_eq_mapValues]
  | _ => rfl

theorem at?_encode (value : Json) (path : List String) :
    KeyTree.at? fields? value.encode path =
      (value.nodeAt path).map (KeyTree.Node.map Json.encode) :=
  KeyTree.at?_map fields?_encode value path

inductive Sorted : Toml → Prop
  | leaf {value : Toml} : value.fields? = none → Sorted value
  | table {fields : List (String × Toml)} : Assoc.Sorted fields →
      (∀ key value, Assoc.get key fields = some value → Sorted value) → Sorted (.table fields)

theorem Sorted.ordered {value : Toml} (sorted : value.Sorted) : KeyTree.Ordered fields? value := by
  induction sorted with
  | leaf leaf => exact .leaf leaf
  | table sorted _ ih => exact .table rfl sorted ih

theorem Sorted.ext {left right : Toml} (sorted : left.Sorted) (sorted' : right.Sorted)
    (same : ∀ path, KeyTree.at? fields? left path = KeyTree.at? fields? right path) : left = right := by
  refine KeyTree.Ordered.ext (fun left right shown table => ?_) sorted.ordered sorted'.ordered same
  cases left <;> cases right <;> simp [fields?] at shown table
  rw [shown]

theorem sorted_encode {value : Json} (sorted : value.Sorted) : value.encode.Sorted := by
  match value with
  | .obj fields =>
    rw [Json.encode, Json.encodeFields_eq_mapValues]
    refine .table (sorted.1.mapValues _) fun key encoded found => ?_
    rw [Assoc.get_mapValues, Option.map_eq_some_iff] at found
    obtain ⟨child, here, rfl⟩ := found
    have smaller := Assoc.mem_of_get here
    exact sorted_encode (sorted.2.of_get here)
  | .null | .bool _ | .num _ | .str _ | .arr _ => exact .leaf rfl
termination_by sizeOf value
decreasing_by
  have below := List.sizeOf_lt_of_mem smaller
  simp only [Prod.mk.sizeOf_spec, Json.obj.sizeOf_spec] at below ⊢
  omega

end Toml
