import SeiController.Lib.FloatText
import SeiController.Planner.ConfigSteps
import SeiController.Planner.OverlayHash

/-!
# The parameters of a task across a restart

A task's parameters come in over HTTP with their number tokens kept, are stored as JSON,
and are read back after a restart with every number as a float.  The handler sees JSON
again in both runs: the tokens as posted in the first, the floats' own texts in the second.
-/

set_option autoImplicit false

namespace SeiController

/-! ## Decoded values -/

/-- What an `any` of the parameters holds; a number is a token or a float, as the decoder chose. -/
inductive ParamValue
  | null
  | bool (value : Bool)
  | number (token : JsonNumber)
  | float (value : Float64)
  | str (text : String)
  | arr (items : List ParamValue)
  | obj (fields : List (String × ParamValue))

namespace ParamValue

mutual

/-- A decoder with `UseNumber`. -/
def decode : Json → ParamValue
  | .null => null
  | .bool value => bool value
  | .num token => number token
  | .str text => str text
  | .arr items => arr (decodeItems items)
  | .obj fields => obj (decodeFields fields)

def decodeItems : List Json → List ParamValue
  | [] => []
  | item :: rest => decode item :: decodeItems rest

def decodeFields : List (String × Json) → List (String × ParamValue)
  | [] => []
  | (key, value) :: rest => (key, decode value) :: decodeFields rest

end

mutual

/-- `json.Unmarshal` into an `any`; a number beyond the range of a float is an error. -/
def unmarshal : Json → Option ParamValue
  | .null => some null
  | .bool value => some (bool value)
  | .num token => token.parseFloat64.map float
  | .str text => some (str text)
  | .arr items => (unmarshalItems items).map arr
  | .obj fields => (unmarshalFields fields).map obj

def unmarshalItems : List Json → Option (List ParamValue)
  | [] => some []
  | item :: rest => do
      let value ← unmarshal item
      let values ← unmarshalItems rest
      return value :: values

def unmarshalFields : List (String × Json) → Option (List (String × ParamValue))
  | [] => some []
  | (key, field) :: rest => do
      let value ← unmarshal field
      let values ← unmarshalFields rest
      return (key, value) :: values

end

mutual

/-- `json.Marshal`: a token as it stands, a float as its shortest text. -/
def marshal : ParamValue → Json
  | null => .null
  | bool value => .bool value
  | number token => .num token
  | float value => .num value.token
  | str text => .str text
  | arr items => .arr (marshalItems items)
  | obj fields => .obj (marshalFields fields)

def marshalItems : List ParamValue → List Json
  | [] => []
  | item :: rest => marshal item :: marshalItems rest

def marshalFields : List (String × ParamValue) → List (String × Json)
  | [] => []
  | (key, value) :: rest => (key, marshal value) :: marshalFields rest

end

mutual

theorem marshal_decode : ∀ json : Json, marshal (decode json) = json
  | .null | .bool _ | .num _ | .str _ => rfl
  | .arr items => by rw [decode, marshal, marshalItems_decodeItems items]
  | .obj fields => by rw [decode, marshal, marshalFields_decodeFields fields]

theorem marshalItems_decodeItems : ∀ items : List Json, marshalItems (decodeItems items) = items
  | [] => rfl
  | item :: rest => by
      rw [decodeItems, marshalItems, marshal_decode item, marshalItems_decodeItems rest]

theorem marshalFields_decodeFields :
    ∀ fields : List (String × Json), marshalFields (decodeFields fields) = fields
  | [] => rfl
  | (key, value) :: rest => by
      rw [decodeFields, marshalFields, marshal_decode value, marshalFields_decodeFields rest]

end

end ParamValue

end SeiController

/-- The float the token is read as is written as the token again. -/
def JsonNumber.Stable (token : JsonNumber) : Prop :=
  token.parseFloat64.map Float64.token = some token

namespace Json

mutual

def AllNumbers (p : JsonNumber → Prop) : Json → Prop
  | num token => p token
  | arr items => AllItems p items
  | obj fields => AllFields p fields
  | _ => True

def AllItems (p : JsonNumber → Prop) : List Json → Prop
  | [] => True
  | item :: rest => item.AllNumbers p ∧ AllItems p rest

def AllFields (p : JsonNumber → Prop) : List (String × Json) → Prop
  | [] => True
  | (_, value) :: rest => value.AllNumbers p ∧ AllFields p rest

end

mutual

theorem AllNumbers.imp {p q : JsonNumber → Prop} (weaker : ∀ token, p token → q token) :
    ∀ json : Json, json.AllNumbers p → json.AllNumbers q
  | .null, _ | .bool _, _ | .str _, _ => trivial
  | .num token, holds => weaker token holds
  | .arr items, holds => AllItems.imp weaker items holds
  | .obj fields, holds => AllFields.imp weaker fields holds

theorem AllItems.imp {p q : JsonNumber → Prop} (weaker : ∀ token, p token → q token) :
    ∀ items : List Json, AllItems p items → AllItems q items
  | [], _ => trivial
  | item :: rest, holds => ⟨AllNumbers.imp weaker item holds.1, AllItems.imp weaker rest holds.2⟩

theorem AllFields.imp {p q : JsonNumber → Prop} (weaker : ∀ token, p token → q token) :
    ∀ fields : List (String × Json), AllFields p fields → AllFields q fields
  | [], _ => trivial
  | (_, value) :: rest, holds =>
    ⟨AllNumbers.imp weaker value holds.1, AllFields.imp weaker rest holds.2⟩

end

end Json

namespace SeiController

namespace ParamValue

open JsonNumber (Stable)

mutual

/-- What is read with its numbers as floats is written as it stood exactly if every number is. -/
theorem marshal_unmarshal_iff : ∀ json : Json,
    (unmarshal json).map marshal = some json ↔ json.AllNumbers Stable
  | .null | .bool _ | .str _ => by simp [unmarshal, marshal, Json.AllNumbers]
  | .num token => by simp [unmarshal, marshal, Json.AllNumbers, Stable]
  | .arr items => by
      rw [Json.AllNumbers, ← marshalItems_unmarshalItems_iff items]
      simp [unmarshal, marshal]
  | .obj fields => by
      rw [Json.AllNumbers, ← marshalFields_unmarshalFields_iff fields]
      simp [unmarshal, marshal]

theorem marshalItems_unmarshalItems_iff : ∀ items : List Json,
    (unmarshalItems items).map marshalItems = some items ↔ Json.AllItems Stable items
  | [] => by simp [unmarshalItems, marshalItems, Json.AllItems]
  | item :: rest => by
      rw [Json.AllItems, ← marshal_unmarshal_iff item, ← marshalItems_unmarshalItems_iff rest,
        unmarshalItems]
      cases unmarshal item <;> cases unmarshalItems rest <;> simp [marshalItems]

theorem marshalFields_unmarshalFields_iff : ∀ fields : List (String × Json),
    (unmarshalFields fields).map marshalFields = some fields ↔ Json.AllFields Stable fields
  | [] => by simp [unmarshalFields, marshalFields, Json.AllFields]
  | (key, field) :: rest => by
      rw [Json.AllFields, ← marshal_unmarshal_iff field, ← marshalFields_unmarshalFields_iff rest,
        unmarshalFields]
      cases unmarshal field <;> cases unmarshalFields rest <;> simp [marshalFields]

end

end ParamValue

/-! ## From the request to the handler -/

end SeiController
