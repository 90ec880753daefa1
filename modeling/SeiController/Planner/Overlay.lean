import SeiController.Lib.JsonText
import SeiController.Api.Node

/-!
# The configuration overlay

`spec.configValues` as one merge patch per file, the engine keys laid over it, and the
hash that tells whether the values a node was configured with are the ones it asks for.
A Go map is a list sorted by key and is iterated in that order; where the source's
order is random only the choice among several error texts depends on it.
-/

set_option autoImplicit false

namespace SeiController

def configValueFileNamePattern : String := "^[A-Za-z0-9_-]+\\.toml$"

def wordChar (char : Char) : Bool :=
  char.isAlphanum || char == '_' || char == '-'

def matchesFileNamePattern (fileName : String) : Bool :=
  let chars := fileName.toList
  let stem := chars.take (chars.length - 5)
  stem ≠ [] && stem.all wordChar && chars.drop (chars.length - 5) == ".toml".toList

mutual

/-- A null has merge-patch deletion semantics and no TOML encoding. -/
def containsNull : Json → Bool
  | .null => true
  | .obj fields => fieldsContainNull fields
  | .arr items => itemsContainNull items
  | _ => false

def itemsContainNull : List Json → Bool
  | [] => false
  | item :: rest => containsNull item || itemsContainNull rest

def fieldsContainNull : List (String × Json) → Bool
  | [] => false
  | (_, value) :: rest => containsNull value || fieldsContainNull rest

end

def validateNumber (token : JsonNumber) : Except String Unit :=
  match token.machine with
  | .unrepresentable =>
    let text := String.ofList token.chars
    .error ("number \"" ++ text ++ "\" cannot be represented as int64 or float64: "
      ++ "strconv.ParseFloat: parsing \"" ++ text ++ "\": value out of range")
  | _ => .ok ()

mutual

def validateOverlayNumbers : Json → Except String Unit
  | .num token => validateNumber token
  | .obj fields => validateFieldNumbers fields
  | .arr items => validateItemNumbers items
  | _ => .ok ()

def validateItemNumbers : List Json → Except String Unit
  | [] => .ok ()
  | item :: rest => do
      validateOverlayNumbers item
      validateItemNumbers rest

def validateFieldNumbers : List (String × Json) → Except String Unit
  | [] => .ok ()
  | (_, value) :: rest => do
      validateOverlayNumbers value
      validateFieldNumbers rest

end

/-- The entry that supplied each node of the patch. -/
inductive OverlayOrigin
  | mk (key : String) (children : List (String × OverlayOrigin))

namespace OverlayOrigin

def children : OverlayOrigin → List (String × OverlayOrigin)
  | mk _ children => children

def child (origin : OverlayOrigin) (name : String) : OverlayOrigin :=
  (Assoc.get name origin.children).getD (mk "" [])

def key : OverlayOrigin → String
  | mk key _ => key

def setChild (origin : OverlayOrigin) (name : String) (child : OverlayOrigin) : OverlayOrigin :=
  mk origin.key (Assoc.set name child origin.children)

end OverlayOrigin

def insertLeaf (dst : Table) (origin : OverlayOrigin) (key name : String) (value : Json) :
    Except String (Table × OverlayOrigin) :=
  match Assoc.get name dst with
  | some _ => .error (origin.child name).key
  | none => .ok (Assoc.set name value dst, origin.setChild name (.mk key []))

mutual

/-- Only creates nodes or merges a table into a table; any other collision is the key
of the entry it collides with. -/
def insertOverlay (dst : Table) (origin : OverlayOrigin) (key : String) :
    Table → Except String (Table × OverlayOrigin)
  | [] => .ok (dst, origin)
  | (name, value) :: rest =>
    match insertValue dst origin key name value with
    | .error previous => .error previous
    | .ok (dst, origin) => insertOverlay dst origin key rest

def insertValue (dst : Table) (origin : OverlayOrigin) (key name : String) :
    Json → Except String (Table × OverlayOrigin)
  | .obj incoming =>
    match Assoc.get name dst with
    | some (.obj current) =>
      match insertOverlay current (origin.child name) key incoming with
      | .error previous => .error previous
      | .ok (merged, child) => .ok (Assoc.set name (.obj merged) dst, origin.setChild name child)
    | some _ => .error (origin.child name).key
    | none =>
      match insertOverlay [] (.mk key []) key incoming with
      | .error previous => .error previous
      | .ok (created, child) => .ok (Assoc.set name (.obj created) dst, origin.setChild name child)
  | value => insertLeaf dst origin key name value

end

/-- `strings.Split(key, ".")`. -/
def keyPath (key : String) : List String :=
  (key.toList.splitOn '.').map String.ofList

def nest (path : List String) (value : Json) : Json :=
  path.foldr (fun key value => .obj [(key, value)]) value

def ConfigValue.label (entry : ConfigValue) : String :=
  "configValues " ++ entry.fileName ++ ":" ++ entry.key ++ ": "

def entryPatch (entry : ConfigValue) : Except String Table :=
  if !matchesFileNamePattern entry.fileName then
    .error (entry.label ++ "fileName must match " ++ configValueFileNamePattern)
  else
    match entry.value with
    | .error err => .error (entry.label ++ err)
    | .ok value =>
      if containsNull value then
        .error (entry.label ++ "null values are not supported, including inside objects or arrays; "
          ++ "supply a TOML value")
      else
        match validateOverlayNumbers value with
        | .error err => .error (entry.label ++ err)
        | .ok () => .ok ((nest (keyPath entry.key) value).fields?.getD [])

abbrev OverlayState := List (String × (Table × OverlayOrigin))

def addEntry (state : OverlayState) (entry : ConfigValue) : Except String OverlayState :=
  match entryPatch entry with
  | .error err => .error err
  | .ok patch =>
    let current := (Assoc.get entry.fileName state).getD ([], .mk "" [])
    match insertOverlay current.1 current.2 entry.key patch with
    | .error previous =>
      .error ("configValues " ++ entry.fileName ++ ": overlapping keys \"" ++ previous ++ "\" and \""
        ++ entry.key ++ "\"; use non-overlapping dotted paths")
    | .ok merged => .ok (Assoc.set entry.fileName merged state)

def configValuesOverlay (values : List ConfigValue) : Except String PatchFiles :=
  match values.foldlM addEntry [] with
  | .error err => .error err
  | .ok state => .ok (Assoc.mapValues Prod.fst state)

/-! ## The hash -/

def canonicalJSONValue (value : Json) : Json :=
  value.canonical

def hashTuple (entry : ConfigValue) : Except String String :=
  match entry.value with
  | .error err => .error (entry.label ++ err)
  | .ok value => .ok (Json.arr [.str entry.fileName, .str entry.key, canonicalJSONValue value]).marshal

def encodeTuples (tuples : List String) : String :=
  (Json.arr (tuples.map .str)).marshal

def configValuesHash (platform : Platform) (values : List ConfigValue) : Except String String :=
  match values.mapM hashTuple with
  | .error err => .error err
  | .ok tuples => .ok (platform.sha256 (encodeTuples (tuples.mergeSort fun left right => left ≤ right)))

end SeiController
