import Mathlib.Data.List.Sort
import Mathlib.Data.Set.Function
import SeiController.Planner.OverlayTree

/-!
# What the configuration hash tells

Two accepted lists with one hash hold the same entries up to the spelling of numbers.
Spelling is normalised on purpose, and TOML tells an integer from a float by it, so
the patches are the same exactly when the spellings agree in kind.
-/

set_option autoImplicit false

namespace SeiController

open Json (nodeAt)

def typedPatch (files : PatchFiles) : Toml :=
  (patchTree files).encode

/-! ## Equal hashes -/

/-- The entries say the same up to number spelling. -/
structure SameEntry (left right : ConfigValue) (value value' : Json) : Prop where
  decoded : left.value = .ok value
  decoded' : right.value = .ok value'
  fileName : left.fileName = right.fileName
  key : left.key = right.key
  canonical : value.canonical = value'.canonical

theorem hashTuple_inj {left right : ConfigValue} {text : String} (hashed : hashTuple left = .ok text)
    (hashed' : hashTuple right = .ok text) : ∃ value value', SameEntry left right value value' := by
  unfold hashTuple at hashed hashed'
  split at hashed
  · cases hashed
  next value decoded =>
    split at hashed'
    · cases hashed'
    next value' decoded' =>
      cases hashed
      have same := Json.marshal_injective (Except.ok.inj hashed')
      simp only [Json.arr.injEq, List.cons.injEq, Json.str.injEq, and_true] at same
      exact ⟨value, value', decoded, decoded', same.1.symm, same.2.1.symm, same.2.2.symm⟩

theorem encodeTuples_injective : Function.Injective encodeTuples := by
  intro left right same
  have items := Json.arr.inj (Json.marshal_injective same)
  exact List.map_injective_iff.mpr (fun _ _ => Json.str.inj) items

theorem sort_eq_iff_perm (left right : List String) :
    left.mergeSort (fun a b => a ≤ b) = right.mergeSort (fun a b => a ≤ b) ↔ left.Perm right := by
  constructor
  · intro same
    exact (List.mergeSort_perm left _).symm.trans (same ▸ List.mergeSort_perm right _)
  · intro perm
    have sorted (texts : List String) : (texts.mergeSort (fun a b => a ≤ b)).Pairwise (· ≤ ·) := by
      simpa using @List.pairwise_mergeSort String (fun a b => decide (a ≤ b))
        (by simpa using fun a b c => le_trans) (by simpa using fun a b => le_total a b) texts
    refine List.Perm.eq_of_pairwise' (sorted left) (sorted right) ?_
    exact ((List.mergeSort_perm left _).trans perm).trans (List.mergeSort_perm right _).symm

variable {value : Json} {entry : ConfigValue}

theorem SameEntry.symm {left right : ConfigValue} {value' : Json}
    (same : SameEntry left right value value') : SameEntry right left value' value :=
  ⟨same.decoded', same.decoded, same.fileName.symm, same.key.symm, same.canonical.symm⟩

def tupleOf (entry : ConfigValue) : String :=
  (hashTuple entry).toOption.getD ""

theorem hashTuple_of_decoded (decoded : entry.value = .ok value) :
    hashTuple entry = .ok (tupleOf entry) := by
  unfold tupleOf hashTuple
  rw [decoded]
  rfl

theorem mapM_hashTuple {values : List ConfigValue}
    (decoded : ∀ entry ∈ values, ∃ value, entry.value = .ok value) :
    values.mapM hashTuple = .ok (values.map tupleOf) := by
  induction values with
  | nil => rfl
  | cons entry rest ih =>
    obtain ⟨value, here⟩ := decoded entry List.mem_cons_self
    rw [List.mapM_cons, hashTuple_of_decoded here,
      ih fun other member => decoded other (List.mem_cons_of_mem _ member)]
    rfl

theorem configValuesHash_of_accepted (platform : Platform) {values : List ConfigValue}
    {files : PatchFiles} (accepted : configValuesOverlay values = .ok files) :
    configValuesHash platform values =
      .ok (platform.sha256 (encodeTuples ((values.map tupleOf).mergeSort fun a b => a ≤ b))) := by
  rw [configValuesHash, mapM_hashTuple fun entry => configValuesOverlay_decoded accepted]

section

variable {platform : Platform} {left right : List ConfigValue} {files files' : PatchFiles}

/-- The hash does not depend on the order of the list. -/
theorem configValuesHash_perm (accepted : configValuesOverlay left = .ok files)
    (perm : left.Perm right) :
    configValuesHash platform left = configValuesHash platform right := by
  have decoded (entry : ConfigValue) (member : entry ∈ right) : ∃ value, entry.value = .ok value :=
    configValuesOverlay_decoded accepted (perm.mem_iff.mpr member)
  rw [configValuesHash_of_accepted platform accepted, configValuesHash, mapM_hashTuple decoded,
    (sort_eq_iff_perm _ _).mpr (perm.map tupleOf)]

theorem exists_sameEntry (injective : Set.InjOn platform.sha256 (Set.range encodeTuples))
    (accepted : configValuesOverlay left = .ok files)
    (accepted' : configValuesOverlay right = .ok files')
    (same : configValuesHash platform left = configValuesHash platform right)
    (member : entry ∈ left) :
    ∃ entry' ∈ right, ∃ value value', SameEntry entry entry' value value' := by
  rw [configValuesHash_of_accepted platform accepted,
    configValuesHash_of_accepted platform accepted'] at same
  have encoded := injective ⟨_, rfl⟩ ⟨_, rfl⟩ (Except.ok.inj same)
  have perm := (sort_eq_iff_perm _ _).mp (encodeTuples_injective encoded)
  obtain ⟨entry', member', tuple⟩ := List.mem_map.mp (perm.mem_iff.mp (List.mem_map_of_mem member))
  obtain ⟨value, decoded⟩ := configValuesOverlay_decoded accepted member
  obtain ⟨value', decoded'⟩ := configValuesOverlay_decoded accepted' member'
  refine ⟨entry', member', hashTuple_inj (hashTuple_of_decoded decoded) ?_⟩
  rw [hashTuple_of_decoded decoded', tuple]

end

/-! ## Equal patches -/

theorem nodeAt_nest (path below : List String) (value : Json) :
    nodeAt (nest path value) (path ++ below) = nodeAt value below := by
  induction path with
  | nil => rfl
  | cons key path ih =>
    have unfolded : nest (key :: path) value = .obj [(key, nest path value)] := rfl
    rw [unfolded, List.cons_append, nodeAt_obj_cons, Assoc.get_cons, if_pos rfl, Option.bind_some, ih]

theorem encode_nest (path : List String) {value' : Json} (same : value.encode = value'.encode) :
    (nest path value).encode = (nest path value').encode := by
  induction path with
  | nil => exact same
  | cons key path ih =>
    have unfolded (value : Json) : nest (key :: path) value = .obj [(key, nest path value)] := rfl
    simp only [unfolded, Json.encode, Json.encodeFields, ih]

theorem nodeAt_canonical (value : Json) (path : List String) :
    nodeAt value.canonical path = (nodeAt value path).map (KeyTree.Node.map Json.canonical) := by
  refine KeyTree.at?_map (fun value => ?_) value path
  cases value with
  | obj fields => simp [Json.canonical, Json.fields?, Json.canonicalFields_eq_mapValues]
  | _ => rfl

section

variable {left right : List ConfigValue} {files files' : PatchFiles}

theorem nodeAt_of_entry (accepted : configValuesOverlay left = .ok files) (member : entry ∈ left)
    (decoded : entry.value = .ok value) {path : List String} {node : KeyTree.Node Json}
    (found : nodeAt value path = some node) :
    nodeAt (patchTree files) (entry.fileName :: (keyPath entry.key ++ path)) = some node := by
  refine (nodeAt_configValuesOverlay accepted _ _ _).mpr ⟨entry, member, value, decoded, ?_⟩
  rw [entryTree, ← List.cons_append, nodeAt_nest, found]

theorem encode_eq_of_typedPatch_eq (accepted : configValuesOverlay left = .ok files)
    (accepted' : configValuesOverlay right = .ok files')
    (patches : typedPatch files = typedPatch files') {entry' : ConfigValue} (member : entry ∈ left)
    (member' : entry' ∈ right) {value' : Json} (same : SameEntry entry entry' value value') :
    value.encode = value'.encode := by
  have sorted := Toml.sorted_encode (entry.valueSorted value same.decoded)
  have sorted' := Toml.sorted_encode (entry'.valueSorted value' same.decoded')
  refine sorted.ext sorted' fun path => ?_
  rw [Toml.at?_encode, Toml.at?_encode]
  have alike : (nodeAt value path).map (KeyTree.Node.map Json.canonical) =
      (nodeAt value' path).map (KeyTree.Node.map Json.canonical) := by
    rw [← nodeAt_canonical, ← nodeAt_canonical, same.canonical]
  cases found : nodeAt value path with
  | none =>
    rw [found] at alike
    rw [Option.map_eq_none_iff.mp alike.symm]
  | some node =>
    rw [found, Option.map_some] at alike
    obtain ⟨node', found', -⟩ := Option.map_eq_some_iff.mp alike.symm
    have here := nodeAt_of_entry accepted member same.decoded found
    have there := nodeAt_of_entry accepted' member' same.decoded' found'
    rw [← same.fileName, ← same.key] at there
    have typed := congrArg (fun toml => KeyTree.at? Toml.fields? toml
      (entry.fileName :: (keyPath entry.key ++ path))) patches
    simp only [typedPatch, Toml.at?_encode] at typed
    rw [here, there] at typed
    rw [found']
    exact typed

theorem typedPatch_mono (accepted : configValuesOverlay left = .ok files)
    (accepted' : configValuesOverlay right = .ok files')
    (partners : ∀ entry ∈ left, ∃ entry' ∈ right, ∃ value value',
      SameEntry entry entry' value value' ∧ value.encode = value'.encode)
    {file : String} {path : List String} {node : KeyTree.Node Toml}
    (found : KeyTree.at? Toml.fields? (typedPatch files) (file :: path) = some node) :
    KeyTree.at? Toml.fields? (typedPatch files') (file :: path) = some node := by
  rw [typedPatch, Toml.at?_encode, Option.map_eq_some_iff] at found
  obtain ⟨json, here, rfl⟩ := found
  obtain ⟨entry, member, value, decoded, supplied⟩ :=
    (nodeAt_configValuesOverlay accepted file path json).mp here
  obtain ⟨entry', member', value₁, value', same, encoded⟩ := partners entry member
  cases decoded.symm.trans same.decoded
  have trees : (entryTree entry value).encode = (entryTree entry' value').encode := by
    rw [entryTree, entryTree, same.fileName, same.key]
    exact encode_nest _ encoded
  have there : (nodeAt (entryTree entry' value') (file :: path)).map (KeyTree.Node.map Json.encode) =
      some (json.map Json.encode) := by
    rw [← Toml.at?_encode, ← trees, Toml.at?_encode, supplied, Option.map_some]
  obtain ⟨json', supplied', eq⟩ := Option.map_eq_some_iff.mp there
  rw [typedPatch, Toml.at?_encode,
    (nodeAt_configValuesOverlay accepted' file path json').mpr ⟨entry', member', value',
      same.decoded', supplied'⟩,
    Option.map_some, eq]

end

/-! ## Hash against patch -/

/-- The hash is independent of order; lists with one hash have like entries, and one
typed patch exactly when the numbers of like entries are of the same kinds. -/
theorem equal_hash_same_patch_iff_same_kinds (platform : Platform)
    (injective : Set.InjOn platform.sha256 (Set.range encodeTuples))
    {left right : List ConfigValue} {files files' : PatchFiles}
    (accepted : configValuesOverlay left = .ok files)
    (accepted' : configValuesOverlay right = .ok files') :
    (left.Perm right → configValuesHash platform left = configValuesHash platform right) ∧
    (configValuesHash platform left = configValuesHash platform right →
      (∀ entry ∈ left, ∃ entry' ∈ right, ∃ value value', SameEntry entry entry' value value') ∧
      (∀ entry' ∈ right, ∃ entry ∈ left, ∃ value value', SameEntry entry entry' value value') ∧
      (typedPatch files = typedPatch files' ↔
        ∀ entry ∈ left, ∀ entry' ∈ right, ∀ value value', SameEntry entry entry' value value' →
          value.numberKinds = value'.numberKinds)) := by
  refine ⟨configValuesHash_perm accepted, fun same => ?_⟩
  have forth (entry : ConfigValue) (member : entry ∈ left) :=
    exists_sameEntry injective accepted accepted' same member
  have back : ∀ entry' ∈ right, ∃ entry ∈ left, ∃ value value', SameEntry entry entry' value value' := by
    intro entry' member
    obtain ⟨entry, member', value', value, like⟩ :=
      exists_sameEntry injective accepted' accepted same.symm member
    exact ⟨entry, member', value, value', like.symm⟩
  refine ⟨forth, back, ?_, ?_⟩
  · intro patches entry member entry' member' value value' like
    have encoded := encode_eq_of_typedPatch_eq accepted accepted' patches member member' like
    exact (Json.encode_eq_iff value value' like.canonical).iff.mp encoded
  · intro kinds
    have partners : ∀ entry ∈ left, ∃ entry' ∈ right, ∃ value value',
        SameEntry entry entry' value value' ∧ value.encode = value'.encode := by
      intro entry member
      obtain ⟨entry', member', value, value', like⟩ := forth entry member
      have alike := Json.encode_eq_iff value value' like.canonical
      exact ⟨entry', member', value, value', like,
        alike.iff.mpr (kinds entry member entry' member' value value' like)⟩
    have partners' : ∀ entry ∈ right, ∃ entry' ∈ left, ∃ value value',
        SameEntry entry entry' value value' ∧ value.encode = value'.encode := by
      intro entry' member'
      obtain ⟨entry, member, value, value', like⟩ := back entry' member'
      have alike := Json.encode_eq_iff value value' like.canonical
      exact ⟨entry, member, value', value, like.symm,
        (alike.iff.mpr (kinds entry member entry' member' value value' like)).symm⟩
    refine (Toml.sorted_encode (configValuesOverlay_sorted accepted)).ext
      (Toml.sorted_encode (configValuesOverlay_sorted accepted')) fun path => ?_
    cases path with
    | nil => rfl
    | cons file path =>
      exact Option.ext fun node =>
        ⟨typedPatch_mono accepted accepted' partners, typedPatch_mono accepted' accepted partners'⟩

/-! A number written as an integer and as a float. -/

def sampleNumber (fraction : List Char) (valid : ∀ c ∈ fraction, c.isDigit = true) : JsonNumber where
  negative := false
  whole := ['1']
  fraction
  exponent := none
  wholeValid := by simp
  noLeadingZero := by decide
  fractionValid := valid

def integerOne : JsonNumber := sampleNumber [] JsonNumber.noDigits

def floatOne : JsonNumber := sampleNumber ['0'] (by simp)

def sampleEntry (token : JsonNumber) : ConfigValue where
  fileName := "app.toml"
  key := "evm.port"
  value := .ok (.num token)
  keyNonempty := by decide
  valueSorted := by
    rintro decoded ⟨⟩
    trivial

def samplePatch (token : JsonNumber) : PatchFiles :=
  [("app.toml", [("evm", .obj [("port", .num token)])])]

theorem entryPatch_sample {token : JsonNumber} (fits : token.machine ≠ .unrepresentable) :
    entryPatch (sampleEntry token) = .ok [("evm", .obj [("port", .num token)])] := by
  have valid : validateOverlayNumbers (.num token) = .ok () := by
    unfold validateOverlayNumbers validateNumber
    split
    · contradiction
    · rfl
  have pattern : matchesFileNamePattern "app.toml" = true := by decide +kernel
  have path : keyPath "evm.port" = ["evm", "port"] := by decide +kernel
  simp [entryPatch, sampleEntry, pattern, path, valid, containsNull, nest, Json.fields?]

theorem configValuesOverlay_sample {token : JsonNumber} (fits : token.machine ≠ .unrepresentable) :
    configValuesOverlay [sampleEntry token] = .ok (samplePatch token) := by
  have inserted : insertOverlay [] (.mk "" []) "evm.port" [("evm", .obj [("port", .num token)])] =
      .ok ([("evm", .obj [("port", .num token)])],
        .mk "" [("evm", .mk "evm.port" [("port", .mk "evm.port" [])])]) := by
    simp [insertOverlay, insertValue, insertLeaf, OverlayOrigin.setChild, OverlayOrigin.children,
      OverlayOrigin.key, Assoc.set]
  have added : addEntry [] (sampleEntry token) =
      .ok [("app.toml", ([("evm", .obj [("port", .num token)])],
        .mk "" [("evm", .mk "evm.port" [("port", .mk "evm.port" [])])]))] := by
    unfold addEntry
    simp only [entryPatch_sample fits]
    simp only [Assoc.get_nil, Option.getD_none, sampleEntry, inserted]
    rfl
  simp only [configValuesOverlay, List.foldlM_cons, List.foldlM_nil, added]
  rfl

theorem sample_accepted :
    configValuesOverlay [sampleEntry integerOne] = .ok (samplePatch integerOne) ∧
    configValuesOverlay [sampleEntry floatOne] = .ok (samplePatch floatOne) :=
  ⟨configValuesOverlay_sample (by decide +kernel), configValuesOverlay_sample (by decide +kernel)⟩

theorem samplePlatform_injOn : Set.InjOn samplePlatform.sha256 (Set.range encodeTuples) :=
  Function.injective_id.injOn

theorem sample_hash_eq : configValuesHash samplePlatform [sampleEntry integerOne] =
    configValuesHash samplePlatform [sampleEntry floatOne] := by
  have same : integerOne.canonical = floatOne.canonical := by decide +kernel
  simp [configValuesHash, hashTuple, sampleEntry, canonicalJSONValue, Json.canonical, same]

theorem sample_patches_differ :
    typedPatch (samplePatch integerOne) ≠ typedPatch (samplePatch floatOne) := by
  have differ : integerOne.machine ≠ floatOne.machine := by decide +kernel
  simpa [typedPatch, patchTree, samplePatch, Json.encode, Json.encodeFields, Assoc.mapValues] using differ

/-- `1` and `1.0` share a hash; the patch holds an integer for one and a float for the
other. -/
theorem integer_and_float_share_hash :
    Set.InjOn samplePlatform.sha256 (Set.range encodeTuples) ∧
    configValuesOverlay [sampleEntry integerOne] = .ok (samplePatch integerOne) ∧
    configValuesOverlay [sampleEntry floatOne] = .ok (samplePatch floatOne) ∧
    configValuesHash samplePlatform [sampleEntry integerOne] =
      configValuesHash samplePlatform [sampleEntry floatOne] ∧
    typedPatch (samplePatch integerOne) ≠ typedPatch (samplePatch floatOne) :=
  ⟨samplePlatform_injOn, sample_accepted.1, sample_accepted.2, sample_hash_eq, sample_patches_differ⟩

theorem sample_kinds_differ :
    ¬ ∀ entry ∈ [sampleEntry integerOne], ∀ entry' ∈ [sampleEntry floatOne], ∀ value value',
      SameEntry entry entry' value value' → value.numberKinds = value'.numberKinds := fun kinds =>
  sample_patches_differ
    (((equal_hash_same_patch_iff_same_kinds samplePlatform samplePlatform_injOn sample_accepted.1
      sample_accepted.2).2 sample_hash_eq).2.2.mpr kinds)

end SeiController
