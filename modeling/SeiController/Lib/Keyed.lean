import Mathlib.Data.List.Nodup

/-!
# Tables with a primary key

Records read, replaced and removed by key.  A table carries the distinctness of its
keys, so a read is determined by membership.
-/

set_option autoImplicit false

/-- Records of `α` with pairwise distinct keys. -/
structure Keyed {α κ : Type} (key : α → κ) where
  records : List α
  distinct : (records.map key).Nodup

namespace Keyed

variable {α κ : Type} {key : α → κ}

def empty : Keyed key := ⟨[], List.nodup_nil⟩

def filter (p : α → Bool) (table : Keyed key) : Keyed key :=
  ⟨table.records.filter p, table.distinct.sublist (List.filter_sublist.map key)⟩

variable [DecidableEq κ]

def get (k : κ) (table : Keyed key) : Option α :=
  table.records.find? fun a => key a == k

def delete (k : κ) (table : Keyed key) : Keyed key :=
  table.filter fun a => key a != k

def put (a : α) (table : Keyed key) : Keyed key where
  records := a :: (table.delete (key a)).records
  distinct := by
    rw [List.map_cons, List.nodup_cons]
    refine ⟨fun member => ?_, (table.delete (key a)).distinct⟩
    obtain ⟨old, kept, same⟩ := List.mem_map.mp member
    have different := (List.mem_filter.mp kept).2
    simp [same] at different

theorem get_eq_some {k : κ} {table : Keyed key} {a : α} :
    table.get k = some a ↔ a ∈ table.records ∧ key a = k := by
  constructor
  · intro found
    have hit := List.find?_some found
    exact ⟨List.mem_of_find?_eq_some found, by simpa using hit⟩
  · rintro ⟨member, rfl⟩
    cases found : table.get (key a) with
    | none =>
      have missed := List.find?_eq_none.mp found a member
      simp at missed
    | some b =>
      have hit := List.find?_some found
      have same : b = a :=
        List.inj_on_of_nodup_map table.distinct (List.mem_of_find?_eq_some found) member
          (by simpa using hit)
      rw [same]

theorem get_eq_none {k : κ} {table : Keyed key} :
    table.get k = none ↔ ∀ a ∈ table.records, key a ≠ k := by
  simp [get, List.find?_eq_none]

@[simp] theorem get_empty (k : κ) : (empty : Keyed key).get k = none := rfl

theorem key_of_get {k : κ} {table : Keyed key} {a : α} (found : table.get k = some a) :
    key a = k :=
  (get_eq_some.mp found).2

theorem get_filter_eq_some {k : κ} {p : α → Bool} {table : Keyed key} {a : α} :
    (table.filter p).get k = some a ↔ table.get k = some a ∧ p a = true := by
  simp only [get_eq_some, filter, List.mem_filter]
  tauto

theorem get_filter (k : κ) (p : α → Bool) (table : Keyed key) :
    (table.filter p).get k = (table.get k).filter p := by
  ext a
  simp [get_filter_eq_some]

theorem get_delete_ne {k k' : κ} (different : k' ≠ k) (table : Keyed key) :
    (table.delete k).get k' = table.get k' := by
  rw [delete, get_filter]
  cases found : table.get k' with
  | none => rfl
  | some a => simp [key_of_get found, different]

theorem get_put (k : κ) (a : α) (table : Keyed key) :
    (table.put a).get k = if key a = k then some a else table.get k := by
  by_cases same : key a = k
  · rw [if_pos same]
    exact get_eq_some.mpr ⟨List.mem_cons_self, same⟩
  · have skip : (table.put a).get k = (table.delete (key a)).get k :=
      List.find?_cons_of_neg (by simpa using same)
    rw [if_neg same, skip, get_delete_ne fun eq => same eq.symm]

end Keyed
