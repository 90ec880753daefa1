import SeiController.Lib.GoDate
import Mathlib.Data.List.Sort

/-!
# The order of the stored results

The store keeps a submission instant as text and lets SQLite order the rows by it, byte
by byte.  The text drops trailing zeros of the fraction, so within one second the order
of the texts is not always the order of the instants.
-/

set_option autoImplicit false

namespace SeiController

open GoDate

/-- A saved task result, as far as the queries look at it. -/
structure SavedResult where
  id : String
  type : String
  submittedAt : Int
deriving DecidableEq

namespace SavedResult

/-- The column `submitted_at` as `Save` writes it. -/
def column (result : SavedResult) : List Char :=
  rfc3339Nano result.submittedAt

/-- The rows in the order of `ORDER BY submitted_at DESC`.  Rows with the same text come in
any order. -/
def Ordered (rows out : List SavedResult) : Prop :=
  out.Perm rows ∧ out.Pairwise fun a b => ¬a.column < b.column

def LatestByTypeAnswer (rows : List SavedResult) (type : String) (answer : Option SavedResult) : Prop :=
  ∃ out, Ordered (rows.filter fun row => row.type = type) out ∧ answer = out.head?

/-! ## When the order is that of the instants -/

/-- The text of the earlier instant is the smaller one.  Between years of four digits it is,
unless both fall into one second and the fraction of the earlier begins that of the later. -/
def KeepsOrder (earlier later : Int) : Prop :=
  if FourDigitYear earlier ∧ FourDigitYear later then
    seconds earlier = seconds later →
      ¬fractionDigits (nanoseconds earlier) <+: fractionDigits (nanoseconds later)
  else
    rfc3339Nano earlier < rfc3339Nano later

theorem keepsOrder_iff {t t' : Int} (less : t < t') :
    KeepsOrder t t' ↔ rfc3339Nano t < rfc3339Nano t' := by
  unfold KeepsOrder
  split
  next years => exact (rfc3339Nano_lt_iff years.1 years.2 less).symm
  · exact .rfl

def Sortable (rows : List SavedResult) : Prop :=
  ∀ a ∈ rows, ∀ b ∈ rows, a.submittedAt < b.submittedAt → KeepsOrder a.submittedAt b.submittedAt

instance (rows : List SavedResult) : Decidable (Sortable rows) := by
  unfold Sortable KeepsOrder
  infer_instance

theorem Sortable.filter {rows : List SavedResult} (sortable : Sortable rows) (p : SavedResult → Bool) :
    Sortable (rows.filter p) := fun a left b right =>
  sortable a (List.mem_of_mem_filter left) b (List.mem_of_mem_filter right)

/-- Rows in the order of their texts are in the order of their instants. -/
theorem Sortable.descending {rows out : List SavedResult} (sortable : Sortable rows)
    (ordered : Ordered rows out) : out.Pairwise fun a b => b.submittedAt ≤ a.submittedAt := by
  obtain ⟨same, sorted⟩ := ordered
  refine sorted.imp_of_mem ?_
  intro a b left right notBefore
  by_contra later
  have earlier := lt_of_not_ge later
  exact notBefore ((keepsOrder_iff earlier).mp
    (sortable a (same.mem_iff.mp left) b (same.mem_iff.mp right) earlier))

def Latest (rows : List SavedResult) (type : String) : Option SavedResult → Prop
  | none => ∀ row ∈ rows, row.type ≠ type
  | some latest => latest ∈ rows ∧ latest.type = type ∧
      ∀ row ∈ rows, row.type = type → row.submittedAt ≤ latest.submittedAt

theorem Sortable.latest {rows : List SavedResult} (sortable : Sortable rows) {type : String}
    {answer : Option SavedResult} (answered : LatestByTypeAnswer rows type answer) :
    Latest rows type answer := by
  obtain ⟨out, ordered, rfl⟩ := answered
  have descending := (sortable.filter _).descending ordered
  have kept : ∀ row, row ∈ out ↔ row ∈ rows ∧ row.type = type := by
    intro row
    rw [ordered.1.mem_iff, List.mem_filter, decide_eq_true_eq]
  cases out with
  | nil =>
    intro row member sameType
    have never := (kept row).mpr ⟨member, sameType⟩
    cases never
  | cons latest rest =>
    obtain ⟨stored, isType⟩ := (kept latest).mp (List.mem_cons_self ..)
    refine ⟨stored, isType, fun row member sameType => ?_⟩
    rcases List.mem_cons.mp ((kept row).mpr ⟨member, sameType⟩) with rfl | inside
    · exact le_refl _
    · exact List.rel_of_pairwise_cons descending inside

end SavedResult

end SeiController
