import Mathlib.Data.List.Sort
import Mathlib.Data.Int.Order.Basic
import Mathlib.Data.String.Basic
import SeiController.Lib.Assoc

/-!
# Comparing the hash logs of a pair of nodes

The rows of a migrating node and of a reserve are buffered until both have a height, then
compared column by column.  A Go map is a list sorted by key.
-/

set_option autoImplicit false

namespace SeiController.HashLog

/-- The comparable columns of a row: a map from column names to hashes. -/
structure Columns where
  entries : List (String × String)
  sorted : Assoc.Sorted entries
deriving DecidableEq

namespace Columns

def get (columns : Columns) (name : String) : Option String :=
  Assoc.get name columns.entries

/-- The nil map. -/
def empty : Columns := ⟨[], Assoc.sorted_nil⟩

theorem ext_get {left right : Columns} (same : ∀ name, left.get name = right.get name) : left = right := by
  obtain ⟨entries, sorted⟩ := left
  obtain ⟨entries', sorted'⟩ := right
  have equal : entries = entries' := Assoc.ext sorted sorted' same
  subst equal
  rfl

end Columns

abbrev Buffer := List (Int × Columns)

def maxBufferedRows : Nat := 10000

def evictBatchRows : Nat := 1000

structure Mismatch where
  height : Int
  columns : List String
deriving DecidableEq

structure CompareResult where
  compared : Nat
  mismatches : List Mismatch
  migratingGaps : Nat
  reserveGaps : Nat
deriving DecidableEq

/-- Rows of both sides that wait for the other side; a height of zero means none yet. -/
structure PairState where
  migrating : Buffer
  reserve : Buffer
  firstCompared : Int
  lastCompared : Int

def newPairState : PairState := ⟨[], [], 0, 0⟩

inductive Side
  | migrating | reserve
deriving DecidableEq

/-! ## Adding a row -/

def evictOldest (buf : Buffer) (n : Nat) : Buffer :=
  let heights := (buf.map Prod.fst).mergeSort fun left right => left ≤ right
  buf.filter fun row => row.1 ∉ heights.take n

def addRow (lastCompared : Int) (buf : Buffer) (height : Int) (hashes : Columns) : Buffer :=
  if lastCompared > 0 ∧ height ≤ lastCompared then buf
  else
    let buf := Assoc.set height hashes buf
    if buf.length > maxBufferedRows then
      evictOldest buf (buf.length - maxBufferedRows + evictBatchRows)
    else buf

namespace PairState

def buffer (p : PairState) : Side → Buffer
  | .migrating => p.migrating
  | .reserve => p.reserve

def add (p : PairState) (side : Side) (height : Int) (hashes : Columns) : PairState :=
  match side with
  | .migrating => { p with migrating := addRow p.lastCompared p.migrating height hashes }
  | .reserve => { p with reserve := addRow p.lastCompared p.reserve height hashes }

end PairState

/-! ## Comparing -/

def differingColumns (a b : Columns) : List String :=
  let changed := (a.entries.filter fun column => b.get column.1 ≠ some column.2).map Prod.fst
  let extra := (b.entries.filter fun column => (a.get column.1).isNone).map Prod.fst
  (changed ++ extra).mergeSort fun left right => left ≤ right

def rowAt (buf : Buffer) (height : Int) : Columns :=
  (Assoc.get height buf).getD .empty

def delete (buf : Buffer) (height : Int) : Buffer :=
  buf.filter fun row => row.1 ≠ height

namespace PairState

def sharedHeights (p : PairState) : List Int :=
  ((p.migrating.map Prod.fst).filter fun height => (Assoc.get height p.reserve).isSome).mergeSort
    fun left right => left ≤ right

def mismatchAt (p : PairState) (height : Int) : Option Mismatch :=
  let columns := differingColumns (rowAt p.migrating height) (rowAt p.reserve height)
  if columns.length > 0 then some ⟨height, columns⟩ else none

def compareHeight (loop : PairState × CompareResult) (height : Int) : PairState × CompareResult :=
  let (p, res) := loop
  ({ migrating := delete p.migrating height
     reserve := delete p.reserve height
     firstCompared := if p.firstCompared = 0 then height else p.firstCompared
     lastCompared := height },
   { res with
     compared := res.compared + 1
     mismatches := res.mismatches ++ (p.mismatchAt height).toList })

/-- Drop the rows at or below the last compared height and count those the other side
skipped after comparison started. -/
def prune (p : PairState) (buf : Buffer) : Nat × Buffer :=
  ((buf.filter fun row => row.1 ≤ p.lastCompared ∧ row.1 > p.firstCompared).length,
    buf.filter fun row => row.1 > p.lastCompared)

def compare (p : PairState) : PairState × CompareResult :=
  let (p, res) := p.sharedHeights.foldl compareHeight (p, ⟨0, [], 0, 0⟩)
  let (reserveGaps, migrating) := p.prune p.migrating
  let (migratingGaps, reserve) := p.prune p.reserve
  ({ p with migrating, reserve }, { res with reserveGaps, migratingGaps })

end PairState

/-! ## Runs -/

inductive Op
  | add (side : Side) (height : Int) (hashes : Columns)
  | compare

/-- A run: the state, the heights the compare calls went through and what they returned. -/
structure Progress where
  pair : PairState
  compared : List Int
  results : List CompareResult

def Progress.advance (s : Progress) : Op → Progress
  | .add side height hashes => { s with pair := s.pair.add side height hashes }
  | .compare =>
    let (pair, result) := s.pair.compare
    { pair
      compared := s.compared ++ s.pair.sharedHeights
      results := s.results ++ [result] }

def progress (ops : List Op) : Progress :=
  ops.foldl Progress.advance ⟨newPairState, [], []⟩

def rows (side : Side) : List Op → List (Int × Columns)
  | [] => []
  | .add side' height hashes :: ops =>
    if side' = side then (height, hashes) :: rows side ops else rows side ops
  | .compare :: ops => rows side ops

def heights (side : Side) (ops : List Op) : List Int :=
  (rows side ops).map Prod.fst

/-- Each side supplies its rows in the order of their heights, from height one on. -/
def Orderly (ops : List Op) : Prop :=
  ∀ side, (heights side ops).Pairwise (· < ·) ∧ ∀ height ∈ heights side ops, 1 ≤ height

def Fits (ops : List Op) : Prop :=
  ∀ before side height hashes later, ops = before ++ .add side height hashes :: later →
    (Assoc.set height hashes ((progress before).pair.buffer side)).length ≤ maxBufferedRows

end SeiController.HashLog
