import Mathlib.Order.MinMax
import Mathlib.Algebra.Order.Group.Int

/-!
# Instants and durations of Go's `time` package

An instant is a number of nanoseconds since the epoch and a duration a number of
nanoseconds, both without a bound; `sub` saturates as `Time.Sub` does.
-/

set_option autoImplicit false

namespace GoTime

def second : Int := 1000000000

def minute : Int := 60 * second

def minDuration : Int := -9223372036854775808

def maxDuration : Int := 9223372036854775807

/-- `t.Sub(u)`. -/
def sub (t u : Int) : Int :=
  max minDuration (min maxDuration (t - u))

/-- `d.Truncate(m)` for a positive `m`: towards zero, as Go's `%` rounds. -/
def truncate (d m : Int) : Int :=
  d - d.tmod m

/-- The instant as RFC 3339 keeps it in a stored object: whole seconds. -/
def wholeSeconds (t : Int) : Int :=
  t - t % second

/-- `d.String()` of a duration of whole seconds. -/
def text (d : Int) : String :=
  let seconds := (d / second).natAbs
  let minutes := seconds / 60
  (if d < 0 then "-" else "")
    ++ (if 60 ≤ minutes then toString (minutes / 60) ++ "h" else "")
    ++ (if 60 ≤ seconds then toString (minutes % 60) ++ "m" else "")
    ++ toString (seconds % 60) ++ "s"

example : text (90 * second) = "1m30s" := by decide
example : text (2 * minute) = "2m0s" := by decide

/-- Saturation does not move a difference across a bound inside the range. -/
theorem sub_le_iff {t u bound : Int} (low : minDuration ≤ bound) (high : bound < maxDuration) :
    sub t u ≤ bound ↔ t - u ≤ bound := by
  unfold sub
  constructor
  · intro clamped
    have capped : min maxDuration (t - u) ≤ bound := le_trans (le_max_right _ _) clamped
    rcases min_le_iff.mp capped with beyond | inside
    · omega
    · exact inside
  · intro inside
    exact max_le low (le_trans (min_le_right _ _) inside)

theorem lt_add_of_truncate_le {d m bound : Int} (positive : 0 < m)
    (cut : truncate d m ≤ bound) : d < bound + m := by
  have remainder : d.tmod m < m := Int.tmod_lt_of_pos d positive
  unfold truncate at cut
  omega

theorem wholeSeconds_le (t : Int) : wholeSeconds t ≤ t := by
  have remainder : 0 ≤ t % second := Int.emod_nonneg t (by decide)
  unfold wholeSeconds
  omega

end GoTime
