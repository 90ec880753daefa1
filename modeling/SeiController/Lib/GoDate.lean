import SeiController.Lib.TextOrder
import Mathlib.Algebra.Order.Floor.Ring

/-!
# Instants as Go writes them

An instant is a number of nanoseconds since the Unix epoch.  Its civil date is found in
the 400-year cycle of the Gregorian calendar, year by year and month by month, and it is
written in the layout `RFC3339Nano`: fields of fixed width, then the fraction of the
second without its trailing zeros.
-/

set_option autoImplicit false

namespace GoDate

open TextOrder

/-! ## Finding the slot a number falls into -/

/-- The last of the slots `0 … n` that starts no later than `d`. -/
def slot (start : Nat → Nat) (n d : Nat) : Nat :=
  Nat.findGreatest (fun i => start i ≤ d) n

section Slot

variable {start : Nat → Nat} {n d d' : Nat}

theorem slot_le_bound : slot start n d ≤ n :=
  Nat.findGreatest_le n

theorem start_slot_le (zero : start 0 = 0) : start (slot start n d) ≤ d :=
  Nat.findGreatest_spec (P := fun i => start i ≤ d) (Nat.zero_le n) (by rw [zero]; exact Nat.zero_le d)

theorem lt_start_next (inside : slot start n d < n) : d < start (slot start n d + 1) := by
  have missed : ¬start (slot start n d + 1) ≤ d :=
    Nat.findGreatest_is_greatest (P := fun i => start i ≤ d) (Nat.lt_succ_self _) inside
  exact Nat.lt_of_not_le missed

theorem slot_mono (le : d ≤ d') : slot start n d ≤ slot start n d' :=
  Nat.findGreatest_mono_left (fun _ begun => begun.trans le) n

/-- A smaller number falls into an earlier slot, or earlier into the same one. -/
theorem slot_lt (zero : start 0 = 0) (less : d < d') :
    slot start n d < slot start n d' ∨
      slot start n d = slot start n d' ∧ d - start (slot start n d) < d' - start (slot start n d') := by
  have le : slot start n d ≤ slot start n d' := slot_mono less.le
  rcases le.lt_or_eq with earlier | same
  · exact .inl earlier
  · have begun : start (slot start n d) ≤ d := start_slot_le zero
    refine .inr ⟨same, ?_⟩
    rw [← same]
    omega

end Slot

/-! ## The calendar -/

def cycleDays : Nat := 146097

/-- The day of the cycle on which its year `y` begins. -/
def yearStart (y : Nat) : Nat :=
  365 * y + ((y + 3) / 4 + (y + 399) / 400 - (y + 99) / 100)

def isLeap (y : Nat) : Bool :=
  y % 4 == 0 && (y % 100 != 0 || y % 400 == 0)

/-- The day of the year on which month `m` begins, both counted from 0. -/
def monthStart (leap : Bool) (m : Nat) : Nat :=
  [0, 31, 59, 90, 120, 151, 181, 212, 243, 273, 304, 334].getD m 0
    + if leap && 2 ≤ m then 1 else 0

structure Civil where
  year : Int
  month : Nat
  day : Nat
deriving DecidableEq

/-- The days from the first day of year 0 to the Unix epoch. -/
def epochDay : Int := 719528

/-- The date of the day that many days after the epoch. -/
def civil (days : Int) : Civil :=
  let day := days + epochDay
  let ofCycle := (day % cycleDays).toNat
  let year := slot yearStart 399 ofCycle
  let ofYear := ofCycle - yearStart year
  let month := slot (monthStart (isLeap year)) 11 ofYear
  ⟨400 * (day / cycleDays) + year, month, ofYear - monthStart (isLeap year) month⟩

example : civil 0 = ⟨1970, 0, 0⟩ := by decide +kernel
example : civil 19782 = ⟨2024, 1, 28⟩ := by decide +kernel

theorem yearStart_zero : yearStart 0 = 0 := rfl

theorem monthStart_zero (leap : Bool) : monthStart leap 0 = 0 := by
  simp [monthStart]

theorem ofYear_lt {d : Nat} (inside : d < cycleDays) : d - yearStart (slot yearStart 399 d) < 366 := by
  have bound : slot yearStart 399 d ≤ 399 := slot_le_bound
  rcases bound.lt_or_eq with before | last
  · have next := lt_start_next before
    unfold yearStart at next ⊢
    omega
  · rw [last]
    unfold cycleDays at inside
    unfold yearStart
    omega

theorem ofMonth_lt {leap : Bool} {d : Nat} (inside : d < 366) :
    d - monthStart leap (slot (monthStart leap) 11 d) < 99 := by
  have bound : slot (monthStart leap) 11 d ≤ 11 := slot_le_bound
  have next : slot (monthStart leap) 11 d < 11 → d < monthStart leap (slot (monthStart leap) 11 d + 1) :=
    lt_start_next
  generalize slot (monthStart leap) 11 d = m at bound next ⊢
  interval_cases m <;> cases leap <;> simp [monthStart] at next ⊢ <;> omega

theorem civil_month_lt (days : Int) : (civil days).month + 1 < 10 ^ 2 := by
  have bound : (civil days).month ≤ 11 := slot_le_bound
  omega

theorem civil_day_lt (days : Int) : (civil days).day + 1 < 10 ^ 2 := by
  have inside : ((days + epochDay) % cycleDays).toNat < cycleDays := by
    have positive : (0 : Int) < cycleDays := by decide
    have bound := Int.emod_lt_of_pos (days + epochDay) positive
    omega
  have short : (civil days).day < 99 := ofMonth_lt (ofYear_lt inside)
  omega

theorem civil_lt {days days' : Int} (less : days < days') :
    (civil days).year < (civil days').year ∨
      (civil days).year = (civil days').year ∧
        ((civil days).month < (civil days').month ∨
          (civil days).month = (civil days').month ∧ (civil days).day < (civil days').day) := by
  have cycle : (0 : Int) < cycleDays := by decide
  unfold civil
  dsimp only
  generalize shift : days + epochDay = day
  generalize shift' : days' + epochDay = day'
  have moved : day < day' := by omega
  have bound : slot yearStart 399 (day % cycleDays).toNat ≤ 399 := slot_le_bound
  have bound' : slot yearStart 399 (day' % cycleDays).toNat ≤ 399 := slot_le_bound
  rcases (Int.ediv_le_ediv cycle moved.le).lt_or_eq with earlier | same
  · left
    omega
  · -- within one cycle the days of the cycle decide
    have left := Int.mul_ediv_add_emod day cycleDays
    have right := Int.mul_ediv_add_emod day' cycleDays
    have low := Int.emod_nonneg day cycle.ne'
    have low' := Int.emod_nonneg day' cycle.ne'
    have ofCycle : (day % cycleDays).toNat < (day' % cycleDays).toNat := by
      rw [same] at left
      omega
    rw [same]
    rcases slot_lt (n := 399) yearStart_zero ofCycle with earlier | ⟨sameYear, ofYear⟩
    · left
      omega
    · right
      rw [sameYear] at ofYear ⊢
      refine ⟨rfl, ?_⟩
      exact slot_lt (monthStart_zero _) ofYear

/-! ## The layout -/

/-- `appendInt` for the year, with its sign. -/
def yearText (year : Int) : List Char :=
  if year < 0 then '-' :: padded 4 year.natAbs else padded 4 year.toNat

def dateText (date : Civil) : List Char :=
  yearText date.year ++ '-' :: (padded 2 (date.month + 1) ++ '-' :: padded 2 (date.day + 1))

def clockText (ofDay : Nat) : List Char :=
  padded 2 (ofDay / 3600) ++ ':' :: (padded 2 (ofDay % 3600 / 60) ++ ':' :: padded 2 (ofDay % 60))

/-- The instant up to the second, counted in seconds from the epoch. -/
def secondText (seconds : Int) : List Char :=
  dateText (civil (seconds / 86400)) ++ 'T' :: clockText (seconds % 86400).toNat

def fractionDigits (nanoseconds : Nat) : List Char :=
  trimZeros (lastDigits 9 nanoseconds)

def fractionText (nanoseconds : Nat) : List Char :=
  match fractionDigits nanoseconds with
  | [] => []
  | digits => '.' :: digits

def seconds (instant : Int) : Int := instant / 1000000000

def nanoseconds (instant : Int) : Nat := (instant % 1000000000).toNat

/-- `t.UTC().Format(time.RFC3339Nano)`. -/
def rfc3339Nano (instant : Int) : List Char :=
  secondText (seconds instant) ++ (fractionText (nanoseconds instant) ++ ['Z'])

def year (instant : Int) : Int :=
  (civil (seconds instant / 86400)).year

def FourDigitYear (instant : Int) : Prop :=
  0 ≤ year instant ∧ year instant ≤ 9999

instance (instant : Int) : Decidable (FourDigitYear instant) := by
  unfold FourDigitYear
  infer_instance

example : rfc3339Nano 1704067205500000000 = "2024-01-01T00:00:05.5Z".toList := by decide +kernel

/-! ## Its order -/

theorem yearText_before {y y' : Int} (low : 0 ≤ y) (high : y' ≤ 9999) (less : y < y') :
    Before (yearText y) (yearText y') := by
  unfold yearText
  rw [if_neg (by omega), if_neg (by omega)]
  exact padded_before (by omega) (by omega)

theorem dateText_before {days days' : Int} (low : 0 ≤ (civil days).year)
    (high : (civil days').year ≤ 9999) (less : days < days') :
    Before (dateText (civil days)) (dateText (civil days')) := by
  unfold dateText
  rcases civil_lt less with year | ⟨sameYear, month | ⟨sameMonth, day⟩⟩
  · exact (yearText_before low high year).append _ _
  · rw [sameYear]
    apply Before.prepend
    apply Before.prepend ['-']
    exact (padded_before (civil_month_lt days') (by omega)).append _ _
  · rw [sameYear, sameMonth]
    apply Before.prepend
    apply Before.prepend ['-']
    apply Before.prepend
    apply Before.prepend ['-']
    exact padded_before (civil_day_lt days') (by omega)

theorem clockText_before {ofDay ofDay' : Nat} (small : ofDay' < 86400) (less : ofDay < ofDay') :
    Before (clockText ofDay) (clockText ofDay') := by
  unfold clockText
  by_cases hour : ofDay / 3600 = ofDay' / 3600
  · rw [hour]
    apply Before.prepend
    apply Before.prepend [':']
    by_cases minute : ofDay % 3600 / 60 = ofDay' % 3600 / 60
    · rw [minute]
      apply Before.prepend
      apply Before.prepend [':']
      exact padded_before (by omega) (by omega)
    · exact (padded_before (by omega) (by omega)).append _ _
  · exact (padded_before (by omega) (by omega)).append _ _

theorem secondText_before {s s' : Int} (low : 0 ≤ (civil (s / 86400)).year)
    (high : (civil (s' / 86400)).year ≤ 9999) (less : s < s') :
    Before (secondText s) (secondText s') := by
  unfold secondText
  by_cases day : s / 86400 = s' / 86400
  · rw [day]
    apply Before.prepend
    apply Before.prepend ['T']
    exact clockText_before (by omega) (by omega)
  · exact (dateText_before low high (by omega)).append _ _

theorem fractionText_of_ne_nil {n : Nat} (nonempty : fractionDigits n ≠ []) :
    fractionText n = '.' :: fractionDigits n := by
  unfold fractionText
  split
  next empty => exact absurd empty nonempty
  · rfl

theorem fractionText_before {n n' : Nat} (small : n' < 10 ^ 9) (less : n < n')
    (apart : ¬fractionDigits n <+: fractionDigits n') :
    Before (fractionText n) (fractionText n') := by
  have trimmed : Before (fractionDigits n) (fractionDigits n') :=
    trimZeros_before (lastDigits_before 9 small less) (fun _ member => zero_le_lastDigits member) apart
  obtain ⟨front, x, y, s, t, left, right, lower⟩ := trimmed
  rw [fractionText_of_ne_nil (by simp [left]), fractionText_of_ne_nil (by simp [right]), left, right]
  exact ((Before.single lower s t).prepend front).prepend ['.']

/-- Digits that go on after those of another fraction come before the `Z` that ends it. -/
theorem fractionText_reversed {n n' : Nat} (begins : fractionDigits n <+: fractionDigits n') :
    fractionText n' ++ ['Z'] = fractionText n ++ ['Z'] ∨
      Before (fractionText n' ++ ['Z']) (fractionText n ++ ['Z']) := by
  obtain ⟨more, longer⟩ := begins
  cases more with
  | nil =>
    rw [List.append_nil] at longer
    exact .inl (by unfold fractionText; rw [longer])
  | cons c rest =>
    right
    have isDigit : c ≤ '9' := by
      have member : c ∈ fractionDigits n' := by rw [← longer]; simp
      exact lastDigits_le_nine ((trimZeros_begins _).subset member)
    rw [fractionText_of_ne_nil (n := n') (by simp [← longer]), ← longer]
    cases digits : fractionDigits n with
    | nil =>
      have whole : fractionText n = [] := by simp [fractionText, digits]
      rw [whole]
      exact .single (by decide) _ []
    | cons d front =>
      rw [fractionText_of_ne_nil (by simp [digits]), digits]
      have ends : c < 'Z' := lt_of_le_of_lt isDigit (by decide)
      exact ⟨'.' :: d :: front, c, 'Z', rest ++ ['Z'], [], by simp, by simp, ends⟩

/-- Instants of four-digit years are written in their order, unless they fall into the same
second and the digits of the earlier fraction begin those of the later one. -/
theorem rfc3339Nano_before {t t' : Int} (low : FourDigitYear t) (high : FourDigitYear t') (less : t < t')
    (apart : seconds t = seconds t' →
      ¬fractionDigits (nanoseconds t) <+: fractionDigits (nanoseconds t')) :
    Before (rfc3339Nano t) (rfc3339Nano t') := by
  unfold rfc3339Nano
  by_cases same : seconds t = seconds t'
  · have later := apart same
    rw [same]
    apply Before.prepend
    apply Before.append
    unfold seconds at same
    unfold nanoseconds at later ⊢
    exact fractionText_before (by omega) (by omega) later
  · have earlier : seconds t < seconds t' := by
      unfold seconds at same ⊢
      omega
    exact (secondText_before low.1 high.2 earlier).append _ _

theorem rfc3339Nano_lt_iff {t t' : Int} (low : FourDigitYear t) (high : FourDigitYear t')
    (less : t < t') :
    rfc3339Nano t < rfc3339Nano t' ↔ (seconds t = seconds t' →
      ¬fractionDigits (nanoseconds t) <+: fractionDigits (nanoseconds t')) := by
  refine ⟨fun written same begins => ?_, fun apart => (rfc3339Nano_before low high less apart).lt⟩
  unfold rfc3339Nano at written
  rw [same] at written
  rcases fractionText_reversed begins with equal | reversed
  · rw [equal] at written
    exact lt_irrefl _ written
  · exact lt_asymm written (reversed.prepend _).lt

end GoDate
