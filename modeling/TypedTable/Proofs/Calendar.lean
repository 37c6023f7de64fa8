import Mathlib.Order.Basic
import TypedTable.Calendar.Timestamp
/-!
# Days are known by their numbers

Years and months follow each other without a gap: a date lies between the first day of its year and
that of the next one, and so do its days within the months. So no two dates have one number
(`Date.dayNumber_inj`), and all numbers lie in the calendar (`Date.dayNumber_mem`).
-/

namespace TypedTable

namespace Date

/-! ### Years -/

/-- The number of days of a year. -/
def daysInYear (year : Int) : Nat := if isLeapYear year then 366 else 365

theorem daysBeforeYear_succ (year : Int) :
    daysBeforeYear (year + 1) = daysBeforeYear year + daysInYear year := by
  unfold daysBeforeYear daysInYear isLeapYear
  dsimp only
  split <;> simp_all <;> omega

theorem daysBeforeYear_mono {y y' : Int} (h : y ≤ y') : daysBeforeYear y ≤ daysBeforeYear y' := by
  unfold daysBeforeYear
  dsimp only
  omega

/-! ### Months -/

theorem daysBeforeMonth_succ (year : Int) {month : Nat} (h : 1 ≤ month) :
    daysBeforeMonth year (month + 1) = daysBeforeMonth year month + daysInMonth year month := by
  obtain ⟨m, rfl⟩ := Nat.exists_eq_add_of_le' h
  unfold daysBeforeMonth
  rw [Nat.add_sub_cancel, Nat.add_sub_cancel, List.range_succ, List.foldl_append]
  rfl

theorem daysBeforeMonth_mono (year : Int) {m m' : Nat} (hm : 1 ≤ m) (h : m ≤ m') :
    daysBeforeMonth year m ≤ daysBeforeMonth year m' := by
  induction h with
  | refl => exact Nat.le_refl _
  | step hle ih =>
    rw [daysBeforeMonth_succ year (Nat.le_trans hm hle)]
    omega

/-- The months fill the year. -/
theorem daysBeforeMonth_thirteen (year : Int) : daysBeforeMonth year 13 = daysInYear year := by
  unfold daysBeforeMonth daysInYear daysInMonth
  cases isLeapYear year <;> rfl

/-! ### Days -/

variable {d e : Date}

/-- The number of a day within its year. -/
def dayOfYear (d : Date) : Nat := daysBeforeMonth d.year d.month + (d.day - 1)

theorem dayNumber_eq (d : Date) : d.dayNumber = daysBeforeYear d.year + d.dayOfYear := by
  unfold dayNumber dayOfYear
  omega

/-- A day lies in its month. -/
theorem dayOfYear_lt (d : Date) : d.dayOfYear < daysBeforeMonth d.year (d.month + 1) := by
  have hday := d.day_mem
  rw [daysBeforeMonth_succ d.year d.month_mem.1]
  unfold dayOfYear
  omega

/-- A day lies in its year. -/
theorem dayNumber_lt (d : Date) : d.dayNumber < daysBeforeYear (d.year + 1) := by
  have hmonth := d.dayOfYear_lt
  have hyear := daysBeforeMonth_mono d.year (show 1 ≤ d.month + 1 by omega)
    (show d.month + 1 ≤ 13 by have := d.month_mem; omega)
  rw [daysBeforeMonth_thirteen] at hyear
  rw [daysBeforeYear_succ, dayNumber_eq]
  omega

theorem daysBeforeYear_le (d : Date) : daysBeforeYear d.year ≤ d.dayNumber := by
  rw [dayNumber_eq]
  omega

/-- Every day has a number in the calendar. -/
theorem dayNumber_mem (d : Date) : firstDay ≤ d.dayNumber ∧ d.dayNumber ≤ lastDay := by
  have hfirst := daysBeforeYear_mono d.year_mem.1
  have hlast := daysBeforeYear_mono (show d.year + 1 ≤ maxYear + 1 by have := d.year_mem; omega)
  have := d.daysBeforeYear_le
  have := d.dayNumber_lt
  unfold firstDay lastDay
  omega

theorem year_le_of_dayNumber_eq (h : d.dayNumber = e.dayNumber) : d.year ≤ e.year := by
  by_contra hlt
  have hle := daysBeforeYear_mono (show e.year + 1 ≤ d.year by omega)
  have := e.dayNumber_lt
  have := d.daysBeforeYear_le
  omega

theorem month_le_of_dayOfYear_eq (hyear : d.year = e.year) (h : d.dayOfYear = e.dayOfYear) :
    d.month ≤ e.month := by
  by_contra hlt
  have hle := daysBeforeMonth_mono e.year (show 1 ≤ e.month + 1 by omega)
    (show e.month + 1 ≤ d.month by omega)
  have hlast := e.dayOfYear_lt
  rw [← h, dayOfYear, hyear] at hlast
  omega

/-- No two days have one number. -/
theorem dayNumber_inj (h : d.dayNumber = e.dayNumber) : d = e := by
  have hyear := Int.le_antisymm (year_le_of_dayNumber_eq h) (year_le_of_dayNumber_eq h.symm)
  have hday : d.dayOfYear = e.dayOfYear := by
    rw [dayNumber_eq, dayNumber_eq, hyear] at h
    omega
  have hmonth := Nat.le_antisymm (month_le_of_dayOfYear_eq hyear hday)
    (month_le_of_dayOfYear_eq hyear.symm hday.symm)
  have hd := d.day_mem
  have he := e.day_mem
  rw [dayOfYear, dayOfYear, hyear, hmonth] at hday
  obtain ⟨year, month, day, _, _, _⟩ := d
  obtain ⟨year', month', day', _, _, _⟩ := e
  obtain rfl : year = year' := hyear
  obtain rfl : month = month' := hmonth
  obtain rfl : day = day' := by
    simp only at hday hd he
    omega
  rfl

end Date

end TypedTable
