import TypedTable.Proofs.Calendar
/-!
# Days are found by their numbers

`Date.ofDayNumber?` goes back from a number to the day. The year that it takes begins no later than
the day and ends behind it (`yearOfDay_spec`): the estimate by the mean length of a year is off by
at most one. The walk through the months stops at the month that the day lies in
(`monthOfDay_spec`). So every number of the calendar is that of the day that it leads to
(`exists_ofDayNumber?`), and a point in time in whole microseconds is found by their number
(`Timestamp.exists_ofMicros?`).
-/

namespace TypedTable

namespace Date

/-! ### The year and the month of a day -/

/-- A day lies in the year that is found for it. -/
theorem yearOfDay_spec (n : Int) :
    daysBeforeYear (yearOfDay n) ≤ n ∧ n < daysBeforeYear (yearOfDay n + 1) := by
  -- The mean length of a year differs from the days before it by less than two days, so the
  -- estimate is off by at most one.
  have hlow : daysBeforeYear (400 * n / 146097) ≤ n := by
    unfold daysBeforeYear
    dsimp only
    omega
  have hhigh : n < daysBeforeYear (400 * n / 146097 + 1 + 1 + 1) := by
    unfold daysBeforeYear
    dsimp only
    omega
  unfold yearOfDay
  dsimp only
  generalize 400 * n / 146097 = y at hlow hhigh
  split
  · next hbefore =>
    rw [Int.add_sub_cancel]
    exact ⟨hlow, hbefore⟩
  · split
    · next hbehind => exact ⟨hbehind, hhigh⟩
    · next hwithin => omega

/-- The walk through the months stops at the month that the day lies in. -/
theorem monthOfDay_spec {year : Int} {fuel month rest : Nat} (hmonth : 1 ≤ month)
    (hrest : daysBeforeMonth year month + rest < daysBeforeMonth year (month + fuel)) :
    month ≤ (monthOfDay year fuel month rest).1 ∧
      (monthOfDay year fuel month rest).1 < month + fuel ∧
      1 ≤ (monthOfDay year fuel month rest).2 ∧
      (monthOfDay year fuel month rest).2 ≤
        daysInMonth year (monthOfDay year fuel month rest).1 ∧
      daysBeforeMonth year (monthOfDay year fuel month rest).1 +
        ((monthOfDay year fuel month rest).2 - 1) = daysBeforeMonth year month + rest := by
  induction fuel generalizing month rest with
  | zero => exact absurd hrest (by rw [Nat.add_zero]; omega)
  | succ fuel ih =>
    rw [monthOfDay]
    split
    · next hlt => exact ⟨Nat.le_refl _, by dsimp only; omega, Nat.succ_pos rest, hlt, rfl⟩
    · next hge =>
      have hsucc := daysBeforeMonth_succ year hmonth
      have hbound : month + 1 + fuel = month + (fuel + 1) := by omega
      have hnext := @ih (month + 1) (rest - daysInMonth year month) (by omega)
        (by rw [hbound]; omega)
      omega

/-- A day of the calendar lies in a year of the calendar. -/
theorem year_mem_of_dayNumber {year n : Int} (hbegin : daysBeforeYear year ≤ n)
    (hend : n < daysBeforeYear (year + 1)) (h : firstDay ≤ n ∧ n ≤ lastDay) :
    minYear ≤ year ∧ year ≤ maxYear := by
  obtain ⟨hfirst, hlast⟩ := h
  unfold firstDay at hfirst
  unfold lastDay at hlast
  constructor
  · by_contra hlt
    have := daysBeforeYear_mono (show year + 1 ≤ minYear by omega)
    omega
  · by_contra hlt
    have := daysBeforeYear_mono (show maxYear + 1 ≤ year by omega)
    omega

/-- Every number of the calendar leads to a day with this number. -/
theorem exists_ofDayNumber? {n : Int} (h : firstDay ≤ n ∧ n ≤ lastDay) :
    ∃ d, ofDayNumber? n = some d ∧ d.dayNumber = n := by
  obtain ⟨hbegin, hend⟩ := yearOfDay_spec n
  have hyear := year_mem_of_dayNumber hbegin hend h
  have hnone : daysBeforeMonth (yearOfDay n) 1 = 0 := rfl
  have hrest : daysBeforeMonth (yearOfDay n) 1 + (n - daysBeforeYear (yearOfDay n)).toNat <
      daysBeforeMonth (yearOfDay n) (1 + 12) := by
    rw [daysBeforeYear_succ] at hend
    rw [daysBeforeMonth_thirteen]
    omega
  have hwalk := monthOfDay_spec (Nat.le_refl 1) hrest
  unfold ofDayNumber?
  dsimp only
  generalize monthOfDay (yearOfDay n) 12 1 (n - daysBeforeYear (yearOfDay n)).toNat = found
    at hwalk ⊢
  obtain ⟨month, day⟩ := found
  obtain ⟨hone, hlast, hfirst, hday, hsum⟩ := hwalk
  dsimp only at hone hlast hfirst hday hsum
  have hmonth : 1 ≤ month ∧ month ≤ 12 := ⟨hone, by omega⟩
  refine ⟨⟨_, month, day, hyear, hmonth, hfirst, hday⟩,
    dif_pos ⟨hyear, hmonth, hfirst, hday⟩, ?_⟩
  unfold dayNumber
  dsimp only
  omega

/-- A day is found by its number. -/
theorem ofDayNumber?_dayNumber (d : Date) : ofDayNumber? d.dayNumber = some d := by
  obtain ⟨e, he, hnumber⟩ := exists_ofDayNumber? d.dayNumber_mem
  rw [he, dayNumber_inj hnumber]

end Date

/-! ### Points in time -/

namespace Clock

/-- The time of day is found by its seconds. -/
theorem exists_of? {second nano : Nat} (hsecond : second < 86400) (hnano : nano < 1000000000) :
    ∃ c, of? (second / 3600) (second / 60 % 60) (second % 60) nano = some c ∧
      c.second = second ∧ c.nano = nano := by
  refine ⟨_, dif_pos ⟨by omega, by omega, by omega, .inl hnano⟩, ?_, rfl⟩
  show (second / 3600 * 60 + second / 60 % 60) * 60 + second % 60 = second
  omega

end Clock

namespace Timestamp

/-- A point in time in whole microseconds that is not in a leap second is found by their number. -/
theorem exists_ofMicros? {x : Timestamp} (epoch : Int) (hwhole : 1000 ∣ x.clock.nano)
    (hleap : x.clock.nano < 1000000000) :
    ∃ y, ofMicros? epoch (x.micros epoch) = some y ∧ y.offset = 0 ∧ y.same x = true := by
  obtain ⟨k, hk⟩ := hwhole
  have hmicros : x.micros epoch = (x.utcSecond - epoch * 86400) * 1000000 + k := by
    unfold micros
    rw [hk]
    have hfactor : (x.utcSecond - epoch * 86400) * 1000000000 + ((1000 * k : Nat) : Int) =
        1000 * ((x.utcSecond - epoch * 86400) * 1000000 + k) := by
      omega
    rw [hfactor, Int.mul_tdiv_cancel_left _ (by decide)]
  -- The microseconds say the second and the rest of it.
  have hsecond : epoch * 86400 + x.micros epoch / 1000000 = x.utcSecond := by omega
  have hrest : (x.micros epoch % 1000000).toNat * 1000 = x.clock.nano := by omega
  obtain ⟨d, hd, hnumber⟩ := Date.exists_ofDayNumber? x.utc_mem
  obtain ⟨c, hc, hcsecond, hcnano⟩ := @Clock.exists_of? (x.utcSecond % 86400).toNat x.clock.nano
    (by omega) hleap
  have hsum : d.dayNumber * 86400 + c.second - 0 = x.utcSecond := by
    rw [hnumber, hcsecond]
    unfold utcSecond
    omega
  have hmem : ((-86400 : Int) < 0 ∧ (0 : Int) < 86400) ∧
      (Date.firstDay ≤ (d.dayNumber * 86400 + c.second - 0) / 86400 ∧
        (d.dayNumber * 86400 + c.second - 0) / 86400 ≤ Date.lastDay) := by
    rw [hsum]
    exact ⟨by decide, x.utc_mem⟩
  refine ⟨⟨d, c, 0, hmem.1, hmem.2⟩, ?_, rfl, ?_⟩
  · unfold ofMicros?
    dsimp only
    rw [hsecond, hrest]
    show (Date.ofDayNumber? (x.utcSecond / 86400)).bind _ = _
    rw [show Date.ofDayNumber? (x.utcSecond / 86400) = some d from hd]
    show (Clock.of? _ _ _ _).bind _ = _
    rw [hc]
    exact dif_pos hmem
  · unfold same
    rw [Bool.and_eq_true, beq_iff_eq, beq_iff_eq]
    exact ⟨hsum, hcnano⟩

end Timestamp

end TypedTable
