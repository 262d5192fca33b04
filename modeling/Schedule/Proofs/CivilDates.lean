import Mathlib.Tactic.IntervalCases
import Schedule.Time.Date

/-!
# The civil calendar read back

`Date.ymd` splits a day number into year, month and day by the cycle of 400 years, and
`Date.dayNumber` puts them together again. The two agree: the parts of every date name a day that
exists, their day number is the date, and so `Date.ofYmd?` gives back every date of the range.

The proof follows the split. Counted from 0000-03-01, a day falls in an era of 146097 days; a day
`doe` of the era lies in its year `yearOfEra doe`, at day `doe - daysBefore (yearOfEra doe)` of that
year counted from March. That day is at most 365, and 365 only at the end of a leap February
(`era_parts`). The day of the March year then gives the month and its day (`month_parts`).

## Main statements

* `Date.ymd_valid` — the month of a date is 1–12 and its day exists in that month.
* `Date.dayNumber_ymd` — the day number of a date's parts is the date.
* `Date.ymd_year_bounds` — the years of the range are -262144 to 262143.
* `Date.ofYmd?_ymd` — a date of the range is read back from its parts.
-/

namespace Schedule.Date

/-- The year within its era of a day of the era, years counted from March. -/
def yearOfEra (doe : Int) : Int := (doe - doe / 1460 + doe / 36524 - doe / 146096) / 365

/-- The days of an era before one of its years, years counted from March. -/
def daysBefore (yoe : Int) : Int := 365 * yoe + yoe / 4 - yoe / 100

/-- A date of the supported range. -/
def InRange (t : Date) : Prop := minDay ≤ t.day ∧ t.day ≤ maxDay

instance : DecidablePred InRange := fun t =>
  inferInstanceAs (Decidable (minDay ≤ t.day ∧ t.day ≤ maxDay))

/-- The range in day numbers: from -262144-01-01 to 262143-12-31. -/
theorem InRange.bounds {d : Date} (h : d.InRange) : -96465292 ≤ d.day ∧ d.day ≤ 95026236 := by
  have hmin : minDay = -96465292 := by decide
  have hmax : maxDay = 95026236 := by decide
  exact ⟨hmin ▸ h.1, hmax ▸ h.2⟩

theorem ofDay?_day {t : Date} (h : t.InRange) : ofDay? t.day = some t := by
  simp [ofDay?, h.1, h.2]

section Era

/-! An era splits into four centuries of 36524 days (the last one day longer), a century into 25
blocks of four years of 1461 days (the last one day shorter), and a block into years of 365 days. -/

theorem daysBefore_split {c k j : Int} (hk0 : 0 ≤ k) (hk1 : k ≤ 24) (hj0 : 0 ≤ j) (hj1 : j ≤ 3) :
    daysBefore (100 * c + 4 * k + j) = 36524 * c + 1461 * k + 365 * j := by
  unfold daysBefore
  omega

theorem yearOfEra_split {c k s : Int} (hc0 : 0 ≤ c) (hc1 : c ≤ 3) (hk0 : 0 ≤ k) (hk1 : k ≤ 24)
    (hs0 : 0 ≤ s) (hs1 : s ≤ 1460) (hlast : k = 24 → s ≤ 1459) :
    yearOfEra (36524 * c + 1461 * k + s) =
      100 * c + 4 * k + (s - (24 * c + k + s) / 1460) / 365 := by
  have hu : (36524 * c + 1461 * k + s) / 1460 = 25 * c + k + (24 * c + k + s) / 1460 := by omega
  have hf : (36524 * c + 1461 * k + s) / 36524 = c := by omega
  have hg : (36524 * c + 1461 * k + s) / 146096 = 0 := by omega
  rw [yearOfEra, hu, hf, hg]
  omega

/-- Every day of an era but its last lies in a year of the era, at most 365 days after the year's
first day; day 365 closes the fourth year of a block, which is a leap year that is no century. -/
theorem era_parts_of_lt {doe : Int} (h0 : 0 ≤ doe) (h1 : doe < 146096) :
    0 ≤ yearOfEra doe ∧ yearOfEra doe ≤ 399 ∧ 0 ≤ doe - daysBefore (yearOfEra doe) ∧
      doe - daysBefore (yearOfEra doe) ≤ 365 ∧
      (doe - daysBefore (yearOfEra doe) = 365 →
        (yearOfEra doe + 1) % 4 = 0 ∧ (yearOfEra doe + 1) % 100 ≠ 0) := by
  obtain ⟨c, k, s, rfl, hc0, hc1, hk0, hk1, hs0, hs1, hlast⟩ :
      ∃ c k s, doe = 36524 * c + 1461 * k + s ∧ 0 ≤ c ∧ c ≤ 3 ∧ 0 ≤ k ∧ k ≤ 24 ∧ 0 ≤ s ∧
        s ≤ 1460 ∧ (k = 24 → s ≤ 1459) :=
    ⟨doe / 36524, doe % 36524 / 1461, doe % 36524 % 1461, by omega, by omega, by omega, by omega,
      by omega, by omega, by omega, by omega⟩
  rw [yearOfEra_split hc0 hc1 hk0 hk1 hs0 hs1 hlast]
  -- the correction `u` is one exactly on the last day of a block
  have hu : ((24 * c + k + s) / 1460 = 0 ∧ 24 * c + k + s < 1460) ∨
      ((24 * c + k + s) / 1460 = 1 ∧ 1460 ≤ 24 * c + k + s) := by
    omega
  generalize (24 * c + k + s) / 1460 = u at hu
  have hj : 0 ≤ (s - u) / 365 ∧ (s - u) / 365 ≤ 3 ∧ 365 * ((s - u) / 365) ≤ s - u ∧
      s - u < 365 * ((s - u) / 365) + 365 := by omega
  generalize (s - u) / 365 = j at hj
  rw [daysBefore_split hk0 hk1 hj.1 hj.2.1]
  refine ⟨by omega, by omega, by omega, by omega, fun h365 => ?_⟩
  have hj3 : j = 3 := by omega
  subst hj3
  omega

/-- Every day of an era lies in a year of the era, at most 365 days after the year's first day;
day 365 closes a leap year. -/
theorem era_parts {doe : Int} (h0 : 0 ≤ doe) (h1 : doe < 146097) :
    0 ≤ yearOfEra doe ∧ yearOfEra doe ≤ 399 ∧ 0 ≤ doe - daysBefore (yearOfEra doe) ∧
      doe - daysBefore (yearOfEra doe) ≤ 365 ∧
      (doe - daysBefore (yearOfEra doe) = 365 →
        (yearOfEra doe + 1) % 4 = 0 ∧
          ((yearOfEra doe + 1) % 100 ≠ 0 ∨ (yearOfEra doe + 1) % 400 = 0)) := by
  by_cases hlast : doe = 146096
  · -- the last day of an era is the leap day of its four hundredth year
    subst hlast
    have hy : yearOfEra 146096 = 399 := by decide
    have hd : daysBefore 399 = 145731 := by decide
    rw [hy, hd]
    decide
  · obtain ⟨hy0, hy1, hd0, hd1, hleap⟩ := era_parts_of_lt h0 (by omega)
    exact ⟨hy0, hy1, hd0, hd1, fun h => ⟨(hleap h).1, .inl (hleap h).2⟩⟩

end Era

theorem monthLength_le_31 (y : Int) (m : Nat) : monthLength y m ≤ 31 := by
  unfold monthLength
  split
  · split <;> decide
  all_goals decide

/-- The month and day of a day `doy` of a year counted from March: months from March are
`mp = (5 * doy + 2) / 153`, and each holds the days its calendar month has, February its leap day
only when `doy` reaches 365. -/
theorem month_parts {doy mp : Int} (hmp : (5 * doy + 2) / 153 = mp) (h0 : 0 ≤ doy)
    (h1 : doy ≤ 365) :
    ∃ m : Nat, (if mp < 10 then mp + 3 else mp - 9) = m ∧ 1 ≤ m ∧ m ≤ 12 ∧
      (if m > 2 then (m : Int) - 3 else (m : Int) + 9) = mp ∧ (doy = 365 → m = 2) ∧
      1 ≤ doy - (153 * mp + 2) / 5 + 1 ∧
      ∀ y : Int, (doy = 365 → isLeapYear y = true) →
        doy - (153 * mp + 2) / 5 + 1 ≤ monthLength y m := by
  have hmp0 : 0 ≤ mp := by omega
  have hmp1 : mp ≤ 11 := by omega
  have hday : doy - (153 * mp + 2) / 5 + 1 ≤ (153 * (mp + 1) + 2) / 5 - (153 * mp + 2) / 5 := by
    omega
  refine ⟨(if mp < 10 then mp + 3 else mp - 9).toNat, by split <;> omega, ?_⟩
  interval_cases mp
  all_goals simp only [monthLength]
  all_goals simp
  -- in February the leap condition is all that is left
  all_goals first | refine ⟨by omega, by omega, ?_⟩ | refine ⟨by omega, ?_⟩
  all_goals intro y hleap
  all_goals first
    | omega
    | split_ifs with hy
      · omega
      · have h365 : doy ≠ 365 := fun h => hy (hleap h)
        omega

/-- The parts of a date name a day of the calendar, and its day number is the date. -/
theorem ymd_spec (t : Date) :
    (1 ≤ t.ymd.2.1 ∧ t.ymd.2.1 ≤ 12 ∧ 1 ≤ t.ymd.2.2 ∧ t.ymd.2.2 ≤ monthLength t.ymd.1 t.ymd.2.1) ∧
      dayNumber t.ymd.1 t.ymd.2.1 t.ymd.2.2 = t.day := by
  simp only [ymd]
  generalize hera : (t.day + 719468) / 146097 = era
  have hdoe0 : 0 ≤ t.day + 719468 - era * 146097 := by omega
  have hdoe1 : t.day + 719468 - era * 146097 < 146097 := by omega
  generalize hdoe : t.day + 719468 - era * 146097 = doe at hdoe0 hdoe1
  obtain ⟨hy0, hy1, hd0, hd1, hleap⟩ := era_parts hdoe0 hdoe1
  rw [show (doe - doe / 1460 + doe / 36524 - doe / 146096) / 365 = yearOfEra doe from rfl]
  generalize hyoe : yearOfEra doe = yoe at hy0 hy1 hd0 hd1 hleap
  rw [show 365 * yoe + yoe / 4 - yoe / 100 = daysBefore yoe from rfl]
  generalize hdoy : doe - daysBefore yoe = doy at hd0 hd1 hleap
  generalize hmp : (5 * doy + 2) / 153 = mp
  obtain ⟨m, hm, hm1, hm12, hmp', h365, hday1, hdays⟩ := month_parts hmp hd0 hd1
  rw [hm]
  simp only [Int.toNat_natCast]
  -- the leap day falls in February, counted with the following calendar year
  have hleapY : doy = 365 → isLeapYear (yoe + era * 400 + if (m : Int) ≤ 2 then 1 else 0) := by
    intro h
    obtain ⟨h4, h100⟩ := hleap h
    rw [h365 h]
    simp only [isLeapYear, Bool.and_eq_true, beq_iff_eq, Bool.or_eq_true, bne_iff_ne]
    omega
  have hlen := hdays _ hleapY
  refine ⟨⟨hm1, hm12, by omega, by omega⟩, ?_⟩
  unfold dayNumber
  unfold daysBefore at hdoy
  -- the calendar year before the shift lies in the same era
  have hsame : (yoe + era * 400) / 400 = era := by omega
  by_cases hm2 : m ≤ 2
  · have hmi : (m : Int) ≤ 2 := by omega
    simp only [hm2, hmi, if_true, gt_iff_lt, not_lt.mpr hm2, if_false] at hmp' ⊢
    subst hmp'
    simp only [add_sub_cancel_right, hsame]
    omega
  · have hmi : ¬(m : Int) ≤ 2 := by omega
    simp only [hm2, hmi, if_false, gt_iff_lt, not_le.mp hm2, if_true] at hmp' ⊢
    subst hmp'
    simp only [add_sub_cancel_right, add_zero, hsame]
    omega

theorem ymd_valid (t : Date) :
    1 ≤ t.ymd.2.1 ∧ t.ymd.2.1 ≤ 12 ∧ 1 ≤ t.ymd.2.2 ∧ t.ymd.2.2 ≤ monthLength t.ymd.1 t.ymd.2.1 :=
  (ymd_spec t).1

theorem dayNumber_ymd (t : Date) : dayNumber t.ymd.1 t.ymd.2.1 t.ymd.2.2 = t.day :=
  (ymd_spec t).2

example : (⟨19730⟩ : Date).ymd = (2024, 1, 8) := by decide

/-- The years of the range's dates: the range runs from -262143-01-01 to 262142-12-31, and its
first day counts in the year before under the March reckoning of `dayNumber`. -/
theorem ymd_year_bounds {t : Date} (h : t.InRange) : -262144 ≤ t.ymd.1 ∧ t.ymd.1 ≤ 262143 := by
  have hday := dayNumber_ymd t
  obtain ⟨hm1, hm12, hd1, hd⟩ := ymd_valid t
  have h31 := monthLength_le_31 t.ymd.1 t.ymd.2.1
  obtain ⟨hlo, hhi⟩ := h.bounds
  generalize t.ymd.1 = y at *
  generalize t.ymd.2.1 = m at *
  generalize t.ymd.2.2 = d at *
  unfold dayNumber at hday
  dsimp only at hday
  split_ifs at hday <;> omega

theorem ofYmd?_ymd {t : Date} (h : t.InRange) : ofYmd? t.ymd.1 t.ymd.2.1 t.ymd.2.2 = some t := by
  rw [ofYmd?, if_pos (ymd_valid t), dayNumber_ymd]
  exact ofDay?_day h

end Schedule.Date
