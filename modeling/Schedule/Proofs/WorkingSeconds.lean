import Schedule.Proofs.EarliestFinish

/-!
# Working time adds up

`work` counts, day by day, the working seconds between two stamps and gives them in hours. The
count is a measure of the time between the stamps: it is never negative, and between three stamps
in order the working time from the first to the last is that from the first to the middle and on
from there. So `work` grows with its finish and shrinks with its start, whatever the calendar
chain, on a day boundary, inside a span, or against a span that ends at midnight.

The proof reads both counts as differences of `reach`, the working seconds from midnight of a
fixed day (`workSeconds_eq_reach`), and moves the day `reach` counts from (`reach_add_days`).

## Main statements

* `WorkingTime.reach_add_days` — `reach` after some whole days counts from the later day.
* `WorkingTime.workSeconds_nonneg` — working time is never negative.
* `WorkingTime.workSeconds_additive` — working time splits at every stamp in between.
-/

namespace Schedule

namespace WorkingTime

variable (w : WorkingTime)

/-- After `k` whole days from midnight of day `a`, the working time up to a later second is
the working time counted from midnight of day `a + k`. -/
theorem reach_add_days (x y : Int) :
    ∀ (a : Int) (k d : Nat), w.reach a (k + d) x - w.reach a k y =
      w.reach (a + k) d x - w.reach (a + k) 0 y := by
  intro a k d
  induction k generalizing a with
  | zero => rw [Nat.zero_add, Int.natCast_zero, Int.add_zero]
  | succ k ih =>
    -- the first day is counted whole on both sides; the rest counts from the next day
    have hnext := ih (a + 1)
    rw [show a + 1 + (k : Int) = a + ((k + 1 : Nat) : Int) by omega] at hnext
    rw [show k + 1 + d = (k + d) + 1 by omega, reach_succ, reach_succ]
    omega

/-- The day-by-day sum only adds working seconds, which are never negative. -/
theorem le_workDays (start finish : Stamp) :
    ∀ (n : Nat) (day acc : Int), acc ≤ w.workDays start finish n day acc := by
  intro n
  induction n with
  | zero => intro _ acc; exact Int.le_refl acc
  | succ n ih =>
    intro day acc
    have hday := overlapSeconds_nonneg (w.ranges ⟨day⟩)
      (if day = start.date.day then start.clock.seconds else 0)
      (if day = finish.date.day then finish.clock.seconds else 86400)
    have := ih (day + 1) (acc + overlapSeconds (w.ranges ⟨day⟩)
      (if day = start.date.day then start.clock.seconds else 0)
      (if day = finish.date.day then finish.clock.seconds else 86400))
    rw [workDays]
    omega

/-- Working time is never negative. -/
theorem workSeconds_nonneg (start finish : Stamp) : 0 ≤ w.workSeconds start finish := by
  rw [workSeconds]
  split
  · exact Int.le_refl 0
  · exact w.le_workDays start finish _ _ 0

/-- Between two stamps in order, the working time is the difference of the working time since
midnight of the first day; two stamps in order each way are the same stamp. -/
theorem workSeconds_eq_reach_of_le {start finish : Stamp} (hle : start ≤ finish) :
    w.workSeconds start finish = w.reach start.date.day
      (finish.date.day - start.date.day).toNat finish.clock.seconds -
        w.reach start.date.day 0 start.clock.seconds := by
  by_cases hfs : finish ≤ start
  · -- the stamps share their day and second, so both sides are nothing
    have h₁ := Stamp.le_iff.mp hle
    have h₂ := Stamp.le_iff.mp hfs
    have hday : finish.date.day = start.date.day := by omega
    have hsec : finish.clock.seconds = start.clock.seconds := by omega
    rw [workSeconds, if_pos hfs, hday, hsec, Int.sub_self, Int.toNat_zero, Int.sub_self]
  · exact workSeconds_eq_reach hfs

/-- Working time splits at every stamp in between: from `a` to `c` it is that from `a` to `b`
and on from `b` to `c`, and it is never negative, so it grows as the finish moves later and as
the start moves earlier. `work` gives it in hours. -/
theorem workSeconds_additive {a b c : Stamp} (hab : a ≤ b) (hbc : b ≤ c) :
    w.workSeconds a c = w.workSeconds a b + w.workSeconds b c ∧ 0 ≤ w.workSeconds a b ∧
      w.workSeconds a b ≤ w.workSeconds a c ∧ w.workSeconds b c ≤ w.workSeconds a c ∧
      ∀ s f : Stamp, ¬f ≤ s → w.work s f = Float.ofInt (w.workSeconds s f) / 3600.0 := by
  have h₁ := Stamp.le_iff.mp hab
  have h₂ := Stamp.le_iff.mp hbc
  -- the days from `a` to `c` are those from `a` to `b` and then those from `b` to `c`
  have hdays : (c.date.day - a.date.day).toNat =
      (b.date.day - a.date.day).toNat + (c.date.day - b.date.day).toNat := by omega
  have hmid : a.date.day + ((b.date.day - a.date.day).toNat : Int) = b.date.day := by omega
  have hshift := w.reach_add_days c.clock.seconds b.clock.seconds a.date.day
    (b.date.day - a.date.day).toNat (c.date.day - b.date.day).toNat
  rw [hmid] at hshift
  have hsplit : w.workSeconds a c = w.workSeconds a b + w.workSeconds b c := by
    rw [w.workSeconds_eq_reach_of_le (Stamp.le_iff.mpr (by omega)),
      w.workSeconds_eq_reach_of_le hab, w.workSeconds_eq_reach_of_le hbc, hdays]
    omega
  have hab₀ := w.workSeconds_nonneg a b
  have hbc₀ := w.workSeconds_nonneg b c
  exact ⟨hsplit, hab₀, by omega, by omega, fun s f h => work_eq_workSeconds w h⟩

/-- On the standard week, from 08:00 on Monday 2024-01-08 through 12:30 to 10:00 on Tuesday:
four hours before 12:30, and six more after. -/
theorem standard_work_splits_at_half_past_twelve :
    (⟨⟨19730⟩, .ofSeconds 28800⟩ : Stamp) ≤ ⟨⟨19730⟩, .ofSeconds 45000⟩ ∧
    (⟨⟨19730⟩, .ofSeconds 45000⟩ : Stamp) ≤ ⟨⟨19731⟩, .ofSeconds 36000⟩ ∧
    standard.workSeconds ⟨⟨19730⟩, .ofSeconds 28800⟩ ⟨⟨19731⟩, .ofSeconds 36000⟩ =
      standard.workSeconds ⟨⟨19730⟩, .ofSeconds 28800⟩ ⟨⟨19730⟩, .ofSeconds 45000⟩ +
        standard.workSeconds ⟨⟨19730⟩, .ofSeconds 45000⟩ ⟨⟨19731⟩, .ofSeconds 36000⟩ ∧
    0 ≤ standard.workSeconds ⟨⟨19730⟩, .ofSeconds 28800⟩ ⟨⟨19730⟩, .ofSeconds 45000⟩ ∧
    standard.workSeconds ⟨⟨19730⟩, .ofSeconds 28800⟩ ⟨⟨19730⟩, .ofSeconds 45000⟩ ≤
      standard.workSeconds ⟨⟨19730⟩, .ofSeconds 28800⟩ ⟨⟨19731⟩, .ofSeconds 36000⟩ ∧
    standard.workSeconds ⟨⟨19730⟩, .ofSeconds 45000⟩ ⟨⟨19731⟩, .ofSeconds 36000⟩ ≤
      standard.workSeconds ⟨⟨19730⟩, .ofSeconds 28800⟩ ⟨⟨19731⟩, .ofSeconds 36000⟩ ∧
    ∀ s f : Stamp, ¬f ≤ s → standard.work s f = Float.ofInt (standard.workSeconds s f) / 3600.0 :=
  have hab : (⟨⟨19730⟩, .ofSeconds 28800⟩ : Stamp) ≤ ⟨⟨19730⟩, .ofSeconds 45000⟩ := by decide
  have hbc : (⟨⟨19730⟩, .ofSeconds 45000⟩ : Stamp) ≤ ⟨⟨19731⟩, .ofSeconds 36000⟩ := by decide
  ⟨hab, hbc, workSeconds_additive standard hab hbc⟩

example : standard.workSeconds ⟨⟨19730⟩, .ofSeconds 28800⟩ ⟨⟨19730⟩, .ofSeconds 45000⟩ = 14400 := by
  decide

end WorkingTime

end Schedule
