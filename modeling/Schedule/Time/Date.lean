/-!
# Dates of the proleptic Gregorian calendar

A date is a day number counted from 1970-01-01. The supported range runs from -262143-01-01 to
262142-12-31; a step that leaves it fails. Conversion between day numbers and year, month and day
follows the cycle of 400 years (146097 days), with years counted from March so that the leap day
closes the year.

## Main definitions

* `Date.ofYmd?` — the date of a year, month and day, if such a day exists in range.
* `Date.ymd` — year, month and day of a date.
* `Date.weekday` — the day of the week, Monday being 0.
* `Date.addDays?` — a date moved by a number of days, within range.
-/

namespace Schedule

/-- A calendar date, as the number of days since 1970-01-01. -/
structure Date where
  day : Int
  deriving Repr, Inhabited, DecidableEq, Hashable

namespace Date

instance : Ord Date := ⟨fun a b => compare a.day b.day⟩
instance : LT Date := ⟨fun a b => a.day < b.day⟩
instance : LE Date := ⟨fun a b => a.day ≤ b.day⟩
instance (a b : Date) : Decidable (a < b) := inferInstanceAs (Decidable (a.day < b.day))
instance (a b : Date) : Decidable (a ≤ b) := inferInstanceAs (Decidable (a.day ≤ b.day))

/-- Whether a year of the proleptic Gregorian calendar has 366 days. -/
def isLeapYear (y : Int) : Bool := y % 4 == 0 && (y % 100 != 0 || y % 400 == 0)

/-- The number of days of a month. -/
def monthLength (y : Int) (m : Nat) : Nat :=
  match m with
  | 2 => if isLeapYear y then 29 else 28
  | 4 | 6 | 9 | 11 => 30
  | _ => 31

/-- The day number of a year, month and day, which are not checked. -/
def dayNumber (y : Int) (m d : Nat) : Int :=
  let y' : Int := if m ≤ 2 then y - 1 else y
  let era := y' / 400
  let yoe := y' - era * 400
  let mp : Int := if m > 2 then (m : Int) - 3 else (m : Int) + 9
  let doy := (153 * mp + 2) / 5 + (d : Int) - 1
  let doe := yoe * 365 + yoe / 4 - yoe / 100 + doy
  era * 146097 + doe - 719468

/-- The first day of the range. -/
def minDay : Int := dayNumber (-262143) 1 1

/-- The last day of the range. -/
def maxDay : Int := dayNumber 262142 12 31

/-- A date from a day number inside the range. -/
def ofDay? (n : Int) : Option Date :=
  if minDay ≤ n ∧ n ≤ maxDay then some ⟨n⟩ else none

theorem day_of_ofDay? {n : Int} {t : Date} (h : ofDay? n = some t) : t.day = n := by
  unfold ofDay? at h
  split at h
  · cases h
    rfl
  · cases h

/-- The date of a year, month and day, if the day exists and lies in range. -/
def ofYmd? (y : Int) (m d : Nat) : Option Date :=
  if 1 ≤ m ∧ m ≤ 12 ∧ 1 ≤ d ∧ d ≤ monthLength y m then ofDay? (dayNumber y m d) else none

/-- Year, month and day of a date. -/
def ymd (t : Date) : Int × Nat × Nat :=
  let z := t.day + 719468
  let era := z / 146097
  let doe := z - era * 146097
  let yoe := (doe - doe / 1460 + doe / 36524 - doe / 146096) / 365
  let doy := doe - (365 * yoe + yoe / 4 - yoe / 100)
  let mp := (5 * doy + 2) / 153
  let d := doy - (153 * mp + 2) / 5 + 1
  let m := if mp < 10 then mp + 3 else mp - 9
  let y := yoe + era * 400 + (if m ≤ 2 then 1 else 0)
  (y, m.toNat, d.toNat)

/-- The year of a date. -/
def year (t : Date) : Int := t.ymd.1

/-- The day of the week, Monday being 0 and Sunday 6. -/
def weekday (t : Date) : Nat := ((t.day + 3) % 7).toNat

/-- The date `n` days later, if it is in range. -/
def addDays? (t : Date) (n : Int) : Option Date := ofDay? (t.day + n)

/-- The day after, if it is in range. -/
def next? (t : Date) : Option Date := t.addDays? 1

end Date

end Schedule
