import Schedule.Time.Stamp
import Schedule.Number.Print

/-!
# Writing dates and times

A year from 0 to 9999 is written with four digits; any other year with its sign and at least four
digits (`+262142`, `-0001`). A time is `HH:MM:SS`, a leap second reading `60`, followed by a
fraction when there is one: three digits when it is whole milliseconds, six when whole
microseconds, nine otherwise. A stamp joins date and time with `T` in its interchange form and with
a blank in its display form.
-/

namespace Schedule

open Schedule.Number

/-- A natural number with at least `width` digits, zeros in front. -/
def padNat (width n : Nat) : String :=
  let ds := digitString n
  zeros (width - ds.length) ++ ds

/-- The text of a year. -/
def yearText (y : Int) : String :=
  if 0 ≤ y ∧ y ≤ 9999 then padNat 4 y.toNat
  else (if y < 0 then "-" else "+") ++ padNat 4 y.natAbs

/-- `YYYY-MM-DD`. -/
def Date.text (d : Date) : String :=
  let (y, m, day) := d.ymd
  yearText y ++ "-" ++ padNat 2 m ++ "-" ++ padNat 2 day

/-- The fraction of a second: empty, or a point and three, six or nine digits. -/
def fractionText (nanos : Nat) : String :=
  if nanos = 0 then ""
  else if nanos % 1000000 = 0 then "." ++ padNat 3 (nanos / 1000000)
  else if nanos % 1000 = 0 then "." ++ padNat 6 (nanos / 1000)
  else "." ++ padNat 9 nanos

/-- `HH:MM:SS` with its fraction. -/
def Clock.text (c : Clock) : String :=
  let (h, m, s) := c.hms
  padNat 2 h ++ ":" ++ padNat 2 m ++ ":" ++ padNat 2 s ++ fractionText c.fraction

/-- `YYYY-MM-DDTHH:MM:SS`, the interchange form. -/
def Stamp.text (t : Stamp) : String := t.date.text ++ "T" ++ t.clock.text

/-- `YYYY-MM-DD HH:MM:SS`, the display form. -/
def Stamp.display (t : Stamp) : String := t.date.text ++ " " ++ t.clock.text

end Schedule
