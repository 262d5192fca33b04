import Schedule.Time.Stamp

/-!
# Calendars

A calendar says which hours of each day are worked. Its default week gives seven days, Monday
first; dated work weeks override it over their range, and exceptions override both over theirs.
A day is working, non-working, or inherits the day of the parent calendar. A working day without
hours works the standard hours 08:00–12:00 and 13:00–17:00.

A span of hours ends at midnight when its end reads `00:00:00`, so `20:00–00:00` is four hours.

## Main definitions

* `TimeRange.hours` — the length of a span in hours, never negative.
* `WorkWeek.standard` — Monday to Friday standard hours, the weekend off.
* `Calendar.addException` — adds an exception unless one has exactly the same range.
* `Calendar.workWeek` — the first dated week whose range holds a date, else the default week.
-/

namespace Schedule

/-- How a day of a week is worked. -/
inductive DayType where
  | working
  | nonWorking
  /-- The day of the parent calendar applies. -/
  | inherited
  deriving Repr, Inhabited, DecidableEq

/-- A span of working time within a day; an end of midnight is the end of the day. -/
structure TimeRange where
  start : Clock
  finish : Clock
  deriving Repr, Inhabited, DecidableEq

namespace TimeRange

/-- The span between two whole hours of the day. -/
def ofHours (a b : Nat) : TimeRange := ⟨Clock.ofHour a, Clock.ofHour b⟩

/-- Seconds from midnight to the start, ignoring any fraction. -/
def startSeconds (r : TimeRange) : Int := r.start.seconds

/-- Seconds from midnight to the end, a midnight end counting as the whole day. -/
def finishSeconds (r : TimeRange) : Int :=
  if r.finish = Clock.midnight then 86400 else r.finish.seconds

/-- The length of the span in hours, zero when it ends before it starts. -/
def hours (r : TimeRange) : Float :=
  Float.ofInt (max (r.finishSeconds - r.startSeconds) 0) / 3600.0

end TimeRange

/-- The standard hours of a working day: 08:00–12:00 and 13:00–17:00. -/
def standardHours : List TimeRange := [TimeRange.ofHours 8 12, TimeRange.ofHours 13 17]

/-- A day of a work week; the hours may be left open. -/
structure CalendarDay where
  dayType : DayType := .inherited
  hours : Option (List TimeRange) := none
  deriving Repr, Inhabited, DecidableEq

/-- A working day with the given hours. -/
def CalendarDay.working (hs : List TimeRange) : CalendarDay := ⟨.working, some hs⟩

/-- A day off. -/
def CalendarDay.nonWorking : CalendarDay := ⟨.nonWorking, some []⟩

/-- A day with its open hours filled: standard hours when working, none when not. -/
def CalendarDay.withDefaultHours (d : CalendarDay) : CalendarDay :=
  match d.hours, d.dayType with
  | some _, _ => d
  | none, .working => { d with hours := some standardHours }
  | none, .nonWorking => { d with hours := some [] }
  | none, .inherited => d

/-- An inclusive range of dates. -/
structure DateRange where
  start : Date
  finish : Date
  deriving Repr, Inhabited, DecidableEq

/-- Whether a date lies in the range, both ends included. -/
def DateRange.contains (r : DateRange) (d : Date) : Bool :=
  decide (r.start ≤ d) && decide (d ≤ r.finish)

/-- Seven days, Monday first, optionally named and limited to a range. -/
structure WorkWeek where
  name : Option String := none
  range : Option DateRange := none
  days : List CalendarDay := List.replicate 7 {}
  deriving Repr, Inhabited, DecidableEq

namespace WorkWeek

/-- The day of the week with index `i`, Monday being 0. -/
def day (w : WorkWeek) (i : Nat) : CalendarDay := w.days.getD i {}

/-- The week with open hours filled on its working and non-working days. -/
def withDefaultHours (w : WorkWeek) : WorkWeek :=
  { w with days := w.days.map CalendarDay.withDefaultHours }

/-- Monday to Friday at standard hours, the weekend off. -/
def standard : WorkWeek :=
  { days := List.replicate 5 (CalendarDay.working standardHours) ++
      List.replicate 2 CalendarDay.nonWorking }

/-- Replaces the day with index `i`. -/
def setDay (w : WorkWeek) (i : Nat) (d : CalendarDay) : WorkWeek :=
  { w with days := w.days.set i d }

end WorkWeek

/-- An exception over a range of dates; no hours means no work. -/
structure CalendarException where
  range : DateRange
  hours : List TimeRange := []
  deriving Repr, Inhabited, DecidableEq

/-- A calendar of the project. -/
structure Calendar where
  uniqueId : Int32
  name : Option String := none
  parentId : Option Int32 := none
  week : WorkWeek := {}
  workWeeks : List WorkWeek := []
  exceptions : List CalendarException := []
  deriving Repr, Inhabited, DecidableEq

namespace Calendar

/-- A calendar with the standard week. -/
def standard (id : Int32) (name : String) : Calendar :=
  { uniqueId := id, name := some name, week := WorkWeek.standard }

/-- Adds an exception unless one covers exactly the same range; says whether it was added. -/
def addException (c : Calendar) (range : DateRange) (hours : List TimeRange) : Calendar × Bool :=
  if c.exceptions.any (·.range == range) then (c, false)
  else ({ c with exceptions := c.exceptions ++ [⟨range, hours⟩] }, true)

/-- The first exception whose range holds a date. -/
def exception? (c : Calendar) (d : Date) : Option CalendarException :=
  c.exceptions.find? (·.range.contains d)

/-- The first dated work week whose range holds a date, else the default week. -/
def workWeek (c : Calendar) (d : Date) : WorkWeek :=
  (c.workWeeks.find? fun w => match w.range with
    | some r => r.contains d
    | none => false).getD c.week

/-- The calendar with open hours filled in its default week and its dated weeks. -/
def withDefaultHours (c : Calendar) : Calendar :=
  { c with week := c.week.withDefaultHours, workWeeks := c.workWeeks.map WorkWeek.withDefaultHours }

end Calendar

end Schedule
