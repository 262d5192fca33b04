import Schedule.Build.State
import Schedule.Hierarchy.Order

/-!
# Calendars

Calendars are read parents first. A calendar's default week comes from its dominant work
pattern, or else from its first assigned pattern; further assigned patterns become dated work
weeks. Exceptions become non-working date ranges; one ending exactly at midnight ends the day
before. The default week's open days then get default hours, and the parent is kept only when it
was read before.

A work pattern is a list of time entries running from Sunday: an entry starting at midnight, or
before the previous entry ended (unless that ended at midnight), opens the next day, whose hours
are cleared. Every day of a pattern with entries starts non-working; an entry whose exception type
is working adds its span to the open day and makes it working. Exception types 8, 32 and 128 are
working.

## Main definitions

* `exceptionDayType` — working or not, by exception type bits.
* `CalendarTables.applyPattern` — fills a work week from a work pattern.
* `Builder.processCalendars` — reads all calendars of a project.
-/

namespace Schedule

/-- Whether an exception type counts as working: the working, overtime and weekend-working
codes do. -/
def exceptionDayType (bits : Int32) : DayType :=
  match bits.toInt with
  | 8 | 32 | 128 => .working
  | _ => .nonWorking

/-- Rows keyed by an integer column, in row order within each key. -/
def groupRows (column : String) (rows : List Row) : Std.HashMap Int (List Row) :=
  let m := rows.foldl (fun (m : Std.HashMap Int (List Row)) r =>
    match r.integer? column with
    | some k => m.insert k.toInt (r :: m.getD k.toInt [])
    | none => m) {}
  m.map fun _ rs => rs.reverse

/-- The rows shared by the calendars of a project. -/
structure CalendarTables where
  exceptionTypes : List Row := []
  workPatterns : List Row := []
  workPatternAssignments : List Row := []
  exceptionAssignments : List Row := []
  timeEntries : List Row := []

/-- The calendar rows indexed for lookup. -/
structure CalendarIndex where
  exceptionTypes : Std.HashMap Int DayType
  workPatterns : Std.HashMap Int Row
  assignments : Std.HashMap Int (List Row)
  exceptions : Std.HashMap Int (List Row)
  entries : Std.HashMap Int (List Row)

/-- Indexes the calendar rows; a later row of the same id replaces an earlier one. -/
def CalendarTables.index (t : CalendarTables) : CalendarIndex where
  exceptionTypes := t.exceptionTypes.foldl (fun m r => match r.integer? "ID" with
    | some k => m.insert k.toInt (exceptionDayType (r.int "UNIQUE_BIT_FIELD"))
    | none => m) {}
  workPatterns := t.workPatterns.foldl (fun m r => match r.integer? "ID" with
    | some k => m.insert k.toInt r
    | none => m) {}
  assignments := groupRows "WORK_PATTERN_ASSIGNMENTID" t.workPatternAssignments
  exceptions := groupRows "EXCEPTION_ASSIGNMENTID" t.exceptionAssignments
  entries := groupRows "TIME_ENTRYID" t.timeEntries

/-- The walk through a pattern's entries: the week, the day being filled (Monday 0), whether a
day is open, and where the previous entry ended. -/
structure PatternWalk where
  week : WorkWeek
  day : Nat := 5
  open_ : Bool := false
  previousEnd : Option Clock := none

/-- Whether a time of day comes strictly before another. -/
def Clock.before (a b : Clock) : Bool := compare a b == .lt

/-- Reads one time entry of a pattern. -/
def CalendarIndex.step (ix : CalendarIndex) (w : PatternWalk) (entry : Row) : PatternWalk :=
  let start := (entry.clock? "START_TIME").getD Clock.midnight
  let finish := (entry.clock? "END_TIME").getD Clock.midnight
  let wrapped := match w.previousEnd with
    | some p => p != Clock.midnight && Clock.before start p
    | none => false
  let w := if start == Clock.midnight || wrapped then
      let d := (w.day + 1) % 7
      { w with day := d, open_ := true,
               week := w.week.setDay d { w.week.day d with hours := some [] } }
    else w
  let w := { w with previousEnd := some finish }
  let dayType := (entry.integer? "EXCEPTION").bind fun k => ix.exceptionTypes.get? k.toInt
  if w.open_ && dayType == some .working then
    let day := w.week.day w.day
    let filled : CalendarDay :=
      { dayType := .working, hours := some (day.hours.getD [] ++ [⟨start, finish⟩]) }
    { w with week := w.week.setDay w.day filled }
  else w

/-- Fills a work week from a work pattern; a dated week also takes the pattern's name. -/
def CalendarIndex.applyPattern (ix : CalendarIndex) (week : WorkWeek) (pattern : Int32)
    (defaultWeek : Bool) : WorkWeek :=
  match ix.workPatterns.get? pattern.toInt with
  | none => week
  | some row =>
    let week := if defaultWeek then week else { week with name := row.string? "NAME" }
    match ix.entries.get? pattern.toInt with
    | none => week
    | some entries =>
      let week := { week with days := week.days.map fun d => { d with dayType := .nonWorking } }
      (entries.foldl ix.step { week }).week

namespace Builder

/-- Adds the work patterns assigned to a calendar. -/
def assignPatterns (ix : CalendarIndex) (dominant : Option Int32) :
    Calendar × Bool → Row → Calendar × Bool
  | (c, defaultSet), a =>
    match a.integer? "WORK_PATTERN" with
    | none => (c, defaultSet)
    | some pattern =>
      if some pattern == dominant then (c, defaultSet)
      else if defaultSet then
        let range := match a.stamp? "START_DATE", a.stamp? "END_DATE" with
          | some s, some e => some ⟨s.date, e.date⟩
          | _, _ => none
        let week := ix.applyPattern { range } pattern false
        ({ c with workWeeks := c.workWeeks ++ [week] }, true)
      else ({ c with week := ix.applyPattern c.week pattern true }, true)

/-- Adds an exception of a calendar; a range ending at midnight ends the day before. -/
def addCalendarException (c : Calendar) (e : Row) : Calendar :=
  match e.stamp? "START_DATE", e.stamp? "END_DATE" with
  | some s, some f =>
    let last := if f.clock == Clock.midnight then (f.date.addDays? (-1)).getD f.date else f.date
    (c.addException ⟨s.date, last⟩ []).1
  | _, _ => c

/-- Reads one calendar row. -/
def processCalendar (ix : CalendarIndex) (b : Builder) (row : Row) : Builder :=
  match row.integer? "ID" with
  | none => b
  | some id =>
    let c : Calendar := { uniqueId := id, name := row.string? "NAME" }
    let dominant := row.integer? "DOMINANT_WORK_PATTERN"
    let defaultSet := match dominant with
      | some d => ix.workPatterns.contains d.toInt
      | none => false
    let c := match dominant with
      | some d => if defaultSet then { c with week := ix.applyPattern c.week d true } else c
      | none => c
    let (c, _) :=
      (ix.assignments.getD id.toInt []).foldl (assignPatterns ix dominant) (c, defaultSet)
    let c := (ix.exceptions.getD id.toInt []).foldl addCalendarException c
    let c := { c with week := c.week.withDefaultHours,
                      parentId := b.knownCalendar (row.integer? "CALENDAR") }
    { b with project := b.project.addCalendar c }

/-- Reads the calendars of a project, parents first. -/
def processCalendars (b : Builder) (calendars : List Row) (tables : CalendarTables) : Builder :=
  let ix := tables.index
  let rows := calendars.toArray
  let ids := rows.map fun r => (r.integer? "ID").map (·.toInt)
  let parents := rows.map fun r => (r.integer? "CALENDAR").map (·.toInt)
  let order := Hierarchy.order ids parents none
  order.foldl (fun b i => processCalendar ix b (rows.getD i default)) b

end Builder

end Schedule
