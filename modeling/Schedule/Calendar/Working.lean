import Schedule.Model.Project

/-!
# Working time

Working time is read from a calendar chain: the calendar first, then its ancestors. On a date the
first calendar of the chain that decides the day gives its hours: an exception covering the date
decides it, else the day of the week in force; a working day without hours works the standard
hours, a non-working day none, and an inherited day passes to the next calendar. When no calendar
decides, the standard week does.

`work` sums, day by day, the overlap of the working hours with the span between two stamps.
`dateAfter` walks forward from a stamp consuming working time; it gives up after 73200 days in
all, or after more than 1830 days in a row without working time, or at the end of the range of
dates.

## Main definitions

* `WorkingTime.ranges` — the working hours of a date.
* `WorkingTime.work` — the working hours between two stamps.
* `WorkingTime.dateAfter` — the stamp reached after some working hours.
-/

namespace Schedule

/-- A calendar with its ancestors, the calendar first. An empty chain is the standard week. -/
structure WorkingTime where
  chain : List Calendar := []
  deriving Inhabited

namespace WorkingTime

/-- The standard week alone. -/
def standard : WorkingTime := {}

/-- The working time of a project's calendar, or the standard week for a missing one. -/
def ofProject (p : Project) (id : Option Int32) : WorkingTime := ⟨p.calendarChain id⟩

/-- The working hours of a date by the first calendar of a chain that decides it. -/
def rangesIn (d : Date) : List Calendar → List TimeRange
  | [] => (WorkWeek.standard.day d.weekday).hours.getD []
  | c :: rest =>
    match c.exception? d with
    | some e => e.hours
    | none =>
      let day := (c.workWeek d).day d.weekday
      match day.dayType with
      | .working => day.hours.getD standardHours
      | .nonWorking => []
      | .inherited => rangesIn d rest

/-- The working hours of a date. -/
def ranges (w : WorkingTime) (d : Date) : List TimeRange := rangesIn d w.chain

/-- Whether a date has working hours. -/
def isWorking (w : WorkingTime) (d : Date) : Bool := !(w.ranges d).isEmpty

/-- Seconds of the working hours of a date that fall between two seconds of that day. -/
def overlapSeconds (rs : List TimeRange) (lo hi : Int) : Int :=
  rs.foldl (fun acc r =>
    let o := min r.finishSeconds hi - max r.startSeconds lo
    if 0 < o then acc + o else acc) 0

/-- Sums working seconds over `count` days from day number `day`. -/
def workDays (w : WorkingTime) (start finish : Stamp) : Nat → Int → Int → Int
  | 0, _, acc => acc
  | count + 1, day, acc =>
    let lo : Int := if day = start.date.day then start.clock.seconds else 0
    let hi : Int := if day = finish.date.day then finish.clock.seconds else 86400
    workDays w start finish count (day + 1) (acc + overlapSeconds (w.ranges ⟨day⟩) lo hi)

/-- The working hours between two stamps; zero unless the finish is after the start. -/
def work (w : WorkingTime) (start finish : Stamp) : Float :=
  if finish ≤ start then 0.0
  else
    let days := (finish.date.day - start.date.day).toNat + 1
    Float.ofInt (workDays w start finish days start.date.day 0) / 3600.0

/-- Days walked in all before giving up. -/
def maxSpanDays : Nat := 200 * 366

/-- Days in a row without working time before giving up. -/
def maxIdleDays : Nat := 5 * 366

/-- Consumes working time on one day from second `lo`: either the stamp where `remaining`
seconds run out, or the seconds still remaining and whether the day had working time. -/
def consumeDay (d : Date) (lo : Int) : List TimeRange → Int → Bool → Sum (Option Stamp) (Int × Bool)
  | [], remaining, worked => .inr (remaining, worked)
  | r :: rs, remaining, worked =>
    let begin := max r.startSeconds lo
    let available := r.finishSeconds - begin
    if available ≤ 0 then consumeDay d lo rs remaining worked
    else if remaining ≤ available then .inl ((Stamp.atMidnight d).addSeconds? (begin + remaining))
    else consumeDay d lo rs (remaining - available) true

/-- Walks day by day from `d`, at most `fuel` days. -/
def walk (w : WorkingTime) : Nat → Date → Int → Int → Nat → Option Stamp
  | 0, _, _, _, _ => none
  | fuel + 1, d, lo, remaining, idle =>
    match consumeDay d lo (w.ranges d) remaining false with
    | .inl result => result
    | .inr (left, worked) =>
      let idle := if worked then 0 else idle + 1
      if maxIdleDays < idle then none
      else match d.next? with
        | none => none
        | some d' => walk w fuel d' 0 left idle

/-- The stamp reached after `hours` of working time from `start`; the start itself for hours that
are not positive. The hours are rounded to whole seconds. -/
def dateAfter (w : WorkingTime) (start : Stamp) (hours : Float) : Option Stamp :=
  if hours ≤ 0.0 then some start
  else
    let remaining : Int := (hours * 3600.0).round.toInt64.toInt
    w.walk maxSpanDays start.date start.clock.seconds remaining 0

end WorkingTime

end Schedule
