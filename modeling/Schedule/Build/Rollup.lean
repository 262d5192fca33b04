import Schedule.Build.State

/-!
# Rolling up the outline

Once the tasks are read, the outline is finished in five passes:

* the calendar most tasks use (the first of equally used ones) becomes the project default and
  tasks drop their reference to it; when most tasks have no calendar, the default is the calendar
  named `Standard`, added with the standard week when missing;
* tasks without an id get ids counting up from the greatest id in use;
* tasks are numbered in outline order from 1 and get their depth, 1 at the top;
* a summary task's actual, early and late dates widen to cover its children; its actual finish
  is set only when every child has one;
* a summary task's progress comes from the leaves under it: complete when it has an actual
  finish, else weighted by the leaves' durations, or averaged over them when no leaf has a
  duration.

Every pass walks the outline at most as deep as there are tasks, since every level of the outline
holds a task of its own.
-/

namespace Schedule

/-- The name of the calendar that stands in as the project default. -/
def standardCalendarName : String := "Standard"

/-- The earlier of two optional stamps; a missing one gives way. -/
def earliest : Option Stamp → Option Stamp → Option Stamp
  | some a, some b => some (Stamp.min a b)
  | a, b => a.or b

/-- The later of two optional stamps; a missing one gives way. -/
def latest : Option Stamp → Option Stamp → Option Stamp
  | some a, some b => some (Stamp.max a b)
  | a, b => a.or b

namespace Project

/-- How many tasks use each calendar, in order of first use. -/
def calendarUse (tasks : List Task) : List (Option Int32 × Nat) :=
  tasks.foldl (fun counts t =>
    if counts.any (·.1 == t.calendarId) then
      counts.map fun (id, n) => if id == t.calendarId then (id, n + 1) else (id, n)
    else counts ++ [(t.calendarId, 1)]) []

/-- Chooses the project's default calendar. -/
def deriveDefaultCalendar (p : Project) : Project :=
  let winner := (calendarUse p.tasks.toList).foldl (fun (w : Option (Option Int32 × Nat)) c =>
    match w with
    | some (_, best) => if best < c.2 then some c else w
    | none => some c) none
  let (p, id) := match winner.bind (·.1) with
    | some id =>
      ({ p with tasks := p.tasks.map fun (t : Task) =>
          if t.calendarId == some id then { t with calendarId := none } else t }, id)
    | none =>
      match p.calendarNamed? standardCalendarName with
      | some c => (p, c.uniqueId)
      | none =>
        let id := p.nextCalendarId
        (p.addCalendar (Calendar.standard id standardCalendarName), id)
  { p with properties := { p.properties with defaultCalendarId := some id } }

/-- Gives every task without an id the next id above the greatest in use; ids wrap at the
word's end. -/
def numberUnidentified (p : Project) : Project :=
  let greatest : Option Int := p.tasks.foldl (fun m t =>
    match t.uniqueId with
    | some u => some (match m with
      | some v => max v u.toInt
      | none => u.toInt)
    | none => m) none
  let (tasks, _) := p.tasks.foldl (fun (acc : Array Task × Int32) t =>
    match t.uniqueId with
    | some _ => (acc.1.push t, acc.2)
    | none =>
      let next := acc.2 + 1
      (acc.1.push { t with uniqueId := some next }, next)) (#[], (greatest.getD 0).toInt32)
  { p with tasks }

/-- Gives a task the next id and its depth. -/
def numberTask (s : Project × Int32) (e : TaskKey × Nat) : Project × Int32 :=
  (s.1.modifyTask e.1 fun t => { t with id := some (s.2 + 1), outlineLevel := e.2 }, s.2 + 1)

/-- Numbers tasks from a stack of keys with their depths, its top first: the task on top gets the
next id and its depth, and its children go on the stack so that the first of them is on top. At
most `fuel` tasks are numbered. -/
def numberStack : Nat → List (TaskKey × Nat) → Project × Int32 → Project × Int32
  | 0, _, s => s
  | _ + 1, [], s => s
  | fuel + 1, (k, level) :: stack, s =>
    let s := numberTask s (k, level)
    numberStack fuel ((s.1.task k).children.map (·, level + 1) ++ stack) s

/-- Numbers all tasks in outline order from 1, with their depth: the stack starts with the
top-level tasks, the first of them on top. -/
def numberOutline (p : Project) : Project :=
  (numberStack (p.tasks.size + 1) (p.childTasks.map (·, 1)) (p, 0)).1

end Project

/-- The dates of a summary task that cover its children. -/
structure SummaryDates where
  actualStart : Option Stamp
  actualFinish : Option Stamp
  earlyStart : Option Stamp
  earlyFinish : Option Stamp
  lateStart : Option Stamp
  lateFinish : Option Stamp

namespace SummaryDates

/-- The dates of a task. -/
def ofTask (t : Task) : SummaryDates :=
  ⟨t.actualStart, t.actualFinish, t.earlyStart, t.earlyFinish, t.lateStart, t.lateFinish⟩

/-- The dates widened to cover a task's. -/
def widen (d : SummaryDates) (t : Task) : SummaryDates :=
  ⟨earliest d.actualStart t.actualStart, latest d.actualFinish t.actualFinish,
    earliest d.earlyStart t.earlyStart, latest d.earlyFinish t.earlyFinish,
    earliest d.lateStart t.lateStart, latest d.lateFinish t.lateFinish⟩

end SummaryDates

namespace Project

/-- Widens the dates of a task and of the summaries under it. -/
def widenDates : Nat → Project → TaskKey → Project
  | 0, p, _ => p
  | fuel + 1, p, k =>
    let children := (p.task k).children
    if children.isEmpty then p
    else
      let (p, dates, finished) := children.foldl (fun (acc : Project × SummaryDates × Nat) c =>
        let p := widenDates fuel acc.1 c
        let t := p.task c
        (p, acc.2.1.widen t, if t.actualFinish.isSome then acc.2.2 + 1 else acc.2.2))
        (p, SummaryDates.ofTask (p.task k), 0)
      p.modifyTask k fun t =>
        { t with actualStart := dates.actualStart, earlyStart := dates.earlyStart,
                 earlyFinish := dates.earlyFinish, lateStart := dates.lateStart,
                 lateFinish := dates.lateFinish,
                 actualFinish := if finished = children.length then dates.actualFinish
                   else t.actualFinish }

/-- Widens the dates of every summary task. -/
def widenSummaryDates (p : Project) : Project :=
  p.childTasks.foldl (widenDates (p.tasks.size + 1)) p

/-- The tasks without children under a task, in outline order; the task itself when it has
none. -/
def leavesUnder : Nat → Project → TaskKey → List TaskKey
  | 0, _, _ => []
  | fuel + 1, p, k =>
    let t := p.task k
    if t.children.isEmpty then [k] else t.children.flatMap (leavesUnder fuel p)

end Project

/-- Sums over the leaves under a summary task. -/
structure ProgressTotals where
  percent : Float := 0.0
  overall : Float := 0.0
  weight : Float := 0.0
  actual : Float := 0.0
  duration : Float := 0.0

namespace Builder

/-- The progress totals of a list of leaves. -/
def progressTotals (b : Builder) (leaves : List TaskKey) : ProgressTotals :=
  leaves.foldl (fun s k =>
    let t := b.project.task k
    { percent := s.percent + t.percentComplete.getD 0.0,
      overall := s.overall + t.overallPercentComplete.getD 0.0,
      weight := s.weight + ((b.weights.get? k).bind id).getD 0.0,
      actual := s.actual + (t.actualDuration.map (·.value)).getD 0.0,
      duration := s.duration + (t.duration.map (·.value)).getD 0.0 }) {}

/-- The progress of a summary task from its leaves. -/
def rollUpTask (fuel : Nat) (b : Builder) (k : TaskKey) : Builder :=
  let t := b.project.task k
  if !t.isSummary then b
  else if t.actualFinish.isSome then
    b.modifyTask k fun t => { t with percentComplete := some 100.0 }
  else
    let leaves := b.project.leavesUnder fuel k
    let s := b.progressTotals leaves
    let weight := if s.weight == 0.0 then 1.0 else s.weight
    b.modifyTask k fun t =>
      let t := { t with overallPercentComplete := some (s.overall / weight) }
      if s.duration == 0.0 then
        if s.percent == 0.0 then t
        else { t with percentComplete := some (s.percent / leaves.length.toFloat) }
      else
        let d := t.duration.getD Duration.zero
        let percent := s.actual / s.duration * 100.0
        let actual := d.value * percent / 100.0
        { t with percentComplete := some percent,
                 actualDuration := some { value := actual, units := d.units },
                 remainingDuration := some { value := d.value - actual, units := d.units } }

/-- The progress of every summary task, in task order. -/
def rollUpProgress (b : Builder) : Builder :=
  let n := b.project.tasks.size
  (List.range n).foldl (rollUpTask (n + 1)) b

end Builder

end Schedule
