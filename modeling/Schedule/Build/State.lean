import Std.Data.HashMap
import Std.Data.HashSet
import Schedule.Calendar.Working
import Schedule.Field.Order
import Schedule.Error

/-!
# The builder

A project is built from table rows in steps: properties, calendars, resources, tasks, links,
assignments, user defined fields and code libraries. Between steps the builder remembers, besides
the project, which task each exported id became (bars, tasks, milestones, expanded tasks and
completed sections each have their own ids), the progress weight of each task, and the tasks
whose constraint waits on their links.

## Main definitions

* `Builder.taskFor?` — the task of an exported id, looked up among tasks, milestones, bars,
  expanded tasks and completed sections in that order.
* `Builder.workingTime` — the calendar for duration arithmetic: the named calendar if it exists,
  else the first calendar of the project, else the standard week.
-/

namespace Schedule

/-- A project under construction with its lookup tables. -/
structure Builder where
  project : Project := {}
  weights : Std.HashMap Nat (Option Float) := {}
  deferred : Std.HashSet Nat := {}
  bars : Std.HashMap Int TaskKey := {}
  tasks : Std.HashMap Int TaskKey := {}
  milestones : Std.HashMap Int TaskKey := {}
  expandedTasks : Std.HashMap Int TaskKey := {}
  completedSections : Std.HashMap Int TaskKey := {}

namespace Builder

/-- The task of an exported id: tasks first, then milestones, bars, expanded tasks and completed
sections. -/
def taskFor? (b : Builder) (id : Option Int32) : Option TaskKey :=
  match id with
  | none => none
  | some i =>
    let k := i.toInt
    [b.tasks, b.milestones, b.bars, b.expandedTasks, b.completedSections].findSome? (·.get? k)

/-- The calendar for duration arithmetic. -/
def workingTime (b : Builder) (calendarId : Option Int32) : WorkingTime :=
  let id := match calendarId.filter b.project.hasCalendar with
    | some i => some i
    | none => b.project.calendars.head?.map (·.uniqueId)
  match id with
  | some _ => WorkingTime.ofProject b.project id
  | none => WorkingTime.standard

/-- A calendar id kept only when the calendar exists. -/
def knownCalendar (b : Builder) (id : Option Int32) : Option Int32 :=
  id.filter b.project.hasCalendar

/-- Changes the task at a key. -/
def modifyTask (b : Builder) (k : TaskKey) (f : Task → Task) : Builder :=
  { b with project := b.project.modifyTask k f }

/-- The project built so far. -/
def result (b : Builder) : Project := b.project

end Builder

/-- A data error in a step of the builder. -/
def liftData {α : Type} : Except DataError α → Reading α
  | .ok a => .ok a
  | .error e => .error (.data e)

end Schedule
