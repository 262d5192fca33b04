import Schedule.Model.Calendar
import Schedule.Model.Resource
import Schedule.Model.Relation

/-!
# Projects

A project holds its properties, calendars, resources, tasks (a list whose positions are the task
keys, with the top-level keys listed apart), relations, assignments, activity codes and user
defined field declarations.

A calendar's chain is the calendar followed by its ancestors through their parent ids; the walk
stops at a missing id or at an id already visited, so it is finite whatever the parents are.

## Main definitions

* `Project.addTask` — appends a task under a parent or at the top level and returns its key.
* `Project.calendarChain` — a calendar and its ancestors, cycle-safe.
* `Project.nextCalendarId` — one more than the greatest calendar id, 1 for no calendars.
* `Project.setBaseline` — copies start, finish and duration from a baseline by unique id.
-/

namespace Schedule

/-- The properties of a project file. -/
structure Properties where
  fileApplication : String := "Asta"
  fileType : String := "PP"
  applicationVersion : Option Int32 := none
  name : Option String := none
  author : Option String := none
  start : Option Stamp := none
  finish : Option Stamp := none
  duration : Option Duration := none
  lastSaved : Option Stamp := none
  statusDate : Option Stamp := none
  defaultCalendarId : Option Int32 := none
  deriving Inhabited

/-- A project. -/
structure Project where
  properties : Properties := {}
  calendars : List Calendar := []
  resources : List Resource := []
  tasks : Array Task := #[]
  childTasks : List TaskKey := []
  relations : List Relation := []
  assignments : List Assignment := []
  activityCodes : List ActivityCode := []
  userFields : List UserField := []
  deriving Inhabited

namespace Project

/-- Appends a task under a parent, or at the top level, and returns its key. -/
def addTask (p : Project) (parent : Option TaskKey) : Project × TaskKey :=
  let key := p.tasks.size
  let tasks := p.tasks.push { parent }
  match parent with
  | some k =>
    ({ p with tasks := tasks.modify k fun t => { t with children := t.children ++ [key] } }, key)
  | none => ({ p with tasks, childTasks := p.childTasks ++ [key] }, key)

/-- The task at a key. -/
def task (p : Project) (k : TaskKey) : Task := p.tasks.getD k {}

/-- Changes the task at a key. -/
def modifyTask (p : Project) (k : TaskKey) (f : Task → Task) : Project :=
  { p with tasks := p.tasks.modify k f }

/-- The calendar with a unique id. -/
def calendar? (p : Project) (id : Int32) : Option Calendar :=
  p.calendars.find? (·.uniqueId == id)

/-- Whether a calendar with the id exists. -/
def hasCalendar (p : Project) (id : Int32) : Bool := (p.calendar? id).isSome

/-- The first calendar with a name. -/
def calendarNamed? (p : Project) (name : String) : Option Calendar :=
  p.calendars.find? (·.name == some name)

/-- Adds a calendar at the end. -/
def addCalendar (p : Project) (c : Calendar) : Project := { p with calendars := p.calendars ++ [c] }

/-- Changes the first calendar with an id. -/
def modifyCalendar (p : Project) (id : Int32) (f : Calendar → Calendar) : Project :=
  match p.calendars.findIdx? (·.uniqueId == id) with
  | some i => { p with calendars := p.calendars.modify i f }
  | none => p

/-- One more than the greatest calendar id, 1 for no calendars; the sum wraps at the word's end. -/
def nextCalendarId (p : Project) : Int32 :=
  let greatest : Option Int := p.calendars.foldl (fun m c => some (match m with
    | some v => max v c.uniqueId.toInt
    | none => c.uniqueId.toInt)) none
  (greatest.getD 0).toInt32 + 1

/-- Walks parent ids from a calendar, at most `fuel` steps, skipping ids already seen. -/
def chainFrom (p : Project) : Nat → List Int32 → Option Int32 → List Calendar
  | 0, _, _ => []
  | _, _, none => []
  | fuel + 1, seen, some id =>
    if seen.contains id then []
    else match p.calendar? id with
      | none => []
      | some c => c :: p.chainFrom fuel (id :: seen) c.parentId

/-- A calendar followed by its ancestors, stopping at a missing or repeated id. -/
def calendarChain (p : Project) (id : Option Int32) : List Calendar :=
  p.chainFrom (p.calendars.length + 1) [] id

/-- The resource with a unique id. -/
def resource? (p : Project) (id : Int32) : Option Resource :=
  p.resources.find? (·.uniqueId == id)

/-- Copies start, finish and duration of the baseline's task with the same unique id; of
baseline tasks sharing an id the last counts. -/
def setBaseline (p : Project) (baseline : Project) : Project :=
  { p with tasks := p.tasks.map fun t =>
      match t.uniqueId with
      | none => t
      | some id =>
        match baseline.tasks.toList.reverse.find? (·.uniqueId == some id) with
        | none => t
        | some b => { t with baselineStart := b.start, baselineFinish := b.finish,
                             baselineDuration := b.duration } }

end Project

end Schedule
