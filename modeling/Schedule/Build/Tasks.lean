import Schedule.Build.Outline
import Schedule.Build.Links
import Schedule.Build.Rollup
import Schedule.Text.Split

/-!
# Tasks

The outline of task records becomes the project's tasks. A bar that holds nothing, or only
hammocks, gives no task. A bar holding a single task or milestone without children is replaced by
that record, which takes the bar's name; any other bar becomes a summary task whose children are
read under it. A leaf takes the name of the bar above it when its own is blank, and always
records that bar's name.

A task's stored duration is unreliable, so it is rebuilt: the actual duration plus the remaining
time from its resume (or start) to its finish, in working hours of its calendar, or in elapsed
hours for the elapsed time units 10 to 18. A task more than 99 % complete overall has no remaining
time. Early and late finishes missing from the record are found by working the duration forward
from the early and late starts.

## Main definitions

* `TaskTables` — the records that make up the task outline.
* `Builder.processTasks` — reads the tasks and rolls up the outline.
-/

namespace Schedule

/-- The records that make up the task outline. -/
structure TaskTables where
  bars : List Row := []
  expandedTasks : List Row := []
  tasks : List Row := []
  milestones : List Row := []
  hammocks : List Row := []
  completedSections : List Row := []

/-- The marker that stands for a line break in notes. -/
def lineBreakMarker : String := "|@|||"

/-- Whether an optional text is missing or empty. -/
def isBlankText : Option String → Bool
  | none => true
  | some s => s.isEmpty

/-- A field of a bar, preferring the one merged from its expanded task. -/
def expandedField? (r : Row) (name : String) : Option Value :=
  (r.value? ("_" ++ name)).or (r.value? name)

/-- Whether a duration time unit is one of the elapsed units, year down to second. -/
def isElapsedUnit (unit : Int32) : Bool := 10 ≤ unit.toInt ∧ unit.toInt ≤ 18

/-- The notes of a record with line break markers replaced; empty notes are none. -/
def notesOf (r : Row) : Option String :=
  match r.string? "NOTES" with
  | some n => if n.isEmpty then none
    else some (Text.replaceAll lineBreakMarker "\n" n)
  | none => none

namespace Builder

/-- Fills a task from a task record. -/
def populateTask (b : Builder) (k : TaskKey) (row : Row) : Reading Builder := do
  let calendarId := b.knownCalendar (row.integer? "CALENDAR")
  let start := row.stamp? "LINKABLE_START"
  let finish := row.stamp? "LINKABLE_FINISH"
  let resume := row.stamp? "RESUME"
  let actualDuration ← liftData (row.duration "ACTUAL_DURATION")
  let overall := row.percent? "OVERALL_PERCENT_COMPLETE"
  let complete : Bool := match overall with
    | some pct => pct > 99.0
    | none => false
  let remaining :=
    if complete then Duration.zero
    else match resume.or start, finish with
      | some s, some f =>
        if isElapsedUnit (row.int "DURATION_TIME_UNIT") then
          Duration.elapsedHours (Float.ofInt (f.wholeHoursSince s))
        else Duration.hours ((b.workingTime calendarId).work s f)
      | _, _ => Duration.zero
  let duration := Duration.hours (actualDuration.value + remaining.value)
  let earlyStart := row.stamp? "EARLY_START_DATE"
  let lateStart := row.stamp? "LATE_START_DATE"
  let calendar := b.workingTime calendarId
  let earlyFinish := (row.stamp? "EARLY_END_DATE_RS").or
    (earlyStart.bind fun d => calendar.dateAfter d duration.value)
  let lateFinish := (row.stamp? "LATE_END_DATE_RS").or
    (lateStart.bind fun d => calendar.dateAfter d duration.value)
  let b := { b with weights := b.weights.insert k (row.double? "OVERALL_PERCENT_COMPL_WEIGHT") }
  let b := b.modifyTask k fun t =>
    let t := { t with
      uniqueId := row.integer? "TASKID", resume, earlyStart, lateStart, earlyFinish, lateFinish,
      name := row.string? "NAME", notes := notesOf row,
      activityId := row.string? "UNIQUE_TASK_ID", calendarId, start, finish,
      overallPercentComplete := overall, remainingDuration := some remaining,
      duration := some duration, actualDuration := some actualDuration }
    if complete then
      { t with actualDuration := some duration, actualStart := start, actualFinish := finish,
               percentComplete := some 100.0 }
    else if duration.value > 0.0 && actualDuration.value > 0.0 then
      let percent := actualDuration.value / duration.value * 100.0
      { t with actualStart := start, percentComplete := some percent,
               actualFinish := if percent > 99.0 then finish else t.actualFinish }
    else { t with percentComplete := some 0.0 }
  pure (b.processConstraints row k)

/-- Fills a task from a milestone record. -/
def populateMilestone (b : Builder) (k : TaskKey) (row : Row) : Builder :=
  let calendarId := b.knownCalendar (row.integer? "CALENDAR")
  let b := { b with weights := b.weights.insert k (row.double? "OVERALL_PERCENT_COMPL_WEIGHT") }
  let date := row.stamp? "GIVEN_DATE_TIME"
  let earlyStart := row.stamp? "EARLY_START_DATE"
  let lateStart := row.stamp? "LATE_START_DATE"
  let completed := row.boolean "COMPLETED"
  let b := b.modifyTask k fun t =>
    { t with
      milestone := true, uniqueId := row.integer? "MILESTONEID", start := date, finish := date,
      milestoneType := some (match row.integer? "MILESTONE_TYPE" with
        | none => .finish
        | some v => if v.toInt = 1 then .finish else .start),
      earlyStart, lateStart,
      earlyFinish := (row.stamp? "EARLY_END_DATE_RS").or earlyStart,
      lateFinish := (row.stamp? "LATE_END_DATE_RS").or lateStart,
      name := row.string? "NAME", activityId := row.string? "UNIQUE_TASK_ID", calendarId,
      duration := some Duration.zero,
      percentComplete := some (if completed then 100.0 else 0.0),
      actualStart := if completed then date else t.actualStart,
      actualFinish := if completed then date else t.actualFinish }
  b.processConstraints row k

/-- Fills a task from a leaf record, naming it after the bar above when its name is blank. -/
def populateLeaf (b : Builder) (k : TaskKey) (parentName : Option String) (row : Row) :
    Reading Builder := do
  let b ← match row.integer? "TASKID", row.integer? "MILESTONEID" with
    | some id, _ => do
      let b ← b.populateTask k row
      pure { b with tasks := b.tasks.insert id.toInt k }
    | none, some id =>
      let b := b.populateMilestone k row
      pure { b with milestones := b.milestones.insert id.toInt k }
    | none, none =>
      pure (b.modifyTask k fun t =>
        { t with uniqueId := row.integer? "BARID", name := row.string? "NAME" })
  pure (b.modifyTask k fun t =>
    { t with name := if isBlankText t.name then parentName else t.name, barName := parentName })

/-- Fills a summary task from a bar. -/
def populateBar (b : Builder) (k : TaskKey) (row : Row) (children : List RowTree) : Builder :=
  let calendarId := b.knownCalendar ((row.integer? "_CALENDAR").or
    ((children.head?.map RowTree.row).bind (·.integer? "CALENDAR")))
  let name := row.string? "NAME"
  let name := if isBlankText name then
      let expandedName := row.string? "_NAME"
      if isBlankText expandedName then name else expandedName
    else name
  let start := row.stamp? "BAR_START"
  let finish := row.stamp? "BAR_FINISH"
  let duration := match start, finish with
    | some s, some f => (b.workingTime calendarId).work s f
    | _, _ => 0.0
  b.modifyTask k fun t =>
    { t with uniqueId := row.integer? "BARID", start, finish, name,
             activityId := (expandedField? row "UNIQUE_TASK_ID").map Value.display, calendarId,
             duration := some (Duration.hours duration) }

end Builder

/-- Whether a bar gives no task: it holds nothing, or only hammocks. -/
def isEmptyOrHammockBar (children : List RowTree) : Bool :=
  children.isEmpty || children.all fun c => (c.row.integer? "HAMMOCK_TASKID").isSome

/-- Whether a bar is replaced by its only child, a task or milestone without children. -/
def replacedByChild : List RowTree → Option Row
  | [.node r []] =>
    if (r.integer? "TASKID").isSome || (r.integer? "MILESTONEID").isSome then some r else none
  | _ => none

namespace Builder

mutual

/-- Creates the tasks of a list of outline trees under a parent. -/
def createTasks (parent : Option TaskKey) (parentName : Option String) (b : Builder) :
    List RowTree → Reading Builder
  | [] => pure b
  | t :: rest => do
    let b ← createTask parent parentName b t
    createTasks parent parentName b rest

/-- Creates the task of one outline tree, and those under it. -/
def createTask (parent : Option TaskKey) (parentName : Option String) (b : Builder) :
    RowTree → Reading Builder
  | .node row children => do
    let barId := row.integer? "BARID"
    if barId.isSome && isEmptyOrHammockBar children then pure b
    else
      let (project, k) := b.project.addTask parent
      let b := { b with project }
      let b := match (expandedField? row "EXPANDED_TASKID").bind Value.asInteger? with
        | some id => { b with expandedTasks := b.expandedTasks.insert id.toInt k }
        | none => b
      match barId with
      | some bar => do
        let b ← match replacedByChild children with
          | some child => b.populateLeaf k (row.string? "NAME") child
          | none => do
            let b := b.populateBar k row children
            createTasks (some k) (b.project.task k).name b children
        pure { b with bars := b.bars.insert bar.toInt k }
      | none => b.populateLeaf k parentName row

end

/-- Remembers the task each completed section belongs to. -/
def addCompletedSections (b : Builder) (rows : List Row) : Builder :=
  rows.foldl (fun b r =>
    match r.integer? "ID", b.taskFor? (r.integer? "TASK") with
    | some id, some k => { b with completedSections := b.completedSections.insert id.toInt k }
    | _, _ => b) b

/-- Reads the tasks and rolls up the outline. -/
def processTasks (b : Builder) (t : TaskTables) : Reading Builder := do
  let roots := buildRowHierarchy t.bars t.expandedTasks t.tasks t.milestones t.hammocks
  let b ← createTasks none none b roots
  let b := b.addCompletedSections t.completedSections
  let p := b.project.deriveDefaultCalendar.numberUnidentified.numberOutline
  let b := { b with project := p.widenSummaryDates }
  pure b.rollUpProgress

end Builder

end Schedule
