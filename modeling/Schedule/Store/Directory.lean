import Schedule.Store.Csv
import Schedule.Text.Blank
import Schedule.Build.Properties
import Schedule.Build.Resources
import Schedule.Build.Calendars
import Schedule.Build.Tasks
import Schedule.Build.Assignments

/-!
# Reading an export directory of named tables

A database export is a set of tables by name, each a comma-separated table whose first record
names the columns. Column names are trimmed and upper-cased; empty fields are left out, and the
other fields are text. A missing table has no rows. Rows carry the project they belong to in
`PROJID`; a row without a readable project id belongs to every project.

Older databases use other names for some columns; each table's renames are listed here
(`legacyNames`) and applied to every row read. A project is then read in the builder's order:
properties, calendars, resources sorted by id, tasks, links sorted by id, and allocations sorted
by id with the resource skills.

## Main definitions

* `ExportDirectory.rows` — the rows of a table, renamed, for a project or for all.
* `ExportDirectory.listProjects` — project ids and their short names.
* `ExportDirectory.readProject`, `ExportDirectory.readAll`.
-/

namespace Schedule

/-- Tables by name, each as comma-separated text. -/
structure ExportDirectory where
  tables : List (String × String)

namespace ExportDirectory

/-- The column that names a row's project. -/
def projectKey : String := "PROJID"

/-- The current names of columns that older databases name otherwise, by table. -/
def legacyNames : String → List (String × String)
  | "project_summary" => [("STARU", "PROJECT_START"), ("ENE", "PROJECT_END"),
      ("DURATIONHOURS", "DURATION")]
  | "bar" => [("NAMH", "NAME"), ("STARV", "BAR_START"), ("ENF", "BAR_FINISH")]
  | "task" => [("NARE", "NAME"), ("OVERALL_PERCENV_COMPLETE", "OVERALL_PERCENT_COMPLETE"),
      ("CONSTRAINU", "CONSTRAINT_FLAG"), ("CALENDAU", "CALENDAR"),
      ("GIVEN_DURATIONHOURS", "GIVEN_DURATION"), ("WBT", "WBS"), ("STARZ", "LINKABLE_START"),
      ("ENJ", "LINKABLE_FINISH"), ("ACTUAL_DURATIONHOURS", "ACTUAL_DURATION"),
      ("NOTET", "NOTES"), ("DURATION_TIMJ_UNIT", "DURATION_TIME_UNIT"),
      ("NATURAO_ORDER", "NATURAL_ORDER")]
  | "expanded_task" => [("NARE", "NAME"),
      ("OVERALL_PERCENV_COMPLETE", "OVERALL_PERCENT_COMPLETE"),
      ("CONSTRAINU", "CONSTRAINT_FLAG"), ("CALENDAU", "CALENDAR")]
  | "milestone" => [("NARE", "NAME"), ("OVERALL_PERCENV_COMPLETE", "OVERALL_PERCENT_COMPLETE"),
      ("CONSTRAINU", "CONSTRAINT_FLAG"), ("CALENDAU", "CALENDAR"), ("WBT", "WBS"),
      ("NATURAO_ORDER", "NATURAL_ORDER")]
  | "work_pattern" => [("WORK_PATTERNID", "ID"), ("NAMN", "NAME")]
  | "calendar" => [("CALENDARID", "ID"), ("NAMK", "NAME")]
  | "permanent_resource" => [("PERMANENT_RESOURCEID", "ID"), ("NASE", "NAME"),
      ("CALENDAV", "CALENDAR")]
  | "consumable_resource" => [("CONSUMABLE_RESOURCEID", "ID"), ("NASE", "NAME"),
      ("CALENDAV", "CALENDAR")]
  | "link" => [("LINKID", "ID"), ("START_LAG_TIMEHOURS", "START_LAG_TIME"),
      ("END_LAG_TIMEHOURS", "END_LAG_TIME"), ("TYPI", "LINK_KIND")]
  | "permanent_schedul_allocation" => [("PERMANENT_SCHEDUL_ALLOCATIONID", "ID"),
      ("STARZ", "LINKABLE_START"), ("ENJ", "LINKABLE_FINISH"), ("ALLOCATEE_TO", "ALLOCATED_TO"),
      ("EFFORW", "EFFORT"), ("DELAAHOURS", "DELAY"), ("ALLOCATIOP_OF", "ALLOCATION_OF")]
  | "progress_period" => [("PROGRESS_PERIODID", "ID")]
  | "exceptionn" => [("EXCEPTIONNID", "ID")]
  | "task_completed_section" => [("TASK_COMPLETED_SECTIONID", "ID")]
  | "perm_resource_skill" => [("PERM_RESOURCE_SKILLID", "ID")]
  | "exception_assignment" => [("STARU_DATE", "START_DATE"), ("ENE_DATE", "END_DATE")]
  | "time_entry" => [("EXCEPTIOP", "EXCEPTION")]
  | _ => []

/-- A row with legacy column names replaced, fields taken in name order. -/
def rename (names : List (String × String)) (r : Row) : Row :=
  r.fields.foldl (fun acc (k, v) =>
    acc.set (((names.find? (·.1 == k)).map (·.2)).getD k) v) (Row.empty .hours)

/-- The rows of a comma-separated table: each field under its trimmed, upper-cased column name,
empty fields left out. -/
def tableRows (text : String) : Reading (List Row) :=
  match Csv.readCsv text with
  | .error e => .error (.csv e)
  | .ok (header, records) =>
    let names := header.map fun h => (Text.trim h).map Char.toUpper
    .ok (records.map fun fs =>
      Row.ofList .hours (((names.zip fs).filter (!·.2.isEmpty)).map fun (k, v) => (k, .text v)))

/-- The rows of a table, renamed; with a project, only the rows of that project and those
without a readable project id. -/
def rows (db : ExportDirectory) (name : String) (project : Option Int32) : Reading (List Row) :=
  match db.tables.find? (·.1 == name) with
  | none => .ok []
  | some (_, text) => do
    let rs ← tableRows text
    let rs := match project with
      | some id => rs.filter fun (r : Row) => match r.integer? projectKey with
        | some v => v == id
        | none => true
      | none => rs
    pure (rs.map (rename (legacyNames name)))

/-- The project ids of the database and their short names, by id; of rows with the same id the
last counts. -/
def listProjects (db : ExportDirectory) : Reading (List (Int32 × Option String)) := do
  let rs ← db.rows "project_summary" none
  pure (rs.foldl (fun acc r =>
    match r.integer? projectKey with
    | some id => insertProject id (r.string? "SHORT_NAME") acc
    | none => acc) [])
where
  /-- Sets the name of an id in a list sorted by id. -/
  insertProject (id : Int32) (name : Option String) :
      List (Int32 × Option String) → List (Int32 × Option String)
    | [] => [(id, name)]
    | (k, n) :: rest =>
      if id.toInt < k.toInt then (id, name) :: (k, n) :: rest
      else if id == k then (id, name) :: rest
      else (k, n) :: insertProject id name rest

/-- Reads one project. -/
def readProject (db : ExportDirectory) (id : Int32) : Reading Project := do
  let p := some id
  let schema ← db.rows "dodschem" none
  let summary ← db.rows "project_summary" p
  let periods ← db.rows "progress_period" p
  let settings ← db.rows "userr" p
  let b : Builder := {}
  let b ← b.processProperties (schema.head?.bind (·.integer? "SCHVER")) summary.head?
    settings.head? periods
  let exceptionAssignments ← db.rows "exception_assignment" none
  let timeEntries ← db.rows "time_entry" none
  let tables : CalendarTables :=
    { exceptionTypes := ← db.rows "exceptionn" none,
      workPatterns := ← db.rows "work_pattern" none,
      workPatternAssignments := ← db.rows "work_pattern_assignment" none,
      exceptionAssignments := sortRows ["EXCEPTION_ASSIGNMENTID", "ORDF"] exceptionAssignments,
      timeEntries := sortRows ["TIME_ENTRYID", "ORDF"] timeEntries }
  let b := b.processCalendars (← db.rows "calendar" p) tables
  let permanent ← db.rows "permanent_resource" p
  let consumable ← db.rows "consumable_resource" p
  let b := b.processResources (sortRows ["ID"] permanent) (sortRows ["ID"] consumable)
  let taskTables : TaskTables :=
    { bars := ← db.rows "bar" p, expandedTasks := ← db.rows "expanded_task" p,
      tasks := ← db.rows "task" p, milestones := ← db.rows "milestone" p,
      hammocks := ← db.rows "hammock_task" p,
      completedSections := ← db.rows "task_completed_section" p }
  let b ← b.processTasks taskTables
  let b ← b.processPredecessors (sortRows ["ID"] (← db.rows "link" p))
  let allocations ← db.rows "permanent_schedul_allocation" p
  let skills ← db.rows "perm_resource_skill" p
  let b ← b.processAssignments (sortRows ["ID"] allocations) skills
  pure b.result

/-- Reads every project, by ascending id. -/
def readAll (db : ExportDirectory) : Reading (List Project) := do
  (← db.listProjects).mapM fun (id, _) => db.readProject id

end ExportDirectory

end Schedule
