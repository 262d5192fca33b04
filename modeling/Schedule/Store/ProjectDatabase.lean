import Schedule.Sql.Script
import Schedule.Text.Utf8
import Schedule.Store.Packed
import Schedule.Build.Properties
import Schedule.Build.Resources
import Schedule.Build.Calendars
import Schedule.Build.Tasks
import Schedule.Build.Assignments
import Schedule.Build.Fields
import Schedule.Export.Reader

/-!
# Reading projects from a database file

A database file holds several projects; most tables carry the project of each row in `projid`.
Column names are upper-cased; null values are left out and, of two columns of the same name, the
first counts. Integers beyond 32 bits are read as doubles, and bytes as text, invalid UTF-8
replaced (`Text.decodeLossy`). Rows read this way store durations as packed text.

A calendar's dated work patterns and exceptions, and a work pattern's shifts, are packed into
strings (see `Schedule.Packed`). User defined fields and code libraries are read only when their
tables exist. A project whose user settings name a current baseline that exists as another
project gets that baseline's task dates and durations.

## Main definitions

* `Sql.Database.readProject`, `Sql.Database.readWithBaseline`, `Sql.Database.readAll`,
  `Sql.Database.listProjects`.
-/

namespace Schedule

namespace Sql.Database

/-- A database value as a record value: null is left out, integers beyond 32 bits become
doubles, bytes become text. -/
def recordValue : SqlValue → Option Value
  | .null => none
  | .integer n =>
    if Number.int32Min ≤ n ∧ n ≤ Number.int32Max then some (.integer (Int32.ofInt n))
    else some (.double (intToFloat n))
  | .real x => some (.double x)
  | .text s => some (.text s)
  | .blob b => some (.text (Text.bytesText b))

/-- A result row as a record with upper-cased names, the first of equal names counting. -/
def toRecord (fields : List (String × SqlValue)) : Row :=
  fields.foldl (fun (r : Row) (name, v) =>
    let name := name.map Char.toUpper
    match recordValue v with
    | some x => if r.contains name then r else r.set name x
    | none => r) (Row.empty .packed)

/-- The records of a query, with its parameters. A failure is the database's message, with the
query's text and offset when it points into the query. -/
def records (db : Database) (sql : String) (params : List SqlValue) : Reading (List Row) :=
  match db.query sql params with
  | .ok (names, rows) => .ok (rows.map fun values => toRecord (names.zip values))
  | .error e => .error (.query (.failed (failureText sql 0 e)))

/-- The records of a query about one project. -/
def ofProject (db : Database) (sql : String) (project : Int32) : Reading (List Row) :=
  db.records sql [.integer project.toInt]

/-- The records of a query of a table that only some files have; none when it is missing. -/
def optionalRecords (db : Database) (table sql : String) (params : List SqlValue) :
    Reading (List Row) :=
  if db.tableExists table then db.records sql params else .ok []

/-- Packed strings of a column, unpacked for each row that has both an id and the string. -/
def unpack (db : Database) (sql column : String)
    (unpackOne : Int32 → String → Reading (List Row)) : Reading (List Row) := do
  let rows ← db.records sql []
  let parts ← rows.mapM fun r =>
    match r.integer? "ID", r.string? column with
    | some id, some data => unpackOne id data
    | _, _ => .ok []
  pure parts.flatten

/-- Reads one project. -/
def readProject (db : Database) (id : Int32) : Reading Project := do
  let schema ← db.records "select * from dodschem" []
  let summary ← db.ofProject "select * from project_summary where projid = ?1" id
  let periods ← db.ofProject "select * from progress_period where projid = ?1" id
  let settings ← db.ofProject "select * from userr where projid = ?1" id
  let b : Builder := {}
  let b ← b.processProperties (schema.head?.bind (·.integer? "SCHVER")) summary.head?
    settings.head? periods
  let assignments ← db.unpack "select id, work_patterns from calendar" "WORK_PATTERNS"
    Packed.workPatternAssignmentRows
  let exceptions ← db.unpack "select id, exceptions from calendar" "EXCEPTIONS"
    Packed.exceptionAssignmentRows
  let entries ← db.unpack "select id, shifts from work_pattern" "SHIFTS" Packed.timeEntryRows
  let tables : CalendarTables :=
    { exceptionTypes := ← db.records "select * from exceptionn" [],
      workPatterns := ← db.records "select * from work_pattern" [],
      workPatternAssignments := assignments, exceptionAssignments := exceptions,
      timeEntries := entries }
  let b := b.processCalendars
    (← db.ofProject "select * from calendar where projid = ?1 order by id" id) tables
  let permanent ← db.ofProject "select * from permanent_resource where projid = ?1 order by id" id
  let consumable ← db.ofProject "select * from consumable_resource where projid = ?1 order by id" id
  let b := b.processResources permanent consumable
  let taskTables : TaskTables :=
    { bars := ← db.ofProject "select id as barid, * from bar where projid = ?1" id,
      expandedTasks :=
        ← db.ofProject "select id as expanded_taskid, * from expanded_task where projid = ?1" id,
      tasks := ← db.ofProject "select id as taskid, * from task where projid = ?1" id,
      milestones := ← db.ofProject "select id as milestoneid, * from milestone where projid = ?1" id,
      hammocks :=
        ← db.ofProject "select id as hammock_taskid, * from hammock_task where projid = ?1" id,
      completedSections :=
        ← db.ofProject "select * from task_completed_section where projid = ?1 order by id" id }
  let b ← b.processTasks taskTables
  let b ← b.processPredecessors (← db.ofProject "select * from link where projid = ?1 order by id" id)
  let allocations ←
    db.ofProject "select * from permanent_schedul_allocation where projid = ?1 order by id" id
  let skills ← db.ofProject "select * from perm_resource_skill where projid = ?1" id
  let b ← b.processAssignments allocations skills
  let definitions ← db.optionalRecords "udf_defn" "select * from udf_defn" []
  let data ← db.optionalRecords "udf_data" "select * from udf_data" []
  let b := b.processUserFields definitions data
  let project := [SqlValue.integer id.toInt]
  let libraries ← db.optionalRecords "code_library"
    "select * from code_library where projid = ?1" project
  let libraryEntries ← db.optionalRecords "code_library_entry"
    "select * from code_library_entry where projid = ?1" project
  let codes ← db.optionalRecords "code_library_assignabl_codes"
    "select * from code_library_assignabl_codes where projid = ?1" project
  let b := b.processCodeLibraries libraries libraryEntries codes
  pure b.result

/-- The query that finds the baseline project a project's user settings name as current. -/
def baselineQuery : String :=
  "select baseline_summary.baseline_project_id from baseline_summary " ++
    "join userr on userr.projid = baseline_summary.projid and " ++
    "userr.current_baseline_id = baseline_summary.baseline_id " ++
    "join project_summary on project_summary.projid = baseline_summary.baseline_project_id " ++
    "where baseline_summary.projid = ?1"

/-- The baseline project recorded for a project, when it is another project. -/
def baselineProject? (db : Database) (id : Int32) : Reading (Option Int32) := do
  if !db.tableExists "baseline_summary" then return none
  let rows ← db.ofProject baselineQuery id
  pure ((rows.head?.bind (·.integer? "BASELINE_PROJECT_ID")).filter (· != id))

/-- Reads a project with its current baseline. -/
def readWithBaseline (db : Database) (id : Int32) : Reading Project := do
  let p ← db.readProject id
  match ← db.baselineProject? id with
  | some b => pure (p.setBaseline (← db.readProject b))
  | none => pure p

/-- The projects of the file and their short names, by id; of equal ids the last counts. -/
def listProjects (db : Database) : Reading (List (Int32 × Option String)) := do
  let rows ← db.records "select projid, short_name from project_summary" []
  pure (rows.foldl (fun acc r =>
    match r.integer? "PROJID" with
    | some id => insertById id (r.string? "SHORT_NAME") (acc.filter (·.1 != id))
    | none => acc) [])
where
  /-- Inserts an entry into a list sorted by id. -/
  insertById (id : Int32) (name : Option String) :
      List (Int32 × Option String) → List (Int32 × Option String)
    | [] => [(id, name)]
    | (k, n) :: rest =>
      if id.toInt < k.toInt then (id, name) :: (k, n) :: rest
      else (k, n) :: insertById id name rest

/-- Reads every project with its baseline, by ascending id. -/
def readAll (db : Database) : Reading (List Project) := do
  let rows ← db.records "select projid from project_summary order by projid" []
  (rows.filterMap (·.integer? "PROJID")).mapM db.readWithBaseline

end Sql.Database

/-- The sixteen bytes a database file starts with. -/
def databaseHeader : List UInt8 := "SQLite format 3".toUTF8.toList ++ [0]

/-- Reads a file's bytes: a database file goes to the database reader, which finds none in a
file that is only the header and what is not a database; anything else is a text export. -/
def readFileBytes (bytes : ByteArray) : Reading Project :=
  if bytes.toList.take 16 == databaseHeader then .error (.query .notADatabase)
  else Export.readExport {} bytes

end Schedule
