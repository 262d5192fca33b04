import Schedule.Json.Value
import Schedule.Model.Project
import Schedule.Time.Text

/-!
# The interchange form of a project

Every part of a project is written as a JSON object with snake-case keys. An optional field is
left out when absent; lists of custom field values and activity code values are left out when
empty; every other list is always written. Stamps, dates and times use their interchange text,
doubles their shortest digits (`null` when not finite), and enumerations their names.
-/

namespace Schedule

namespace Json

/-- Keeps a field only when its value is present. -/
def field? {α : Type} (key : String) (f : α → Json) : Option α → List (String × Json)
  | some a => [(key, f a)]
  | none => []

/-- A stamp. -/
def stamp (t : Stamp) : Json := .string t.text

/-- A 32-bit integer. -/
def int32 (n : Int32) : Json := int n.toInt

/-- The name of a unit of hours. -/
def unitsName : TimeUnit → String
  | .hours => "Hours"
  | .elapsedHours => "ElapsedHours"

/-- A duration. -/
def duration (d : Duration) : Json :=
  .object [("value", float d.value), ("units", .string (unitsName d.units))]

/-- A span of hours. -/
def timeRange (r : TimeRange) : Json :=
  .object [("start", .string r.start.text), ("end", .string r.finish.text)]

/-- The name of a day type. -/
def dayTypeName : DayType → String
  | .working => "Working"
  | .nonWorking => "NonWorking"
  | .inherited => "Default"

/-- A day of a week. -/
def calendarDay (d : CalendarDay) : Json :=
  .object ([("day_type", .string (dayTypeName d.dayType))] ++
    field? "hours" (fun hs => .array (hs.map timeRange)) d.hours)

/-- A range of dates. -/
def dateRange (r : DateRange) : Json :=
  .object [("start", .string r.start.text), ("end", .string r.finish.text)]

/-- A work week. -/
def workWeek (w : WorkWeek) : Json :=
  .object (field? "name" .string w.name ++ field? "range" dateRange w.range ++
    [("days", .array (w.days.map calendarDay))])

/-- A calendar. -/
def calendar (c : Calendar) : Json :=
  .object ([("unique_id", int32 c.uniqueId)] ++ field? "name" .string c.name ++
    field? "parent_id" int32 c.parentId ++
    [("week", workWeek c.week), ("work_weeks", .array (c.workWeeks.map workWeek)),
     ("exceptions", .array (c.exceptions.map fun e =>
        .object [("range", dateRange e.range), ("hours", .array (e.hours.map timeRange))]))])

/-- A custom field value, tagged by its type. -/
def customValue : CustomValue → Json
  | .boolean b => .object [("Boolean", .bool b)]
  | .integer n => .object [("Integer", int32 n)]
  | .numeric x => .object [("Numeric", float x)]
  | .text s => .object [("Text", .string s)]
  | .date t => .object [("Date", stamp t)]
  | .duration d => .object [("Duration", duration d)]

/-- Custom field values keyed by field id; left out when empty. -/
def customFields (cf : CustomFields) : List (String × Json) :=
  if cf.isEmpty then []
  else [("custom_fields", .object (cf.map fun (k, v) => (toString k.toInt, customValue v)))]

/-- The properties of a project. -/
def properties (p : Properties) : Json :=
  .object ([("file_application", .string p.fileApplication), ("file_type", .string p.fileType)] ++
    field? "application_version" int32 p.applicationVersion ++
    field? "name" .string p.name ++ field? "author" .string p.author ++
    field? "start" stamp p.start ++ field? "finish" stamp p.finish ++
    field? "duration" duration p.duration ++ field? "last_saved" stamp p.lastSaved ++
    field? "status_date" stamp p.statusDate ++
    field? "default_calendar_id" int32 p.defaultCalendarId)

/-- A resource. -/
def resource (r : Resource) : Json :=
  .object ([("unique_id", int32 r.uniqueId),
    ("resource_type", .string (match r.resourceType with
      | .work => "Work"
      | .material => "Material"))] ++
    field? "name" .string r.name ++ field? "email" .string r.email ++
    field? "initials" .string r.initials ++ [("generic", .bool r.generic)] ++
    field? "calendar_id" int32 r.calendarId ++ field? "unit_of_measure" .string r.unitOfMeasure ++
    field? "standard_rate" float r.standardRate ++
    [("availability", .array (r.availability.map fun a =>
      .object (field? "from" stamp a.start ++ field? "to" stamp a.finish ++
        [("units", float a.units)])))] ++
    customFields r.customFields)

/-- The name of a constraint type. -/
def constraintName : ConstraintType → String
  | .asSoonAsPossible => "AsSoonAsPossible"
  | .asLateAsPossible => "AsLateAsPossible"
  | .mustStartOn => "MustStartOn"
  | .mustFinishOn => "MustFinishOn"
  | .startNoEarlierThan => "StartNoEarlierThan"
  | .startNoLaterThan => "StartNoLaterThan"
  | .finishNoEarlierThan => "FinishNoEarlierThan"
  | .finishNoLaterThan => "FinishNoLaterThan"

/-- A task. -/
def task (t : Task) : Json :=
  .object (field? "unique_id" int32 t.uniqueId ++ field? "id" int32 t.id ++
    [("outline_level", int t.outlineLevel)] ++
    field? "name" .string t.name ++ field? "bar_name" .string t.barName ++
    field? "activity_id" .string t.activityId ++ field? "notes" .string t.notes ++
    field? "calendar_id" int32 t.calendarId ++ [("milestone", .bool t.milestone)] ++
    field? "milestone_type" (fun m => .string (match m with
      | .start => "Start"
      | .finish => "Finish")) t.milestoneType ++
    field? "start" stamp t.start ++ field? "finish" stamp t.finish ++
    field? "resume" stamp t.resume ++ field? "early_start" stamp t.earlyStart ++
    field? "early_finish" stamp t.earlyFinish ++ field? "late_start" stamp t.lateStart ++
    field? "late_finish" stamp t.lateFinish ++ field? "actual_start" stamp t.actualStart ++
    field? "actual_finish" stamp t.actualFinish ++
    field? "duration" duration t.duration ++ field? "actual_duration" duration t.actualDuration ++
    field? "remaining_duration" duration t.remainingDuration ++
    field? "percent_complete" float t.percentComplete ++
    field? "overall_percent_complete" float t.overallPercentComplete ++
    [("constraint_type", .string (constraintName t.constraintType))] ++
    field? "constraint_date" stamp t.constraintDate ++ field? "deadline" stamp t.deadline ++
    field? "baseline_start" stamp t.baselineStart ++
    field? "baseline_finish" stamp t.baselineFinish ++
    field? "baseline_duration" duration t.baselineDuration ++
    field? "parent" int t.parent ++
    [("children", .array (t.children.map fun (k : Nat) => int k))] ++
    (if t.activityCodeValues.isEmpty then []
     else [("activity_code_values", .array (t.activityCodeValues.map int32))]) ++
    customFields t.customFields)

/-- The name of a relation type. -/
def relationName : RelationType → String
  | .finishStart => "FinishStart"
  | .startStart => "StartStart"
  | .finishFinish => "FinishFinish"
  | .startFinish => "StartFinish"

/-- A relation. -/
def relation (r : Relation) : Json :=
  .object (field? "unique_id" int32 r.uniqueId ++
    [("predecessor", int r.predecessor), ("successor", int r.successor),
     ("relation_type", .string (relationName r.relationType)), ("lag", duration r.lag)])

/-- An assignment; its unique id is always written. -/
def assignment (a : Assignment) : Json :=
  .object ([("unique_id", opt int32 a.uniqueId), ("task", int a.task),
    ("resource_unique_id", int32 a.resourceUniqueId)] ++
    field? "start" stamp a.start ++ field? "finish" stamp a.finish ++
    field? "units" float a.units ++ field? "delay" duration a.delay ++
    field? "work" duration a.work ++ field? "actual_work" duration a.actualWork ++
    field? "remaining_work" duration a.remainingWork ++
    field? "percent_work_complete" float a.percentWorkComplete ++
    customFields a.customFields)

/-- An activity code and its values. -/
def activityCode (c : ActivityCode) : Json :=
  .object ([("unique_id", int32 c.uniqueId), ("sequence_number", int32 c.sequenceNumber)] ++
    field? "name" .string c.name ++
    [("values", .array (c.values.map fun v =>
      .object ([("unique_id", int32 v.uniqueId), ("sequence_number", int32 v.sequenceNumber)] ++
        field? "name" .string v.name ++ field? "description" .string v.description ++
        field? "parent_unique_id" int32 v.parentUniqueId)))])

/-- The declaration of a user defined field. -/
def userField (f : UserField) : Json :=
  .object [("unique_id", int32 f.uniqueId), ("name", .string f.name),
    ("field_class", .string (match f.fieldClass with
      | .task => "Task"
      | .resource => "Resource"
      | .assignment => "Assignment")),
    ("data_type", .string (match f.dataType with
      | .boolean => "Boolean"
      | .integer => "Integer"
      | .numeric => "Numeric"
      | .text => "Text"
      | .date => "Date"
      | .duration => "Duration"))]

/-- A project. -/
def project (p : Project) : Json :=
  .object [("properties", properties p.properties),
    ("calendars", .array (p.calendars.map calendar)),
    ("resources", .array (p.resources.map resource)),
    ("tasks", .array (p.tasks.toList.map task)),
    ("child_tasks", .array (p.childTasks.map fun (k : Nat) => int k)),
    ("relations", .array (p.relations.map relation)),
    ("assignments", .array (p.assignments.map assignment)),
    ("activity_codes", .array (p.activityCodes.map activityCode)),
    ("user_defined_fields", .array (p.userFields.map userField))]

end Json

end Schedule
