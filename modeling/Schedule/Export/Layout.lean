import Schedule.Export.Order9006

/-!
# Layouts of the text export

A file version writes each table under a record type number, with the table's columns in an
order of its own. A `TableLayout` is that order: one slot per written column, holding the
column's definition from the catalog, or nothing for a column that is read and dropped. A
`FileFormat` gathers the layouts of one version by record type, and says whether its timestamps
count days and seconds from the export's epoch.

Version 9006 is built in (`FileFormat.v9006`); other versions are described by their callers.

## Main definitions

* `TableLayout.ofOrder` — a table's columns in a written order; names the catalog lacks leave an
  empty slot.
* `TableLayout.ofCatalog` — a table's columns in catalog order.
* `FileFormat.v9006` — the layout of version 9006.
-/

namespace Schedule.Export

/-- The columns of a table in the order a file version writes them. -/
structure TableLayout where
  name : String
  columns : List (Option ColumnDef)
  deriving Repr, Inhabited

namespace TableLayout

/-- The catalog's columns laid out in a written order; a name the catalog lacks leaves an empty
slot. -/
def ofOrder (name : String) (catalog : List ColumnDef) (order : List String) : TableLayout :=
  { name, columns := order.map fun c => catalog.find? (·.name == c) }

/-- The catalog's columns in catalog order. -/
def ofCatalog (name : String) (catalog : List ColumnDef) : TableLayout :=
  { name, columns := catalog.map some }

end TableLayout

/-- The layouts of one file version, by record type. -/
structure FileFormat where
  version : Int32
  epochDates : Bool := false
  tables : List (Int32 × TableLayout) := []
  deriving Repr, Inhabited

namespace FileFormat

/-- The format with the layout of a record type set, replacing an earlier one. -/
def withTable (f : FileFormat) (recordType : Int32) (t : TableLayout) : FileFormat :=
  { f with tables := (f.tables.filter (·.1 != recordType)) ++ [(recordType, t)] }

/-- The layout of a record type. -/
def table? (f : FileFormat) (recordType : Int32) : Option TableLayout :=
  (f.tables.find? (·.1 == recordType)).map (·.2)

/-- The layout written by version 9006. -/
def v9006 : FileFormat :=
  { version := 9006, epochDates := false, tables := [
    (2, .ofOrder "PROJECT_SUMMARY" projectSummaryColumns order9006ProjectSummary),
    (7, .ofOrder "BAR" barColumns order9006Bar),
    (11, .ofOrder "CALENDAR" calendarColumns order9006Calendar),
    (12, .ofOrder "EXCEPTIONN" exceptionnColumns order9006Exceptionn),
    (14, .ofOrder "EXCEPTION_ASSIGNMENT" exceptionAssignmentColumns order9006ExceptionAssignment),
    (15, .ofOrder "TIME_ENTRY" timeEntryColumns order9006TimeEntry),
    (17, .ofOrder "WORK_PATTERN" workPatternColumns order9006WorkPattern),
    (18, .ofCatalog "TASK_COMPLETED_SECTION" taskCompletedSectionColumns),
    (21, .ofOrder "TASK" taskColumns order9006Task),
    (22, .ofOrder "MILESTONE" milestoneColumns order9006Milestone),
    (23, .ofOrder "EXPANDED_TASK" expandedTaskColumns order9006ExpandedTask),
    (24, .ofCatalog "HAMMOCK_TASK" hammockTaskColumns),
    (25, .ofOrder "LINK" linkColumns order9006Link),
    (61, .ofOrder "CONSUMABLE_RESOURCE" consumableResourceColumns order9006ConsumableResource),
    (62, .ofOrder "PERMANENT_RESOURCE" permanentResourceColumns order9006PermanentResource),
    (63, .ofOrder "PERM_RESOURCE_SKILL" permResourceSkillColumns order9006PermanentResourceSkill),
    (67, .ofOrder "PERMANENT_SCHEDUL_ALLOCATION" permanentSchedulAllocationColumns
      order9006PermanentScheduleAllocation),
    (190, .ofOrder "WBS_ENTRY" wbsEntryColumns order9006WbsEntry)] }

end FileFormat

end Schedule.Export
