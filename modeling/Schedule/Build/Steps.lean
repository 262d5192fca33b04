import Schedule.Build.Properties
import Schedule.Build.Calendars
import Schedule.Build.Resources
import Schedule.Build.Tasks
import Schedule.Build.Assignments
import Schedule.Build.Fields

/-!
# Driving the builder

The readers hand rows to a builder in a fixed order, but the builder itself accepts its steps in
any order and any number of times. A `Step` is one call with the rows it is given; a run applies
steps one after another and stops at the first that fails.

## Main definitions

* `Step` — one call of the builder with its rows.
* `Builder.step` — applies one step.
* `Builder.steps` — applies steps in turn, stopping at the first failure.
-/

namespace Schedule

/-- One call of the builder, with the rows it is given. -/
inductive Step where
  /-- The schema version, project summary, user settings and progress periods. -/
  | properties (schemaVersion : Option Int32) (summary userSettings : Option Row)
      (periods : List Row)
  /-- Calendar rows and the tables they share. -/
  | calendars (calendars : List Row) (tables : CalendarTables)
  /-- Permanent and consumable resources. -/
  | resources (permanent consumable : List Row)
  /-- The records of the task outline. -/
  | tasks (tables : TaskTables)
  /-- Links between tasks. -/
  | predecessors (links : List Row)
  /-- Allocations and the resource skills they go through. -/
  | assignments (allocations skills : List Row)
  /-- Field definitions and field values. -/
  | userFields (definitions data : List Row)
  /-- Code libraries, their entries and the codes assigned to tasks. -/
  | codeLibraries (libraries entries assignments : List Row)

namespace Builder

/-- Applies one step. -/
def step (b : Builder) : Step → Reading Builder
  | .properties v s u ps => b.processProperties v s u ps
  | .calendars cs t => pure (b.processCalendars cs t)
  | .resources ps cs => pure (b.processResources ps cs)
  | .tasks t => b.processTasks t
  | .predecessors ls => b.processPredecessors ls
  | .assignments as ss => b.processAssignments as ss
  | .userFields ds vs => pure (b.processUserFields ds vs)
  | .codeLibraries ls es as => pure (b.processCodeLibraries ls es as)

/-- Applies steps in turn; the first that fails stops the run. -/
def steps (b : Builder) (ss : List Step) : Reading Builder := ss.foldlM step b

end Builder

end Schedule
