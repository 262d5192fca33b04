import Schedule.Build.State

/-!
# Constraints and links

A task's constraint comes from its constraint flag: 1 to 3 constrain its start to the start
constraint date (must start on, start no later than, start no earlier than), 4 to 6 its finish to
the end constraint date, and 8 makes the end constraint date a deadline. Flag 0 with placement 1
means as late as possible for a task with predecessors and start no earlier than otherwise;
predecessors are read later, so such a task starts as start no earlier than and is remembered.

A link becomes a relation from its start task to its end task, with the start lag less the end
lag. A link whose tasks are unknown is skipped; a remembered successor becomes as late as
possible, without a date.

## Main definitions

* `linkLag` — the lag of a link from its start and end lags.
* `Builder.processConstraints`, `Builder.processPredecessors`.
-/

namespace Schedule

/-- The lag of a link: the start lag less the end lag. When only one is nonzero it is taken with
its own units; when both are, the start lag's units are kept. -/
def linkLag (startLag endLag : Duration) : Duration :=
  match startLag.value == 0.0, endLag.value == 0.0 with
  | true, true => Duration.zero
  | false, true => startLag
  | true, false => { value := -endLag.value, units := endLag.units }
  | false, false => { value := startLag.value - endLag.value, units := startLag.units }

namespace Builder

/-- Sets a task's constraint from its record. -/
def processConstraints (b : Builder) (row : Row) (k : TaskKey) : Builder :=
  let startDate := row.stamp? "START_CONSTRAINT_DATE"
  let endDate := row.stamp? "END_CONSTRAINT_DATE"
  let flag := (row.int "CONSTRAINT_FLAG").toInt
  let (b, constraint, date) : Builder × ConstraintType × Option Stamp :=
    if flag = 0 ∧ (row.int "PLACEMENT").toInt = 1 then
      ({ b with deferred := b.deferred.insert k }, .startNoEarlierThan, startDate)
    else match flag with
      | 1 => (b, .mustStartOn, startDate)
      | 2 => (b, .startNoLaterThan, startDate)
      | 3 => (b, .startNoEarlierThan, startDate)
      | 4 => (b, .mustFinishOn, endDate)
      | 5 => (b, .finishNoLaterThan, endDate)
      | 6 => (b, .finishNoEarlierThan, endDate)
      | 8 => (b.modifyTask k fun t => { t with deadline := endDate }, .asSoonAsPossible, none)
      | _ => (b, .asSoonAsPossible, none)
  b.modifyTask k fun t => { t with constraintType := constraint, constraintDate := date }

/-- Adds the relation of one link. -/
def addLink (b : Builder) (row : Row) : Reading Builder :=
  match b.taskFor? (row.integer? "START_TASK"), b.taskFor? (row.integer? "END_TASK") with
  | some predecessor, some successor => do
    let startLag ← liftData (row.duration "START_LAG_TIME")
    let endLag ← liftData (row.duration "END_LAG_TIME")
    let r : Relation :=
      { uniqueId := row.integer? "ID", predecessor, successor,
        relationType := RelationType.ofLinkKind (row.int "LINK_KIND"),
        lag := linkLag startLag endLag }
    let b := { b with project := { b.project with relations := b.project.relations ++ [r] } }
    if b.deferred.contains successor then
      pure (b.modifyTask successor fun t =>
        { t with constraintType := .asLateAsPossible, constraintDate := none })
    else pure b
  | _, _ => pure b

/-- Reads the links in order; a lag that does not decode stops the step. -/
def processPredecessors (b : Builder) (rows : List Row) : Reading Builder :=
  rows.foldlM addLink b

end Builder

end Schedule
