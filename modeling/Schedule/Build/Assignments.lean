import Schedule.Build.State

/-!
# Assignments

An allocation puts a permanent resource on a task through a resource skill: the allocation names
the task and the skill, the skill names the resource. An allocation whose task, skill or resource
is unknown is skipped; of skills with the same id the last counts. The effort is stored in
seconds; the done part of it follows the allocation's percentage complete.
-/

namespace Schedule

namespace Builder

/-- Adds the assignment of one allocation. -/
def addAllocation (skills : Std.HashMap Int Row) (b : Builder) (row : Row) : Reading Builder :=
  let skill := (row.integer? "ALLOCATION_OF").bind fun id => skills.get? id.toInt
  let resource := (skill.bind (·.integer? "PLAYER")).bind b.project.resource?
  match b.taskFor? (row.integer? "ALLOCATED_TO"), resource with
  | some task, some resource => do
    let percent := (row.percent? "PERCENT_COMPLETE").getD 0.0
    let work := row.work "EFFORT"
    let actual := work.value * percent / 100.0
    let delay ← liftData (row.duration "DELAY")
    let a : Assignment :=
      { uniqueId := row.integer? "ID", task, resourceUniqueId := resource.uniqueId,
        start := row.stamp? "LINKABLE_START", finish := row.stamp? "LINKABLE_FINISH",
        units := some ((row.double? "GIVEN_ALLOCATION").getD 0.0 * 100.0), delay := some delay,
        work := some work, actualWork := some { value := actual, units := work.units },
        remainingWork := some { value := work.value - actual, units := work.units },
        percentWorkComplete := some percent }
    pure { b with project := { b.project with assignments := b.project.assignments ++ [a] } }
  | _, _ => pure b

/-- Reads the allocations in order; a delay that does not decode stops the step. -/
def processAssignments (b : Builder) (allocations skills : List Row) : Reading Builder :=
  let skillIndex := skills.foldl (fun (m : Std.HashMap Int Row) r =>
    match r.integer? "ID" with
    | some id => m.insert id.toInt r
    | none => m) {}
  allocations.foldlM (addAllocation skillIndex) b

end Builder

end Schedule
