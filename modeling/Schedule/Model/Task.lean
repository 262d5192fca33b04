import Schedule.Model.Custom

/-!
# Tasks

A task of the project: its identity, names, calendar, dates, durations, progress and constraint,
its place in the outline (parent and children, as positions in the project's task list), and
its activity codes and user defined fields. A task with children is a summary of them.
-/

namespace Schedule

/-- The position of a task in the project's task list. -/
abbrev TaskKey := Nat

/-- A scheduling constraint on a task. -/
inductive ConstraintType where
  | asSoonAsPossible
  | asLateAsPossible
  | mustStartOn
  | mustFinishOn
  | startNoEarlierThan
  | startNoLaterThan
  | finishNoEarlierThan
  | finishNoLaterThan
  deriving Repr, Inhabited, DecidableEq

/-- Whether a milestone marks a start or a finish. -/
inductive MilestoneType where
  | start
  | finish
  deriving Repr, Inhabited, DecidableEq

/-- A task of the project. -/
structure Task where
  uniqueId : Option Int32 := none
  id : Option Int32 := none
  outlineLevel : Nat := 0
  name : Option String := none
  barName : Option String := none
  activityId : Option String := none
  notes : Option String := none
  calendarId : Option Int32 := none
  milestone : Bool := false
  milestoneType : Option MilestoneType := none
  start : Option Stamp := none
  finish : Option Stamp := none
  resume : Option Stamp := none
  earlyStart : Option Stamp := none
  earlyFinish : Option Stamp := none
  lateStart : Option Stamp := none
  lateFinish : Option Stamp := none
  actualStart : Option Stamp := none
  actualFinish : Option Stamp := none
  duration : Option Duration := none
  actualDuration : Option Duration := none
  remainingDuration : Option Duration := none
  percentComplete : Option Float := none
  overallPercentComplete : Option Float := none
  constraintType : ConstraintType := .asSoonAsPossible
  constraintDate : Option Stamp := none
  deadline : Option Stamp := none
  baselineStart : Option Stamp := none
  baselineFinish : Option Stamp := none
  baselineDuration : Option Duration := none
  parent : Option TaskKey := none
  children : List TaskKey := []
  activityCodeValues : List Int32 := []
  customFields : CustomFields := []
  deriving Inhabited

/-- A task with children summarises them. -/
def Task.isSummary (t : Task) : Bool := !t.children.isEmpty

end Schedule
