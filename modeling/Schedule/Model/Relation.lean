import Schedule.Model.Task

/-!
# Relations between tasks

A relation makes a successor wait for a predecessor, start or finish against start or finish,
with a lag. The export numbers the four kinds 0 to 3; any other number means finish to start.
-/

namespace Schedule

/-- Which ends of two tasks a relation ties together. -/
inductive RelationType where
  | finishStart
  | startStart
  | finishFinish
  | startFinish
  deriving Repr, Inhabited, DecidableEq

/-- The relation type numbered by the export, finish to start for an unknown number. -/
def RelationType.ofLinkKind (kind : Int32) : RelationType :=
  match kind.toInt with
  | 1 => .startStart
  | 2 => .finishFinish
  | 3 => .startFinish
  | _ => .finishStart

/-- A relation between two tasks. -/
structure Relation where
  uniqueId : Option Int32 := none
  predecessor : TaskKey
  successor : TaskKey
  relationType : RelationType
  lag : Duration
  deriving Inhabited

end Schedule
