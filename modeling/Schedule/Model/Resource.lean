import Schedule.Model.Task

/-!
# Resources and assignments

A resource is labour (work) or a material. Its availability is a list of periods with a number
of units. An assignment puts a resource on a task with an amount of work and its progress.

The initials of a name are its first character followed by the character after each blank that
is not itself a blank. The loop that finds them searches for the next blank, looks at the
character after it and goes on two places after the blank, so in a run of blanks every other
blank is passed over unseen: what follows the run is kept when the run is odd.
-/

namespace Schedule

/-- Whether a resource is labour or a material. -/
inductive ResourceType where
  | work
  | material
  deriving Repr, Inhabited, DecidableEq

/-- Units of a resource available over an optional period. -/
structure Availability where
  start : Option Stamp := none
  finish : Option Stamp := none
  units : Float
  deriving Inhabited

/-- A resource of the project. -/
structure Resource where
  uniqueId : Int32
  resourceType : ResourceType := .work
  name : Option String := none
  email : Option String := none
  initials : Option String := none
  generic : Bool := false
  calendarId : Option Int32 := none
  unitOfMeasure : Option String := none
  standardRate : Option Float := none
  availability : List Availability := []
  customFields : CustomFields := []
  deriving Inhabited

/-- A resource put to work on a task. -/
structure Assignment where
  uniqueId : Option Int32
  task : TaskKey
  resourceUniqueId : Int32
  start : Option Stamp := none
  finish : Option Stamp := none
  units : Option Float := none
  delay : Option Duration := none
  work : Option Duration := none
  actualWork : Option Duration := none
  remainingWork : Option Duration := none
  percentWorkComplete : Option Float := none
  customFields : CustomFields := []
  deriving Inhabited

/-- The slice `xs[start..]`, the elements from position `start` on. Slicing from past the end
panics, so the start must lie within the list. -/
def sliceFrom {α : Type _} (xs : List α) (start : Nat) (_ : start ≤ xs.length) : List α := xs.drop start

@[simp] theorem sliceFrom_eq {α : Type _} {xs : List α} {start : Nat} (h : start ≤ xs.length) :
    sliceFrom xs start h = xs.drop start := rfl

/-- The initials loop from position `index` of `chars`, with the initials `result` so far: find
the next blank at or after `index`, push the character after it unless that is a blank too, and
go on two places after the blank. After a blank at the very end the index is one past the end; it
is clamped to the end before slicing, where the search finds nothing. -/
def initialsFrom (chars : List Char) (index : Nat) (result : String) : String :=
  match h : (sliceFrom chars (min index chars.length) (Nat.min_le_right _ _)).findIdx?
      (· == ' ') with
  | none => result
  | some offset =>
    let index := index + offset + 1
    let result :=
      match chars[index]?.filter (· != ' ') with
      | some c => result.push c
      | none => result
    initialsFrom chars (index + 1) result
termination_by chars.length + 1 - index
decreasing_by
  have hlt := (List.findIdx?_eq_some_iff_findIdx_eq.mp h).1
  simp only [sliceFrom, List.length_drop] at hlt
  omega

/-- The initials of a name; none for the empty name. -/
def initials (name : String) : Option String := do
  let chars := name.toList
  let first ← chars.head?
  pure (initialsFrom chars 1 (String.singleton first))

end Schedule
