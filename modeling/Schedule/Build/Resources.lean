import Schedule.Build.State

/-!
# Resources

Permanent resources become labour and consumable resources materials. Each keeps its id, name,
initials and whether it was created as a folder (generic); availability is stored as a fraction
and read as a percentage. A resource whose base calendar exists gets a calendar of its own, named
after it and inheriting from the base. Rows without an id are skipped.
-/

namespace Schedule

namespace Builder

/-- Adds a calendar for a resource inheriting from an existing base calendar. -/
def resourceCalendar (b : Builder) (base : Option Int32) (name : Option String) :
    Builder × Option Int32 :=
  match base.bind b.project.calendar? with
  | none => (b, none)
  | some c =>
    let id := b.project.nextCalendarId
    let calendar : Calendar := { uniqueId := id, name, parentId := some c.uniqueId }
    ({ b with project := b.project.addCalendar calendar }, some id)

/-- Adds one resource built from a row. -/
def addResource (b : Builder) (row : Row) (material : Bool) : Builder :=
  match row.integer? "ID" with
  | none => b
  | some id =>
    let name := row.string? "NAME"
    let units := (row.double? "AVAILABILITY").getD 0.0 * 100.0
    let r : Resource :=
      if material then
        { uniqueId := id, resourceType := .material, name, initials := name.bind initials,
          generic := row.boolean "CREATED_AS_FOLDER", unitOfMeasure := row.string? "MEASUREMENT",
          standardRate := row.double? "COST_PER_USEDEFAULTSAMOUNT",
          availability := [{ start := row.stamp? "AVAILABLE_FROM",
                             finish := row.stamp? "AVAILABLE_TO", units }] }
      else
        { uniqueId := id, resourceType := .work, email := row.string? "EMAIL_ADDRESS", name,
          initials := name.bind initials, generic := row.boolean "CREATED_AS_FOLDER",
          availability := [{ units }] }
    let (b, calendarId) := b.resourceCalendar (row.integer? "CALENDAR") name
    { b with project := { b.project with
        resources := b.project.resources ++ [{ r with calendarId }] } }

/-- Reads permanent and then consumable resources. -/
def processResources (b : Builder) (permanent consumable : List Row) : Builder :=
  let b := permanent.foldl (fun b r => b.addResource r false) b
  consumable.foldl (fun b r => b.addResource r true) b

end Builder

end Schedule
