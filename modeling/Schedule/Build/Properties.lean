import Schedule.Build.State

/-!
# Project properties

The schema version becomes the application version. The project summary gives the duration,
start, finish, name, author and date of last edit. The status date is the report date of a
progress period: the one the user settings name as current, or else the period with the greatest
id (the last of equal ones, a missing id counting least).
-/

namespace Schedule

namespace Builder

/-- The progress period with the greatest id, the last of equal ones. -/
def latestPeriod? (periods : List Row) : Option Row :=
  periods.foldl (fun best r => match best with
    | none => some r
    | some b => if compareOptInt (r.integer? "ID") (b.integer? "ID") != .lt then some r else some b)
    none

/-- Reads the project properties. Fails when the summary's duration does not decode. -/
def processProperties (b : Builder) (schemaVersion : Option Int32) (summary : Option Row)
    (userSettings : Option Row) (periods : List Row) : Reading Builder := do
  let p := b.project.properties
  let p := { p with applicationVersion := schemaVersion }
  let p ← match summary with
    | none => pure p
    | some row => do
      let d ← liftData (row.duration "DURATION")
      pure { p with duration := some d, start := row.stamp? "PROJECT_START",
                    finish := row.stamp? "PROJECT_END", name := row.string? "SHORT_NAME",
                    author := row.string? "PROJECT_BY", lastSaved := row.stamp? "LAST_EDITED_DATE" }
  let current := userSettings.bind fun (r : Row) => r.integer? "CURRENT_PROGRESS_PERIOD"
  let period := match current with
    | some id => periods.find? fun (r : Row) => r.integer? "ID" == some id
    | none => latestPeriod? periods
  let p := match period with
    | some row => { p with statusDate := row.stamp? "REPORT_DATE" }
    | none => p
  pure { b with project := { b.project with properties := p } }

end Builder

end Schedule
