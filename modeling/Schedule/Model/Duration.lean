/-!
# Durations

A duration is an amount of hours, counted either as working hours of a calendar or as elapsed
hours of the clock.
-/

namespace Schedule

/-- How the hours of a duration are counted. -/
inductive TimeUnit where
  | hours
  | elapsedHours
  deriving Repr, Inhabited, DecidableEq

/-- A number of hours in a unit. -/
structure Duration where
  value : Float
  units : TimeUnit
  deriving Inhabited

namespace Duration

/-- Working hours. -/
def hours (value : Float) : Duration := ⟨value, .hours⟩

/-- Elapsed hours. -/
def elapsedHours (value : Float) : Duration := ⟨value, .elapsedHours⟩

/-- No time, in working hours. -/
def zero : Duration := hours 0.0

end Duration

end Schedule
