import Schedule.Field.Row

/-!
# Ordering records by integer columns

Records are sorted stably by the integer values of a list of columns, compared in turn; a missing
or unreadable value sorts before every number.
-/

namespace Schedule

/-- Compares two optional integers, absence first. -/
def compareOptInt (a b : Option Int32) : Ordering :=
  match a, b with
  | none, none => .eq
  | none, some _ => .lt
  | some _, none => .gt
  | some x, some y => compare x.toInt y.toInt

/-- Compares two records on the integer values of the columns, in turn. -/
def compareRows (columns : List String) (a b : Row) : Ordering :=
  columns.foldl (fun acc c => acc.then (compareOptInt (a.integer? c) (b.integer? c))) .eq

/-- Sorts records stably on the integer values of the columns. -/
def sortRows (columns : List String) (rows : List Row) : List Row :=
  rows.mergeSort fun a b => compareRows columns a b != .gt

end Schedule
