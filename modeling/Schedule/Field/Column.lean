/-!
# Column types of the text export

Each column of a table in the text export has one of six types, which decide how its text is
decoded: whole numbers, decimal numbers, free text, flags, stamps and times of day.
-/

namespace Schedule

/-- The type of a column in the text export. -/
inductive ColumnType where
  | integer
  | double
  | varchar
  | bit
  | timestamp
  | time
  deriving Repr, Inhabited, DecidableEq

/-- The name of a column type as it appears in messages. -/
def ColumnType.name : ColumnType → String
  | .integer => "Integer"
  | .double => "Double"
  | .varchar => "Varchar"
  | .bit => "Bit"
  | .timestamp => "Timestamp"
  | .time => "Time"

/-- The column type with a given name. -/
def ColumnType.ofName? : String → Option ColumnType
  | "Integer" => some .integer
  | "Double" => some .double
  | "Varchar" => some .varchar
  | "Bit" => some .bit
  | "Timestamp" => some .timestamp
  | "Time" => some .time
  | _ => none

end Schedule
