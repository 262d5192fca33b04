import Schedule.Field.Column

/-!
# Why reading fails

Reading a schedule fails for one of five reasons: the bytes are not text, the database refuses a
query, a comma-separated table is malformed, a value does not decode, or the export's format
version is not known. Each cause is a constructor; its wording lives in one `message` function
per type.
-/

namespace Schedule

/-- The kind of value a text failed to decode as. -/
inductive ValueKind where
  | double
  | integer
  | time
  | date
  | timestamp
  | duration
  deriving Repr, Inhabited, DecidableEq

/-- The word for a kind of value in messages. -/
def ValueKind.word : ValueKind → String
  | .double => "double"
  | .integer => "integer"
  | .time => "time"
  | .date => "date"
  | .timestamp => "timestamp"
  | .duration => "duration"

/-- A value that does not decode. -/
inductive DataError where
  /-- The text is not a value of the kind. -/
  | invalid (kind : ValueKind) (text : String)
  /-- A packed duration does not have three parts. -/
  | durationParts (found : Nat) (text : String)
  /-- A field of the text export failed to decode. -/
  | column (table column data : String) (type : ColumnType) (cause : DataError)
  /-- A packed calendar string ends too early. -/
  | truncatedCalendar (data : String)
  /-- A packed calendar string holds a part that is not an integer. -/
  | calendarInteger (quotedValue data : String)
  /-- A version line whose number cannot be read; the token is already quoted. -/
  | fileVersion (quotedToken : String)
  /-- The export has no version line. -/
  | noFileVersion
  deriving Repr, Inhabited

/-- The wording of a data error. -/
def DataError.message : DataError → String
  | .invalid kind text => "invalid " ++ kind.word ++ ": " ++ text
  | .durationParts found text =>
    "expected 3 duration components, found " ++ toString found ++ ": " ++ text
  | .column tbl col dat ty cause =>
    "Failed to parse " ++ tbl ++ "." ++ col ++ " (data=" ++ dat ++ ", type=" ++ ty.name ++
      "): invalid data: " ++ cause.message
  | .truncatedCalendar data => "truncated calendar data: " ++ data
  | .calendarInteger value data => "invalid integer " ++ value ++ " in calendar data: " ++ data
  | .fileVersion token => "invalid file version: " ++ token
  | .noFileVersion => "no file version found"

/-- A comma-separated table whose records differ in length. Records and lines are counted as
in the file: the header is record 0 on line 1, and the byte is where the record starts. -/
structure CsvError where
  record : Nat
  line : Nat
  byte : Nat
  found : Nat
  expected : Nat
  deriving Repr, Inhabited, DecidableEq

/-- The wording of a table error. -/
def CsvError.message (e : CsvError) : String :=
  "CSV error: record " ++ toString e.record ++ " (line: " ++ toString e.line ++ ", byte: " ++
    toString e.byte ++ "): found record with " ++ toString e.found ++
    " fields, but the previous record has " ++ toString e.expected ++ " fields"

/-- A query that the database refuses or fails. -/
inductive QueryError where
  /-- The database's message, with the query's text and the offset in it when it points at a
  token of the query. -/
  | failed (message : String)
  | notADatabase
  deriving Repr, Inhabited, DecidableEq

/-- The wording of a refused query. -/
def QueryError.message : QueryError → String
  | .failed message => message
  | .notADatabase => "file is not a database"

/-- Why reading a schedule failed. -/
inductive ReadError where
  /-- The bytes are not UTF-8 text. -/
  | notText
  | query (e : QueryError)
  | csv (e : CsvError)
  | data (e : DataError)
  | unsupportedVersion (version : Int)
  deriving Repr, Inhabited

/-- The wording of a read error, prefixed by its kind. -/
def ReadError.message : ReadError → String
  | .notText => "io error: stream did not contain valid UTF-8"
  | .query e => "sqlite error: " ++ e.message
  | .csv e => "csv error: " ++ e.message
  | .data e => "invalid data: " ++ e.message
  | .unsupportedVersion v => "unsupported PP file format version " ++ toString v

/-- The result of a step that may fail to read. -/
abbrev Reading := Except ReadError

end Schedule
