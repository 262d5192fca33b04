import Std.Data.HashMap
import Schedule.Export.Layout
import Schedule.Export.Records
import Schedule.Text.Escape
import Schedule.Field.Decode
import Schedule.Build.Properties
import Schedule.Build.Resources
import Schedule.Build.Calendars
import Schedule.Build.Tasks
import Schedule.Build.Assignments

/-!
# Reading a text export

A text export is UTF-8 text of comma-separated records, one a line (see `tokenize`). A record
whose first token starts with NUL names the file version: the number after the first two bytes,
up to a space, selects the layout. A record whose first token starts with `#` and holds a colon is
a row: `#<type> <id>` before the last colon names the table and the row id, which fills the
first column, and the text after the colon is the second column. When the first token ends with
`-` or `=` it is the whole header. A token opening a quoted region (`<"`) that the tokenizer split
at a comma is joined to the next one again. A row of a known table with at least one value after
its id is decoded column by column with the table's layout.

The tables are then handed to the builder: properties (with the file version as application
version), calendars, resources sorted by id, tasks, links sorted by id, and allocations sorted by
id with the resource skills.

## Main definitions

* `Formats` — the known layouts, by version, 9006 first.
* `readTables` — the file version and the decoded rows of each table.
* `readExport` — the project of a text export given as bytes.
-/

namespace Schedule.Export

/-- The known layouts; a later layout of a version replaces an earlier one. -/
structure Formats where
  layouts : List FileFormat := [FileFormat.v9006]
  deriving Inhabited

namespace Formats

/-- Adds a layout, replacing one of the same version. -/
def register (fs : Formats) (f : FileFormat) : Formats :=
  { layouts := (fs.layouts.filter (·.version != f.version)) ++ [f] }

/-- The layout of a version. -/
def find? (fs : Formats) (version : Int32) : Option FileFormat :=
  fs.layouts.find? (·.version == version)

end Formats

/-- The version number of a version token: after its first two bytes, up to the first space,
trimmed. None when the second character is not a single byte or no number stands there. -/
def versionNumber? (token : String) : Option Int32 :=
  match token.toList with
  | _ :: c :: rest =>
    if c.toNat < 128 then
      Number.readInt32? (Text.trim (String.ofList (rest.takeWhile (· != ' '))))
    else none
  | _ => none

/-- The layout named by a version token. -/
def Formats.ofToken (fs : Formats) (token : String) : Reading FileFormat :=
  match versionNumber? token with
  | none => .error (.data (.fileVersion (Text.quoteText token)))
  | some v =>
    match fs.find? v with
    | some f => .ok f
    | none => .error (.unsupportedVersion v.toInt)

/-- The row of a table from the values of a record, the row id first. -/
def buildRow (t : TableLayout) (values : List String) (epochDates : Bool) : Reading Row :=
  (t.columns.zip values).foldlM (fun (r : Row) (slot, v) =>
    match slot with
    | none => .ok r
    | some c =>
      match decodeColumn t.name c.name v c.type epochDates with
      | .ok (some x) => .ok (r.set c.name x)
      | .ok none => .ok r
      | .error e => .error (.data e)) (Row.empty .hours)

/-- What is known while the tokens of one record are read: the values so far (in reverse), the
table of the record, and an opened quoted region waiting for its rest. -/
structure RecordState where
  values : List String := []
  table : Option TableLayout := none
  pending : Option String := none

/-- What is known between records: the current layout and the rows read so far. -/
structure ExportState where
  format : Option FileFormat := none
  tables : Std.HashMap String (Array Row) := {}

/-- Splits a header token at its last colon: the header and what follows, or the whole token
when it ends with `-` or `=`. None without a colon. -/
def splitHeader (token : String) : Option (String × Option String) :=
  let cs := token.toList
  if !cs.contains ':' then none
  else if token.endsWith "-" || token.endsWith "=" then some (token, none)
  else
    let before := (cs.reverse.dropWhile (· != ':')).reverse.dropLast
    let after := (cs.reverse.takeWhile (· != ':')).reverse
    some (String.ofList before, some (String.ofList after))

/-- Whether a token opens a quoted region that it does not close. -/
def opensQuote (token : String) : Bool :=
  token.startsWith "<\"" && !token.endsWith "\">"

/-- Reads one token of a record. -/
def readToken (fs : Formats) (acc : ExportState × RecordState) (token : String) :
    Reading (ExportState × RecordState) := do
  let (st, rec) := acc
  let (st, rec, rest) ←
    if rec.values.isEmpty then
      if token.startsWith "#" then
        match splitHeader token with
        | none => pure (st, rec, some token)
        | some (header, rest) =>
          match RowHeader.parse? header with
          | some h =>
            pure (st, { rec with table := st.format.bind (·.table? h.recordType),
                                 values := [h.id] }, rest)
          | none => pure (st, rec, rest)
      else if token.startsWith "\x00" then do
        let f ← fs.ofToken token
        pure ({ st with format := some f }, rec, some token)
      else pure (st, rec, some token)
    else pure (st, rec, some token)
  match rec.table, rest with
  | some _, some t =>
    if opensQuote t then pure (st, { rec with pending := some t })
    else
      let t := match rec.pending with
        | some p => p ++ "," ++ t
        | none => t
      pure (st, { rec with values := t :: rec.values, pending := none })
  | _, _ => pure (st, rec)

/-- Reads one record and keeps its row. -/
def readRecord (fs : Formats) (st : ExportState) (tokens : List String) : Reading ExportState := do
  let (st, rec) ← tokens.foldlM (readToken fs) (st, {})
  match rec.table, st.format with
  | some t, some f =>
    if rec.values.length > 1 then
      let row ← buildRow t rec.values.reverse f.epochDates
      pure { st with tables := st.tables.insert t.name ((st.tables.getD t.name #[]).push row) }
    else pure st
  | _, _ => pure st

/-- The file version and the rows of each table of a text export. -/
def readTables (fs : Formats) (text : String) :
    Reading (Int32 × Std.HashMap String (Array Row)) := do
  let st ← (tokenize text).foldlM (readRecord fs) {}
  match st.format with
  | some f => pure (f.version, st.tables)
  | none => .error (.data .noFileVersion)

/-- The project of a text export. -/
def readText (fs : Formats) (text : String) : Reading Project := do
  let (version, tables) ← readTables fs text
  let take (name : String) : List Row := (tables.getD name #[]).toList
  let b : Builder := {}
  let b ← b.processProperties (some version) (take "PROJECT_SUMMARY").head? none []
  let b := b.processCalendars (take "CALENDAR")
    { exceptionTypes := take "EXCEPTIONN", workPatterns := take "WORK_PATTERN",
      exceptionAssignments := take "EXCEPTION_ASSIGNMENT", timeEntries := take "TIME_ENTRY" }
  let b := b.processResources (sortRows ["ID"] (take "PERMANENT_RESOURCE"))
    (sortRows ["ID"] (take "CONSUMABLE_RESOURCE"))
  let b ← b.processTasks
    { bars := take "BAR", expandedTasks := take "EXPANDED_TASK", tasks := take "TASK",
      milestones := take "MILESTONE", hammocks := take "HAMMOCK_TASK",
      completedSections := take "TASK_COMPLETED_SECTION" }
  let b ← b.processPredecessors (sortRows ["ID"] (take "LINK"))
  let b ← b.processAssignments (sortRows ["ID"] (take "PERMANENT_SCHEDUL_ALLOCATION"))
    (take "PERM_RESOURCE_SKILL")
  pure b.result

/-- The project of a text export given as bytes; bytes that are not UTF-8 fail. -/
def readExport (fs : Formats) (bytes : ByteArray) : Reading Project :=
  match String.fromUTF8? bytes with
  | some text => readText fs text
  | none => .error .notText

end Schedule.Export
