import Schedule.Field.Decode
import Schedule.Field.Row
import Schedule.Text.Escape
import Schedule.Text.Blank

/-!
# Packed calendar strings

A database file packs a calendar's dated work patterns and exceptions, and a work pattern's
shifts, into one string of fields separated by `,` or `:`. The first field is skipped.

* Work pattern assignments take five fields each: the pattern id second, the start and end dates
  (`yyyyMMdd[ HHmmss]`) fourth and fifth.
* Exception assignments take three fields each: start and end as days and seconds from the
  export's epoch, then one field unread.
* Shifts come per day: two fields skipped, a count, and that many triples of exception type,
  start time and end time (`HHmmss`).

Each entry becomes a record keyed to its calendar or work pattern. A field missing where an
entry needs it fails as truncated data; an integer field is read after trimming blanks.

## Main definitions

* `workPatternAssignmentRows`, `exceptionAssignmentRows`, `timeEntryRows`.
-/

namespace Schedule.Packed

/-- Whether a character separates two fields of a packed string. -/
def isSeparator (c : Char) : Bool := c == ',' || c == ':'

/-- The fields of a packed string. -/
def fields (data : String) : Array String :=
  ((data.split isSeparator).toList.map String.Slice.copy).toArray

/-- The field at a position; a missing one fails. -/
def field (fs : Array String) (i : Nat) (data : String) : Reading String :=
  match fs[i]? with
  | some f => .ok f
  | none => .error (.data (.truncatedCalendar data))

/-- The integer field at a position. -/
def integer (fs : Array String) (i : Nat) (data : String) : Reading Int32 := do
  let v ← field fs i data
  match Number.readInt32? (Text.trim v) with
  | some n => .ok n
  | none => .error (.data (.calendarInteger (Text.quoteText v) data))

/-- A decoder's failure as a read failure. -/
def lift {α : Type} : Except DataError α → Reading α
  | .ok a => .ok a
  | .error e => .error (.data e)

/-- The record with a field set when the value is present. -/
def Row.setSome (r : Row) (name : String) : Option Value → Row
  | some v => r.set name v
  | none => r

/-- Entries of `step` fields from position `i`, each read by `entry`, while `i` is inside the
string. -/
def entries (fs : Array String) (step : Nat) (entry : Nat → Reading Row) :
    Nat → Nat → List Row → Reading (List Row)
  | 0, _, acc => .ok acc.reverse
  | fuel + 1, i, acc =>
    if i < fs.size then do
      let r ← entry i
      entries fs step entry fuel (i + step) (r :: acc)
    else .ok acc.reverse

/-- The dated work patterns of a calendar. -/
def workPatternAssignmentRows (calendar : Int32) (data : String) : Reading (List Row) :=
  let fs := fields data
  entries fs 5 (fun i => do
    let pattern ← integer fs (i + 1) data
    let start ← lift (decodeBasicStamp (← field fs (i + 3) data))
    let finish ← lift (decodeBasicStamp (← field fs (i + 4) data))
    let r := Row.ofList .hours [("WORK_PATTERN_ASSIGNMENTID", .integer calendar),
      ("WORK_PATTERN", .integer pattern)]
    pure (Row.setSome (Row.setSome r "START_DATE" (start.map .stamp)) "END_DATE"
      (finish.map .stamp))) fs.size 1 []

/-- The exceptions of a calendar. -/
def exceptionAssignmentRows (calendar : Int32) (data : String) : Reading (List Row) :=
  let fs := fields data
  entries fs 3 (fun i => do
    let start ← lift (decodeEpochStamp (← field fs i data))
    let finish ← lift (decodeEpochStamp (← field fs (i + 1) data))
    let r := Row.ofList .hours [("EXCEPTION_ASSIGNMENTID", .integer calendar)]
    pure (Row.setSome (Row.setSome r "START_DATE" (start.map .stamp)) "END_DATE"
      (finish.map .stamp))) fs.size 1 []

/-- The shifts of one day: `count` triples from position `i`. -/
def shifts (pattern : Int32) (fs : Array String) (data : String) :
    Nat → Nat → List Row → Reading (Nat × List Row)
  | 0, i, acc => .ok (i, acc)
  | count + 1, i, acc => do
    let exception ← integer fs i data
    let start ← lift (decodeBasicClock (← field fs (i + 1) data))
    let finish ← lift (decodeBasicClock (← field fs (i + 2) data))
    let r := Row.ofList .hours
      [("TIME_ENTRYID", .integer pattern), ("EXCEPTION", .integer exception)]
    let r := Row.setSome (Row.setSome r "START_TIME" (start.map .clock)) "END_TIME"
      (finish.map .clock)
    shifts pattern fs data count (i + 3) (r :: acc)

/-- Days of shifts from position `i`, while `i` is inside the string. -/
def days (pattern : Int32) (fs : Array String) (data : String) :
    Nat → Nat → List Row → Reading (List Row)
  | 0, _, acc => .ok acc.reverse
  | fuel + 1, i, acc =>
    if i < fs.size then do
      let count ← integer fs (i + 2) data
      -- More shifts than fields fail on a missing field before the count runs out.
      let n := min count.toInt.toNat (fs.size + 1)
      let (i, acc) ← shifts pattern fs data n (i + 3) acc
      days pattern fs data fuel i acc
    else .ok acc.reverse

/-- The shifts of a work pattern. -/
def timeEntryRows (pattern : Int32) (data : String) : Reading (List Row) :=
  let fs := fields data
  days pattern fs data fs.size 1 []

end Schedule.Packed
