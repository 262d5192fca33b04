import Schedule.Number.Integer
import Schedule.Number.Print
import Schedule.Time.Pattern
import Schedule.Time.Text

/-!
# Field values

A field of a record holds a whole number, a double, a text, a flag, a stamp or a time of day.
Each accessor reads a field as the type it wants, converting where the source is loose:

* as an integer: a double loses its fraction (saturating), a flag is 0 or 1, and a text is read,
  after trimming blanks, as an integer, else as a double, else as `true`/`false` in any case;
* as a double: integers and flags convert exactly, a trimmed text is read as a number;
* as a stamp: a trimmed text in one of the forms `2024-01-08 08:00:00`, the same with a
  fraction, `2024-01-08T08:00:00`, `01/08/24 08:00:00` or the date `2024-01-08` (midnight);
* as a time of day: a stamp gives its time, a trimmed text `08:00:00` or any stamp text.

The display text writes doubles positionally (`plainText`) and stamps with a blank.
-/

namespace Schedule

open Schedule.Number

/-- The value of a field. -/
inductive Value where
  | integer (n : Int32)
  | double (x : Float)
  | text (s : String)
  | boolean (b : Bool)
  | stamp (t : Stamp)
  | clock (c : Clock)
  deriving Inhabited

namespace Value

/-- Reads a trimmed text as a whole number: integer, else number, else a flag word. -/
def textInteger? (s : String) : Option Int32 :=
  match readInt32? s with
  | some n => some n
  | none =>
    match readFloat? s with
    | some x => some (truncToInt32 x)
    | none =>
      let lower := String.ofList (s.toList.map Char.toLower)
      if lower = "true" then some 1 else if lower = "false" then some 0 else none

/-- The value as a 32-bit integer. -/
def asInteger? : Value → Option Int32
  | .integer n => some n
  | .double x => some (truncToInt32 x)
  | .boolean b => some (if b then 1 else 0)
  | .text s => textInteger? (Schedule.Text.trim s)
  | .stamp _ => none
  | .clock _ => none

/-- The value as a double. -/
def asDouble? : Value → Option Float
  | .integer n => some (int32ToFloat n)
  | .double x => some x
  | .boolean b => some (if b then 1.0 else 0.0)
  | .text s => readFloat? (Schedule.Text.trim s)
  | .stamp _ => none
  | .clock _ => none

/-- The patterns a text stamp may follow, in the order they are tried. -/
def stampPatterns : List Pattern :=
  [Pattern.spaced, Pattern.spacedFraction, Pattern.iso, Pattern.slashed]

/-- Reads a trimmed text as a stamp, a bare date meaning midnight. -/
def textStamp? (s : String) : Option Stamp :=
  match stampPatterns.findSome? (Pattern.readStamp? · s) with
  | some t => some t
  | none => (Pattern.readDate? Pattern.isoDate s).map Stamp.atMidnight

/-- The value as a stamp. -/
def asStamp? : Value → Option Stamp
  | .stamp t => some t
  | .text s => textStamp? (Schedule.Text.trim s)
  | _ => none

/-- The value as a time of day. -/
def asClock? : Value → Option Clock
  | .clock c => some c
  | .stamp t => some t.clock
  | .text s =>
    let s := Schedule.Text.trim s
    match Pattern.readClock? Pattern.colonTime s with
    | some c => some c
    | none => (textStamp? s).map (·.clock)
  | _ => none

/-- The display text of a value. -/
def display : Value → String
  | .integer n => toString n.toInt
  | .double x => plainText x
  | .text s => s
  | .boolean b => if b then "true" else "false"
  | .stamp t => t.display
  | .clock c => c.text

end Value

end Schedule
