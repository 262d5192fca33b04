import Schedule.Error
import Schedule.Field.Value
import Schedule.Text.Split

/-!
# Decoding fields of the text export

Every field of the text export is text; its column type says how to decode it.

* Text may be wrapped in `<…>` and then in `"…"`; each wrapping is removed when the text starts
  with its opening character and has at least two characters.
* A double is unwrapped text; empty text and the null pair `-1 -1` are absent; the first `E+`
  becomes `E` before the number is read.
* An integer is absent when empty or when it holds a blank; with a point it is read as a double and
  its fraction dropped; otherwise it is a 32-bit integer.
* A flag is an integer that is not zero.
* A time `HHMMSS` may drop leading zeros: it is padded with zeros to six characters first.
* A stamp is either `days seconds` counted from day 2415021 (1900-01-01), a lone time on
  1900-01-01, or `yyyyMMdd` with an optional time (`0` meaning midnight), depending on the file.
* A packed duration `unit,flag,value` gives its third part in hours.

## Main definitions

* `unwrap`, `decodeDouble`, `decodeInteger`, `decodeBoolean`, `decodeEpochStamp`,
  `decodeBasicStamp`, `decodeBasicClock`, `decodeDurationTriple` — one decoder per encoding.
* `decodeColumn` — a field by its column type, with the table and column named on failure.
-/

namespace Schedule

open Schedule.Number

/-- Removes a leading and trailing character when the text starts with `open` and has at least
two characters. -/
def stripWrapping (opening : Char) (cs : List Char) : List Char :=
  match cs with
  | c :: _ :: _ => if c = opening then (cs.drop 1).dropLast else cs
  | _ => cs

/-- Removes the wrapping `<…>` and then `"…"`. -/
def unwrap (s : String) : String :=
  String.ofList (stripWrapping '"' (stripWrapping '<' s.toList))

/-- The text of a missing pair of numbers. -/
def nullPair : String := "-1 -1"

/-- Decodes a double; absent for empty text and the null pair. -/
def decodeDouble (s : String) : Except DataError (Option Float) :=
  let v := unwrap s
  if v.isEmpty || v == nullPair then .ok none
  else
    let v := String.ofList (Schedule.Text.replaceFirst ['E', '+'] ['E'] v.toList)
    match readFloat? v with
    | some x => .ok (some x)
    | none => .error (.invalid .double v)

/-- Decodes a 32-bit integer; absent when empty or holding a blank. -/
def decodeInteger (s : String) : Except DataError (Option Int32) :=
  if s.isEmpty || s.toList.contains ' ' then .ok none
  else if s.toList.contains '.' then (decodeDouble s).map (·.map truncToInt32)
  else
    match readInt32? s with
    | some n => .ok (some n)
    | none => .error (.invalid .integer s)

/-- Decodes a flag: an integer other than zero. -/
def decodeBoolean (s : String) : Except DataError (Option Bool) :=
  (decodeInteger s).map (·.map (· != 0))

/-- Pads a text with zeros on the left to six characters. -/
def padSix (s : String) : String :=
  String.ofList (List.replicate (6 - s.length) '0') ++ s

/-- Reads `HHMMSS`. -/
def readCompactClock (s : String) : Except DataError Clock :=
  match Pattern.readClock? Pattern.compactTime s with
  | some c => .ok c
  | none => .error (.invalid .time s)

/-- Midnight at the start of 1900-01-01, day 2415021 of the export's count. -/
def exportEpoch : Stamp := ⟨⟨-25567⟩, Clock.midnight⟩

/-- The export's day number of 1900-01-01. -/
def exportEpochDay : Int := 2415021

/-- The largest number of seconds a signed offset may hold. -/
def offsetLimit : Int := 9223372036854775

/-- Decodes `days seconds` from the export's epoch, or a lone time on its first day. -/
def decodeEpochStamp (s : String) : Except DataError (Option Stamp) :=
  if s.isEmpty || s == nullPair then .ok none
  else
    match Schedule.Text.splitFirst ' ' s with
    | none => (readCompactClock (padSix s)).map fun c => some ⟨exportEpoch.date, c⟩
    | some (daysText, secondsText) =>
      let bad : Except DataError (Option Stamp) := .error (.invalid .timestamp s)
      match readInt64? daysText, readInt64? secondsText with
      | some days, some seconds =>
        let daySeconds := (days - exportEpochDay) * 86400
        let total := daySeconds + seconds
        if daySeconds.natAbs ≤ offsetLimit.toNat ∧ seconds.natAbs ≤ offsetLimit.toNat ∧
            total.natAbs ≤ offsetLimit.toNat then
          match exportEpoch.addSeconds? total with
          | some t => .ok (some t)
          | none => bad
        else bad
      | _, _ => bad

/-- Decodes `yyyyMMdd`, `yyyyMMdd 0` or `yyyyMMdd HHmmss`; absent for empty text, the null pair
and `0`. -/
def decodeBasicStamp (s : String) : Except DataError (Option Stamp) :=
  if s.isEmpty || s == nullPair || s == "0" then .ok none
  else
    let (dateText, timeText) : String × Option String :=
      match Schedule.Text.splitFirst ' ' s with
      | none => (s, none)
      | some (d, t) => if t == "0" then (d, none) else (d, some t)
    match Pattern.readDate? Pattern.compactDate dateText with
    | none => .error (.invalid .date s)
    | some d =>
      match timeText with
      | none => .ok (some (Stamp.atMidnight d))
      | some t => (readCompactClock (padSix t)).map fun c => some ⟨d, c⟩

/-- Decodes `HHmmss` without leading zeros; absent for empty text and `0`. -/
def decodeBasicClock (s : String) : Except DataError (Option Clock) :=
  if s.isEmpty || s == "0" then .ok none
  else (readCompactClock (padSix s)).map some

/-- The hours of a packed duration `unit,flag,value`. -/
def decodeDurationTriple (s : String) : Except DataError Float :=
  let parts := Schedule.Text.splitAt ',' s
  match parts with
  | [_, _, v] =>
    match readFloat? (Schedule.Text.trim v) with
    | some x => .ok x
    | none => .error (.invalid .duration s)
  | _ => .error (.durationParts parts.length s)

/-- Decodes one field of the text export by its column type; a failure names the table, the
column, the text and the type. -/
def decodeColumn (table column data : String) (type : ColumnType) (epochDates : Bool) :
    Except DataError (Option Value) :=
  let decoded : Except DataError (Option Value) :=
    match type with
    | .bit => (decodeBoolean data).map (·.map .boolean)
    | .varchar => .ok (some (.text (unwrap data)))
    | .time => (decodeBasicClock data).map (·.map .clock)
    | .timestamp =>
      if epochDates then (decodeEpochStamp data).map (·.map .stamp)
      else (decodeBasicStamp data).map (·.map .stamp)
    | .double => (decodeDouble data).map (·.map .double)
    | .integer => (decodeInteger data).map (·.map .integer)
  match decoded with
  | .ok v => .ok v
  | .error e => .error (.column table column data type e)

end Schedule
