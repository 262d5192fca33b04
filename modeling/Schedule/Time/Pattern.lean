import Schedule.Time.Stamp
import Schedule.Number.Decimal
import Schedule.Text.Blank

/-!
# Reading dates and times by pattern

A pattern is a list of items. A numeric item skips blanks, then reads one to its width of ASCII
digits (the year may instead carry a sign and then any number of digits), and checks its range:
month 1–12, day 1–31, hour 0–23, minute 0–59, second 0–60 (60 is a leap second). A literal matches
one character, a blank item skips any blanks, and the fraction item reads `.` and one to nine
digits if a point comes next (further digits are skipped). The whole text must be used.

The fields read are then combined: a date needs year, month and day and must exist; a time needs
hour and minute, the second defaulting to zero. A two-digit year below 70 lies in the 2000s,
otherwise in the 1900s.

## Main definitions

* `Pattern.readDate?`, `Pattern.readClock?`, `Pattern.readStamp?` — text to values by a pattern.
* The patterns used by the library: `Pattern.spaced`, `Pattern.spacedFraction`, `Pattern.iso`,
  `Pattern.slashed`, `Pattern.isoDate`, `Pattern.colonTime`, `Pattern.compactTime`,
  `Pattern.compactDate`.
-/

namespace Schedule

/-- One element of a date or time pattern. -/
inductive PatternItem where
  | year
  | yearOfCentury
  | month
  | day
  | hour
  | minute
  | second
  | fraction
  | literal (c : Char)
  | blank
  deriving Repr, Inhabited, DecidableEq

/-- A date or time pattern. -/
abbrev Pattern := List PatternItem

/-- The fields read from a text. -/
structure PatternFields where
  year : Option Int := none
  yearOfCentury : Option Nat := none
  month : Option Nat := none
  day : Option Nat := none
  hour : Option Nat := none
  minute : Option Nat := none
  second : Option Nat := none
  nanos : Option Nat := none
  deriving Repr, Inhabited

namespace PatternFields

/-- The year of the fields, a two-digit year being placed in 1970–2069. -/
def fullYear (f : PatternFields) : Option Int :=
  match f.year, f.yearOfCentury with
  | some y, _ => some y
  | none, some c => some (if c < 70 then 2000 + c else 1900 + c)
  | none, none => none

/-- The date named by the fields. -/
def date? (f : PatternFields) : Option Date :=
  match f.fullYear, f.month, f.day with
  | some y, some m, some d => Date.ofYmd? y m d
  | _, _, _ => none

/-- The time named by the fields: hour and minute are needed, and nanoseconds only with seconds. -/
def clock? (f : PatternFields) : Option Clock :=
  match f.hour, f.minute with
  | some h, some m =>
    match f.second, f.nanos with
    | none, some _ => none
    | s, n => Clock.ofHmsNano? h m (s.getD 0) (n.getD 0)
  | _, _ => none

end PatternFields

namespace Pattern

open Schedule.Number

/-- Reads one to `width` ASCII digits. -/
def readDigits (width : Nat) (cs : List Char) : Option (Nat × List Char) :=
  let ds := (cs.takeWhile isDigit).take width
  if ds.isEmpty then none else some (digitsValue ds, cs.drop ds.length)

/-- Reads a year: a sign and any number of digits, or up to four digits without a sign. -/
def readYear (cs : List Char) : Option (Int × List Char) :=
  match cs with
  | '-' :: rest =>
    let ds := rest.takeWhile isDigit
    if ds.isEmpty then none else some (-(digitsValue ds : Int), rest.drop ds.length)
  | '+' :: rest =>
    let ds := rest.takeWhile isDigit
    if ds.isEmpty then none else some (digitsValue ds, rest.drop ds.length)
  | _ => (readDigits 4 cs).map fun (v, r) => ((v : Int), r)

/-- Reads a fraction of a second after a point: one to nine digits scaled to nanoseconds, further
digits skipped. -/
def readFraction (cs : List Char) : Option (Nat × List Char) :=
  let ds := (cs.takeWhile isDigit).take 9
  if ds.isEmpty then none
  else some (digitsValue ds * Nat.pow 10 (9 - ds.length), (cs.drop ds.length).dropWhile isDigit)

/-- Reads a bounded number into a field. -/
def readBounded (lo hi width : Nat) (cs : List Char) : Option (Nat × List Char) :=
  match readDigits width (Schedule.Text.dropBlanks cs) with
  | some (v, rest) => if lo ≤ v ∧ v ≤ hi then some (v, rest) else none
  | none => none

/-- Reads the text by one item. -/
def step (f : PatternFields) (cs : List Char) : PatternItem → Option (PatternFields × List Char)
  | .year =>
    match readYear (Schedule.Text.dropBlanks cs) with
    | some (v, rest) =>
      if -2147483648 ≤ v ∧ v ≤ 2147483647 then some ({ f with year := some v }, rest) else none
    | none => none
  | .yearOfCentury => (readBounded 0 99 2 cs).map fun (v, r) => ({ f with yearOfCentury := v }, r)
  | .month => (readBounded 1 12 2 cs).map fun (v, r) => ({ f with month := v }, r)
  | .day => (readBounded 1 31 2 cs).map fun (v, r) => ({ f with day := v }, r)
  | .hour => (readBounded 0 23 2 cs).map fun (v, r) => ({ f with hour := v }, r)
  | .minute => (readBounded 0 59 2 cs).map fun (v, r) => ({ f with minute := v }, r)
  | .second => (readBounded 0 60 2 cs).map fun (v, r) => ({ f with second := v }, r)
  | .fraction =>
    match cs with
    | '.' :: rest => (readFraction rest).map fun (v, r) => ({ f with nanos := v }, r)
    | _ => some (f, cs)
  | .literal c =>
    match cs with
    | d :: rest => if c = d then some (f, rest) else none
    | [] => none
  | .blank => some (f, Schedule.Text.dropBlanks cs)

/-- The fields of a text read by a pattern that uses it whole. -/
def fields? (p : Pattern) (s : String) : Option PatternFields :=
  go p {} s.toList
where
  go : Pattern → PatternFields → List Char → Option PatternFields
    | [], f, cs => if cs.isEmpty then some f else none
    | item :: items, f, cs =>
      match step f cs item with
      | some (f', rest) => go items f' rest
      | none => none

/-- A date read by a pattern. -/
def readDate? (p : Pattern) (s : String) : Option Date := (fields? p s).bind (·.date?)

/-- A time read by a pattern. -/
def readClock? (p : Pattern) (s : String) : Option Clock := (fields? p s).bind (·.clock?)

/-- A date and time read by a pattern. -/
def readStamp? (p : Pattern) (s : String) : Option Stamp :=
  (fields? p s).bind fun f => f.date?.bind fun d => f.clock?.map fun c => ⟨d, c⟩

/-- `2024-01-08 08:00:00`. -/
def spaced : Pattern :=
  [.year, .literal '-', .month, .literal '-', .day, .blank, .hour, .literal ':', .minute,
    .literal ':', .second]

/-- `2024-01-08 08:00:00.250`, the fraction optional. -/
def spacedFraction : Pattern := spaced ++ [.fraction]

/-- `2024-01-08T08:00:00`. -/
def iso : Pattern :=
  [.year, .literal '-', .month, .literal '-', .day, .literal 'T', .hour, .literal ':', .minute,
    .literal ':', .second]

/-- `2024-01-08T08:00:00.250`, the fraction optional. -/
def isoFraction : Pattern := iso ++ [.fraction]

/-- `01/08/24 08:00:00`. -/
def slashed : Pattern :=
  [.month, .literal '/', .day, .literal '/', .yearOfCentury, .blank, .hour, .literal ':',
    .minute, .literal ':', .second]

/-- `2024-01-08`. -/
def isoDate : Pattern := [.year, .literal '-', .month, .literal '-', .day]

/-- `08:00:00`. -/
def colonTime : Pattern := [.hour, .literal ':', .minute, .literal ':', .second]

/-- `08:00:00.250`, the fraction optional. -/
def colonTimeFraction : Pattern := colonTime ++ [.fraction]

/-- `080000`. -/
def compactTime : Pattern := [.hour, .minute, .second]

/-- `20240108`. -/
def compactDate : Pattern := [.year, .month, .day]

end Pattern

end Schedule
