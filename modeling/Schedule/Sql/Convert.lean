import Schedule.Sql.Value
import Schedule.Text.Utf8

/-!
# Converting values

Where an operator or function needs a number, text is read by its leading number
(`textNumber`): `'12abc' + 0` is `12`, `'1.5e' + 0` is `1.5`, and text that starts with no
number is `0`. Where it needs an integer, a double is truncated toward zero and clamped to 64
bits, and text is read by its leading integer, clamped. Where it needs text, an integer is
written in decimal, a double with fifteen significant digits (`realText`) and bytes are read as
UTF-8.

`CAST` converts to the affinity of a type name (`SqlValue.cast`): to an integer or double as
above, to text, to bytes (a text's UTF-8), or to a number (`NUMERIC`), which keeps numbers as
they are and reads text as an integer when it spells one or a double with an integer value.

## Main definitions

* `textNumber`, `SqlValue.toNumber`, `SqlValue.toInt`, `SqlValue.toReal`, `SqlValue.toText`.
* `SqlValue.cast` — the value of `CAST(v AS type)`.
-/

namespace Schedule.Sql

/-- Text as a number where an operator needs one: a whole integer within 64 bits is that
integer, a number with a point or exponent is a double, and otherwise the leading integer, or
the leading double when that integer does not fit. -/
def textNumber (s : String) : SqlValue :=
  let r := readLeadingNumber s
  let (code, n) := readLeadingInteger s
  if r.kind ≤ 0 then (if r.kind = 0 && code ≤ 1 then .integer n else .real r.value)
  else if r.kind = 1 && code = 0 then .integer n
  else .real r.value

/-- The UTF-8 bytes of a text. -/
def utf8Bytes (s : String) : List UInt8 := s.toUTF8.toList

/-- Whether an integer fits in 64 bits. -/
def fits64 (n : Int) : Bool := int64Min ≤ n && n ≤ int64Max

namespace SqlValue

/-- A value as text, as concatenation and text functions read it; null reads as empty. -/
def toText : SqlValue → String
  | .integer n => toString n
  | .real x => realText x
  | .text s => s
  | .blob b => Text.bytesText b
  | .null => ""

/-- A value as text, none for null. -/
def text? : SqlValue → Option String
  | .null => none
  | v => some v.toText

/-- A value's bytes: a text's UTF-8, a number's text, the bytes themselves. -/
def bytes : SqlValue → List UInt8
  | .blob b => b
  | v => utf8Bytes v.toText

/-- A value as a number for arithmetic; null stays null. -/
def toNumber : SqlValue → SqlValue
  | .text s => textNumber s
  | .blob b => textNumber (Text.bytesText b)
  | v => v

/-- A value as a 64-bit integer: a double truncated and clamped, text and bytes by their leading
integer, null as 0. -/
def toInt : SqlValue → Int
  | .integer n => n
  | .real x => realToInt x
  | .text s => (readLeadingInteger s).2
  | .blob b => (readLeadingInteger (Text.bytesText b)).2
  | .null => 0

/-- A value as a double: text and bytes by their leading number, null as 0. -/
def toReal : SqlValue → Float
  | .integer n => intToFloat n
  | .real x => x
  | .text s => (readLeadingNumber s).value
  | .blob b => (readLeadingNumber (Text.bytesText b)).value
  | .null => 0.0

/-- Whether a value is null. -/
def isNull : SqlValue → Bool
  | .null => true
  | _ => false

/-- The name of a value's kind, as `typeof` gives it. -/
def typeName : SqlValue → String
  | .null => "null"
  | .integer _ => "integer"
  | .real _ => "real"
  | .text _ => "text"
  | .blob _ => "blob"

/-- Text read as a number by `CAST(… AS NUMERIC)`: an integer when it spells one within 64
bits, or when its number is a double with an integer value; else that double. -/
def numerify (s : String) : SqlValue :=
  let r := readLeadingNumber s
  let (code, n) := readLeadingInteger s
  if (r.kind = 0 || r.kind = 1) && code ≤ 1 then .integer n
  else
    let i := realToInt r.value
    if realSameAsInt r.value i then .integer i else .real r.value

/-- Text read as a number where a number is expected but text may stay (the numeric type of a
value): text that reads wholly as a number becomes it. -/
def numericType : SqlValue → SqlValue
  | .text s => (numericText? false s).getD (.text s)
  | v => v

/-- The value of `CAST(v AS type)` for the affinity of the type. -/
def cast (aff : Affinity) : SqlValue → SqlValue
  | .null => .null
  | v =>
    match aff with
    | .blob => .blob v.bytes
    | .text => .text v.toText
    | .integer => .integer v.toInt
    | .real => .real v.toReal
    | .numeric =>
      match v with
      | .text s => numerify s
      | .blob b => numerify (Text.bytesText b)
      | v => v

end SqlValue

/-- The affinity `CAST` converts to: that of the type name, numeric when there is none. -/
def castAffinity (typeName : String) : Affinity :=
  if typeName.isEmpty then .numeric else Affinity.ofType typeName

end Schedule.Sql
