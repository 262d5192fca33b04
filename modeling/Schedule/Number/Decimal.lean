import Schedule.Number.Binary

/-!
# Reading decimal numbers

A number in text is an optional sign followed either by one of the words `inf`, `infinity` and
`nan` in any case, or by digits with at most one point and an optional exponent `e` or `E` with its
own optional sign. At least one digit stands before or after the point, and the exponent has at
least one digit. Nothing else is allowed: no blanks, no separators between digits.

The value read is the double nearest to the decimal (`Decimal.toFloat`), computed exactly by
`nearest`. A decimal whose magnitude is far beyond the range of doubles is decided from its digit
count alone, so a long exponent costs nothing.

## Main definitions

* `Decimal.toFloat` — the nearest double to `± digits × 10^exponent`.
* `readFloat?` — the number grammar above; `none` for text outside it.
* `digitsValue` — the value of a run of decimal digits.
-/

namespace Schedule.Number

/-- A decimal number `(-1)^negative × digits × 10^exponent`. -/
structure Decimal where
  negative : Bool
  digits : Nat
  exponent : Int
  deriving Repr, Inhabited, DecidableEq

/-- The value of a run of decimal digits, most significant first. -/
def digitsValue (cs : List Char) : Nat :=
  cs.foldl (fun acc c => 10 * acc + (c.toNat - '0'.toNat)) 0

/-- How many decimal digits a natural number has; zero has one. -/
def decimalLength (n : Nat) : Nat := (Nat.toDigits 10 n).length

/-- The double nearest to the decimal. Magnitudes of at least `10^309` are infinite and
magnitudes below `10^-324` are zero, both decided without computing. -/
def Decimal.toFloat (d : Decimal) : Float :=
  if d.digits = 0 then signedZero d.negative
  else
    let top : Int := d.exponent + decimalLength d.digits
    if 310 ≤ top then infinity d.negative
    else if top < -324 then signedZero d.negative
    else if 0 ≤ d.exponent then nearest d.negative (d.digits * Nat.pow 10 d.exponent.toNat) 1
    else nearest d.negative d.digits (Nat.pow 10 (-d.exponent).toNat)

/-- A character is an ASCII decimal digit. -/
def isDigit (c : Char) : Bool := '0' ≤ c && c ≤ '9'

/-- Splits off a leading `+` or `-`: the flag says whether it was a minus. -/
def splitSign : List Char → Bool × List Char
  | '-' :: rest => (true, rest)
  | '+' :: rest => (false, rest)
  | cs => (false, cs)

/-- The exponent part after `e`: an optional sign and at least one digit, nothing after them.
A written exponent beyond `bound` is replaced by `bound`, which reads the same once `bound`
exceeds the length of the text by the range of doubles. -/
def readExponent? (bound : Nat) (cs : List Char) : Option Int :=
  let (neg, body) := splitSign cs
  if body.isEmpty || !body.all isDigit then none
  else
    let v := min (digitsValue body) bound
    some (if neg then -(v : Int) else v)

/-- The unsigned decimal part: digits, an optional point with digits, an optional exponent. -/
def readUnsignedDecimal? (negative : Bool) (cs : List Char) : Option Decimal :=
  let whole := cs.takeWhile isDigit
  let rest := cs.dropWhile isDigit
  let (frac, rest) :=
    match rest with
    | '.' :: more => (more.takeWhile isDigit, more.dropWhile isDigit)
    | _ => ([], rest)
  if whole.isEmpty && frac.isEmpty then none
  else
    let bound := cs.length + 400
    let exp? : Option Int :=
      match rest with
      | [] => some 0
      | c :: more => if c = 'e' || c = 'E' then readExponent? bound more else none
    exp?.map fun e =>
      { negative, digits := digitsValue (whole ++ frac), exponent := e - frac.length }

/-- The words that name the special values, in lower case. -/
def specialValue? (negative : Bool) (word : String) : Option Float :=
  if word = "inf" || word = "infinity" then some (infinity negative)
  else if word = "nan" then some notANumber
  else none

/-- Reads a number in the grammar of this module. -/
def readFloat? (s : String) : Option Float :=
  let (negative, body) := splitSign s.toList
  match specialValue? negative (String.ofList (body.map Char.toLower)) with
  | some x => some x
  | none => (readUnsignedDecimal? negative body).map Decimal.toFloat

end Schedule.Number
