import Schedule.Number.Print
import Schedule.Number.Decimal

/-!
# Values of the embedded database

A stored value is null, a 64-bit integer, a double, text or bytes. A column's declared type
gives it an affinity, which decides how a value is stored:

* text affinity (types naming `CHAR`, `CLOB` or `TEXT`) stores numbers as text, doubles with
  fifteen significant digits (`realText`);
* numeric and integer affinity (types naming `INT`, or none of the other words) store text that
  reads as a number as that number, and doubles with an integer value as integers;
* real affinity (types naming `REAL`, `FLOA` or `DOUB`) stores every number as a double;
* blob affinity (types naming `BLOB`, or no type) stores values as they come.

Values compare as null, then numbers by value, then text by code points, then bytes.

## Main definitions

* `Affinity.ofType` — the affinity of a declared type.
* `SqlValue.withAffinity` — a value as a column of that affinity stores it.
* `SqlValue.compare` — the order of values.
* `readLeadingNumber` — the leading number of a text, read as the database reads numbers.
* `numericText?` — text as a number, when all of it reads as one.
-/

namespace Schedule.Sql

/-- A value of the database. -/
inductive SqlValue where
  | null
  | integer (n : Int)
  | real (x : Float)
  | text (s : String)
  | blob (bytes : List UInt8)
  deriving Inhabited

/-- How a column converts the values stored in it. -/
inductive Affinity where
  | blob
  | text
  | numeric
  | integer
  | real
  deriving Repr, Inhabited, DecidableEq

/-- Whether `pat` occurs in `s`. -/
def containsText (s pat : String) : Bool := (s.splitOn pat).length > 1

/-- The affinity of a declared column type, by the words it contains. -/
def Affinity.ofType (declared : String) : Affinity :=
  let u := declared.map Char.toUpper
  if containsText u "INT" then .integer
  else if containsText u "CHAR" || containsText u "CLOB" || containsText u "TEXT" then .text
  else if containsText u "BLOB" || u.isEmpty then .blob
  else if containsText u "REAL" || containsText u "FLOA" || containsText u "DOUB" then .real
  else .numeric

/-- Whether an affinity converts text to numbers. -/
def Affinity.isNumeric : Affinity → Bool
  | .numeric | .integer | .real => true
  | _ => false

/-- The least 64-bit integer. -/
def int64Min : Int := -9223372036854775808

/-- The greatest 64-bit integer. -/
def int64Max : Int := 9223372036854775807

/-- Whether a character is a blank for the database: space, tab, line feed, vertical tab, form
feed or carriage return. -/
def isSpace (c : Char) : Bool :=
  c = ' ' || c = '\t' || c = '\n' || c = '\x0b' || c = '\x0c' || c = '\r'

/-- The digits of a number as the database reads them: at most about nineteen significant digits
are kept in the significand; later digits before the point raise the decimal exponent and later
digits after it are dropped. -/
structure Significand where
  value : Nat := 0
  /-- The power of ten the significand is scaled by. -/
  shift : Int := 0
  /-- How many digits went into the significand. -/
  count : Nat := 0
  deriving Inhabited

/-- The bound past which the significand takes no more digits. -/
def significandBound : Nat := 1844674407370955160

/-- Takes in the digits before the point. -/
def Significand.integerDigits : Significand → List Char → Significand × List Char
  | sig, c :: rest =>
    if Number.isDigit c then
      let v := sig.value * 10 + (c.toNat - '0'.toNat)
      let sig := { sig with value := v, count := sig.count + 1 }
      if v ≥ significandBound then
        let skipped := rest.takeWhile Number.isDigit
        ({ sig with shift := sig.shift + skipped.length }, rest.dropWhile Number.isDigit)
      else Significand.integerDigits sig rest
    else (sig, c :: rest)
  | sig, [] => (sig, [])

/-- Takes in the digits after the point. -/
def Significand.fractionDigits : Significand → List Char → Significand × List Char
  | sig, c :: rest =>
    if Number.isDigit c then
      let sig := if sig.value < significandBound then
          { value := sig.value * 10 + (c.toNat - '0'.toNat), shift := sig.shift - 1,
            count := sig.count + 1 }
        else sig
      Significand.fractionDigits sig rest
    else (sig, c :: rest)
  | sig, [] => (sig, [])

/-- A number in the extended format the database scales decimal numbers in: a significand of
64 bits times a power of two. -/
structure Extended where
  significand : Nat
  exponent : Int
  deriving Inhabited

namespace Extended

/-- `num · 2^exp` rounded to 64 significant bits, ties to even. -/
def round (num : Nat) (exp : Int) : Extended :=
  let len := num.log2 + 1
  if len ≤ 64 then ⟨num, exp⟩
  else
    let sh := len - 64
    let q := num / Nat.pow 2 sh
    let r := num % Nat.pow 2 sh
    let half := Nat.pow 2 (sh - 1)
    let q := if r > half || (r == half && q % 2 == 1) then q + 1 else q
    if q = Nat.pow 2 64 then ⟨Nat.pow 2 63, exp + sh + 1⟩ else ⟨q, exp + sh⟩

/-- The rounded product. -/
def mul (a b : Extended) : Extended :=
  round (a.significand * b.significand) (a.exponent + b.exponent)

/-- Whether `a` is greater than `b`. -/
def gt (a b : Extended) : Bool :=
  let low := min a.exponent b.exponent
  a.significand * Nat.pow 2 (a.exponent - low).toNat >
    b.significand * Nat.pow 2 (b.exponent - low).toNat

/-- The nearest double. -/
def toFloat (a : Extended) : Float :=
  if a.exponent ≥ 0 then Number.nearest false (a.significand * Nat.pow 2 a.exponent.toNat) 1
  else Number.nearest false a.significand (Nat.pow 2 (-a.exponent).toNat)

/-- Ten to the hundredth, rounded. -/
def tenUp100 : Extended := ⟨10542197943230523224, 269⟩
/-- Ten to the tenth. -/
def tenUp10 : Extended := ⟨10737418240000000000, -30⟩
/-- Ten. -/
def tenUp1 : Extended := ⟨11529215046068469760, -60⟩
/-- Ten to the minus hundredth, rounded. -/
def tenDown100 : Extended := ⟨16139061738043178685, -396⟩
/-- Ten to the minus tenth, rounded. -/
def tenDown10 : Extended := ⟨15845632502852867519, -97⟩
/-- A tenth, rounded. -/
def tenDown1 : Extended := ⟨14757395258967641293, -67⟩
/-- The bound above which a scaled number counts as infinite: the largest double. -/
def largest : Extended := ⟨18446744073709549568, 960⟩

/-- Scales by a power of ten, in steps of a hundred, ten and one, rounding after each step. -/
def scaleByTen : Nat → Extended → Int → Extended
  | 0, x, _ => x
  | fuel + 1, x, e =>
    if e ≥ 100 then scaleByTen fuel (x.mul tenUp100) (e - 100)
    else if e ≥ 10 then scaleByTen fuel (x.mul tenUp10) (e - 10)
    else if e ≥ 1 then scaleByTen fuel (x.mul tenUp1) (e - 1)
    else if e ≤ -100 then scaleByTen fuel (x.mul tenDown100) (e + 100)
    else if e ≤ -10 then scaleByTen fuel (x.mul tenDown10) (e + 10)
    else if e ≤ -1 then scaleByTen fuel (x.mul tenDown1) (e + 1)
    else x

end Extended

/-- Moves factors of ten between a significand and its exponent: up while the significand
stays below a tenth of the 64-bit range, and trailing zeros down. -/
def normalize : Nat → Nat → Int → Nat × Int
  | 0, s, e => (s, e)
  | fuel + 1, s, e =>
    if e > 0 && s < 1844674407370955161 then normalize fuel (s * 10) (e - 1)
    else if e < 0 && s % 10 = 0 then normalize fuel (s / 10) (e + 1)
    else (s, e)

/-- The double of a significand scaled by a power of ten, computed as the database computes it:
in the extended format, rounding after each step, then rounded to a double; past the largest
double it is infinite. -/
def scaledDouble (negative : Bool) (s : Nat) (e : Int) : Float :=
  if s = 0 then Number.signedZero negative
  else
    let (s, e) := normalize (s + e.natAbs + 40) s e
    let r : Float :=
      if e = 0 then Number.nearest false s 1
      else
        let x := Extended.scaleByTen (e.natAbs + 1) ⟨s, 0⟩ e
        if x.gt Extended.largest then Number.infinity false else x.toFloat
    if negative then -r else r

/-- How text reads as a number: `1` a whole integer, `2` or `3` a whole number with a point or
an exponent (3 with both), `-1` a number with a point or exponent followed by other text, `0`
anything else; with the double its leading number spells. -/
structure NumberReading where
  kind : Int
  value : Float

/-- Reads the leading number of a text: blanks, a sign, digits, a point and digits, an exponent
and blanks. -/
def readLeadingNumber (s : String) : NumberReading :=
  let cs := s.toList.dropWhile isSpace
  if cs.isEmpty then { kind := 0, value := 0.0 }
  else
    let (negative, cs) := match cs with
      | '-' :: more => (true, more)
      | '+' :: more => (false, more)
      | _ => (false, cs)
    let (sig, cs) := Significand.integerDigits {} cs
    let (sig, hasPoint, cs) := match cs with
      | '.' :: more =>
        let (sig, more) := Significand.fractionDigits sig more
        (sig, true, more)
      | _ => (sig, false, cs)
    -- The exponent: its value, whether it has digits, whether anything but blanks follows.
    let (hasExponent, exponent, valid, whole) : Bool × Int × Bool × Bool := match cs with
      | e :: more =>
        if e = 'e' || e = 'E' then
          if more.isEmpty then (true, 0, false, true)
          else
            let (eneg, more) := match more with
              | '-' :: m => (true, m)
              | '+' :: m => (false, m)
              | m => (false, m)
            let ds := more.takeWhile Number.isDigit
            let v : Int := min 10000 (Number.digitsValue ds)
            (true, if eneg then -v else v, !ds.isEmpty,
              ((more.dropWhile Number.isDigit).dropWhile isSpace).isEmpty)
        else (false, 0, true, (cs.dropWhile isSpace).isEmpty)
      | [] => (false, 0, true, true)
    let shape : Int := 1 + (if hasPoint then 1 else 0) + (if hasExponent then 1 else 0)
    let kind :=
      if whole && sig.count > 0 && valid then shape
      else if shape ≥ 2 && (shape = 3 || valid) && sig.count > 0 then -1
      else 0
    { kind, value := scaledDouble negative sig.value (exponent + sig.shift) }

/-- The leading integer of a text: blanks, a sign, digits. Gives how it reads (`-1` no digits,
`0` a whole integer, `1` followed by other text, `2` beyond 64 bits, `3` exactly `2^63`) and its
value, clamped to 64 bits. -/
def readLeadingInteger (s : String) : Int × Int :=
  let cs := s.toList.dropWhile isSpace
  let (negative, cs) := match cs with
    | '-' :: more => (true, more)
    | '+' :: more => (false, more)
    | _ => (false, cs)
  let zeros := cs.takeWhile (· = '0')
  let cs := cs.dropWhile (· = '0')
  let ds := cs.takeWhile Number.isDigit
  let rest := cs.dropWhile Number.isDigit
  let v : Int := Number.digitsValue ds
  let value := if negative then (if v > -int64Min then int64Min else -v)
    else if v > int64Max then int64Max else v
  let code : Int :=
    if ds.isEmpty && zeros.isEmpty then -1
    else if !(rest.dropWhile isSpace).isEmpty then 1
    else 0
  let code :=
    if v ≤ int64Max then code
    else if v > -int64Min then 2
    else if negative then code
    else 3
  (code, value)

/-- The integer a double equals exactly, when it lies strictly inside the 64-bit range. -/
def exactInteger? (x : Float) : Option Int :=
  match Number.shape x with
  | .finite neg m q =>
    if q ≥ 0 then
      let v : Int := m * Nat.pow 2 q.toNat
      let v := if neg then -v else v
      if int64Min < v ∧ v < int64Max then some v else none
    else if m % Nat.pow 2 (-q).toNat = 0 then
      let v : Int := m / Nat.pow 2 (-q).toNat
      some (if neg then -v else v)
    else none
  | _ => none

/-- The double nearest to an integer. -/
def intToFloat (n : Int) : Float :=
  Number.nearest (n < 0) n.natAbs 1

/-- A double written with fifteen significant digits, trailing zeros dropped but one digit kept
after the point; exponents below -4 or above 14 are written `e±XX`. -/
def realText (x : Float) : String :=
  match Number.shape x with
  | .nan => "NaN"
  | .infinite neg => if neg then "-Inf" else "Inf"
  | .finite neg m q =>
    if m = 0 then "0.0"
    else
      let k := Number.floorLog10 m q
      let (lo, r, den) := Number.divideByGrid m q (k - 14)
      let digits := if 2 * r ≥ den then lo + 1 else lo
      let (digits, k) := if digits = Nat.pow 10 15 then (Nat.pow 10 14, k + 1) else (digits, k)
      let ds := (Number.digitString digits).toList
      let ds := (ds.reverse.dropWhile (· = '0')).reverse
      let sign := if neg then "-" else ""
      let fracOf (cs : List Char) : String := if cs.isEmpty then "0" else String.ofList cs
      if k < -4 ∨ k > 14 then
        sign ++ String.ofList (ds.take 1) ++ "." ++ fracOf (ds.drop 1) ++
          Number.exponentSuffix k
      else if k < 0 then
        sign ++ "0." ++ Number.zeros (-k - 1).toNat ++ String.ofList ds
      else
        let n := k.toNat + 1
        let intPart := String.ofList (ds.take n) ++ Number.zeros (n - min n ds.length)
        sign ++ intPart ++ "." ++ fracOf (ds.drop n)

namespace SqlValue

/-- A double as a 64-bit integer: truncated toward zero, clamped to the range. -/
def realToInt (x : Float) : Int :=
  match Number.shape x with
  | .finite neg m q =>
    let v : Int := if q ≥ 0 then m * Nat.pow 2 q.toNat else m / Nat.pow 2 (-q).toNat
    let v := if neg then -v else v
    if v < int64Min then int64Min else if v > int64Max then int64Max else v
  | .infinite neg => if neg then int64Min else int64Max
  | .nan => int64Min

/-- Whether a double stands for an integer: zero, or the integer's own double when the integer
lies within 2^51. -/
def realSameAsInt (x : Float) (i : Int) : Bool :=
  x == 0.0 || (x.toBits == (intToFloat i).toBits && -2251799813685248 ≤ i && i < 2251799813685248)

/-- Text that reads as a number, as that number: an integer when it spells one, else a double,
which becomes an integer when `tryForInt` and it has an integer value; none when the text does
not read wholly as a number. -/
def numericText? (tryForInt : Bool) (s : String) : Option SqlValue :=
  let r := readLeadingNumber s
  if r.kind ≤ 0 then none
  else
    let asInteger : Option Int :=
      if r.kind = 1 then
        let i := realToInt r.value
        if realSameAsInt r.value i then some i
        else
          let (code, v) := readLeadingInteger s
          if code = 0 then some v else none
      else none
    match asInteger with
    | some i => some (.integer i)
    | none =>
      if tryForInt then
        match exactInteger? r.value with
        | some i => some (.integer i)
        | none => some (.real r.value)
      else some (.real r.value)

/-- A value as a column of the affinity stores it. A real that is a whole number within 64 bits
is stored as that integer, which a `REAL` column reads back as a real: negative zero comes back
as zero. -/
def withAffinity (a : Affinity) (v : SqlValue) : SqlValue :=
  match a, v with
  | .text, .integer n => .text (toString n)
  | .text, .real x => .text (realText x)
  | .real, .integer n => .real (intToFloat n)
  | .real, .real x => match exactInteger? x with
    | some i => .real (intToFloat i)
    | none => .real x
  | .real, .text s => match numericText? true s with
    | some (.integer n) => .real (intToFloat n)
    | some w => w
    | none => .text s
  | .numeric, .text s | .integer, .text s => (numericText? true s).getD (.text s)
  | .numeric, .real x | .integer, .real x => match exactInteger? x with
    | some i => .integer i
    | none => .real x
  | _, v => v

/-- A value under numeric affinity in a comparison: text that reads as a number becomes that
number. -/
def numericForComparison : SqlValue → SqlValue
  | .text s => (numericText? false s).getD (.text s)
  | v => v

/-- The rank of a value's kind in the order of values. -/
def rank : SqlValue → Nat
  | .null => 0
  | .integer _ | .real _ => 1
  | .text _ => 2
  | .blob _ => 3

/-- Compares an integer with a double exactly. -/
def compareIntReal (n : Int) (x : Float) : Ordering :=
  match Number.shape x with
  | .nan => .gt
  | .infinite neg => if neg then .gt else .lt
  | .finite neg m q =>
    -- n against ±m·2^q, both sides scaled to integers.
    let s : Int := if neg then -1 else 1
    if q ≥ 0 then compare n (s * (m * Nat.pow 2 q.toNat : Nat))
    else compare (n * (Nat.pow 2 (-q).toNat : Nat)) (s * m)

/-- Compares two lists of bytes lexicographically. -/
def compareBytes : List UInt8 → List UInt8 → Ordering
  | [], [] => .eq
  | [], _ => .lt
  | _, [] => .gt
  | a :: as, b :: bs => (compare a b).then (compareBytes as bs)

/-- The order of values: null, numbers by value, text by code points, bytes. -/
def compare (a b : SqlValue) : Ordering :=
  match a, b with
  | .integer x, .integer y => Ord.compare x y
  | .integer x, .real y => compareIntReal x y
  | .real x, .integer y => (compareIntReal y x).swap
  | .real x, .real y => if x < y then .lt else if y < x then .gt else .eq
  | .text x, .text y => Ord.compare x y
  | .blob x, .blob y => compareBytes x y
  | a, b => Ord.compare a.rank b.rank

end SqlValue

end Schedule.Sql
