import Schedule.Sql.Convert
import Schedule.Number.Shortest

/-!
# Formatting with `printf`

`printf(format, …)` (also called `format`) writes its arguments under the conversions of its
format: `%d`, `%i`, `%u`, `%x`, `%X`, `%o`, `%p` and `%r` for integers, `%f`, `%e`, `%E`, `%g`
and `%G` for doubles, `%s`, `%z`, `%q`, `%Q`, `%w` and `%c` for text, and `%%`. A conversion may
carry flags (`-` `+` ` ` `#` `!` `0` `,`), a width and a precision, either of them `*` to take
it from the arguments. Missing arguments read as 0, 0.0 or no text. An unknown conversion ends
the output there, and a format that produces nothing gives null.

Doubles are written from their decimal digits: the first eighteen or nineteen digits of the
exact value, rounded to the precision asked but to at most sixteen significant digits (26 with
the `!` flag), trailing zeros then dropped. A precision that rounds at the first digit of a
fraction below one rounds up from five; a precision of zero for `%f` or `%g` truncates.

## Main definitions

* `printfFormat` — the text of `printf(format, args)`, or none.
-/

namespace Schedule.Sql

/-- A double in decimal: its sign, its significant digits, and the place of the decimal point
(the value is `0.d₁d₂… × 10^point`); or a special value. -/
structure Decoded where
  negative : Bool := false
  digits : List Nat := [0]
  point : Int := 1
  /-- 1 for an infinity, 2 for not-a-number, 0 otherwise. -/
  special : Nat := 0
  deriving Inhabited

/-- Adds one to the last digit of a list of digits, carrying; gives the digits and whether a
new leading digit was made. -/
def roundUpDigits (ds : List Nat) : List Nat × Bool :=
  let (carry, out) := ds.foldr (fun d (carry, acc) =>
    if carry then (if d = 9 then (true, 0 :: acc) else (false, (d + 1) :: acc))
    else (false, d :: acc)) (true, [])
  if carry then (1 :: out, true) else (out, false)

/-- Decodes a double for printing, rounded as `round` says: a positive `round` keeps that many
significant digits, a negative one keeps `-round` digits after the point; at most `most`
significant digits are kept in any case. Trailing zeros are dropped. -/
def decodeDouble (x : Float) (round : Int) (most : Nat) : Decoded :=
  match Number.shape x with
  | .nan => { special := 2 }
  | .infinite neg => { special := 1, negative := neg }
  | .finite neg m q =>
    if m = 0 then {}
    else
      let intDigits := Number.floorLog10 m q + 1
      let width : Int := if intDigits ≥ 19 then 19 else 18
      let (v, _, _) := Number.divideByGrid m q (intDigits - width)
      let ds := (Nat.toDigits 10 v).map fun c => c.toNat - '0'.toNat
      let point : Int := intDigits
      -- A negative rounding place counts from the point.
      let (ds, point, round) :=
        if round < 0 then
          let r := point - round
          if r = 0 && (ds.head?.getD 0) ≥ 5 then (0 :: ds, point + 1, (1 : Int)) else (ds, point, r)
        else (ds, point, round)
      let (ds, point) :=
        if round > 0 && (round < ds.length || ds.length > most) then
          let keep := min round.toNat most
          let kept := ds.take keep
          if (ds.getD keep 0) ≥ 5 then
            let (up, grew) := roundUpDigits kept
            (up, if grew then point + 1 else point)
          else (kept, point)
        else (ds, point)
      let ds := (ds.reverse.dropWhile (· = 0)).reverse
      { negative := neg, digits := if ds.isEmpty then [0] else ds, point }

/-- A conversion's flags, width and precision. -/
structure Spec where
  leftJustify : Bool := false
  prefix? : Option Char := none
  alternate : Bool := false
  alternate2 : Bool := false
  zeroPad : Bool := false
  thousands : Bool := false
  width : Nat := 0
  precision : Option Nat := none
  deriving Inhabited

/-- The digit character of a digit. -/
def digitChar (d : Nat) : Char := Char.ofNat ('0'.toNat + d)

/-- Digits of a number in a base, as characters, most significant first. -/
def baseDigits (base : Nat) (upper : Bool) (n : Nat) : List Char :=
  let chars := if upper then "0123456789ABCDEF".toList else "0123456789abcdef".toList
  (Nat.toDigits base n).map fun c =>
    let d := if c.isDigit then c.toNat - '0'.toNat else c.toNat - 'a'.toNat + 10
    chars.getD d '0'

/-- Inserts a comma between every three digits from the right. -/
def groupThousands (ds : List Char) : List Char :=
  let rec go : List Char → List Char
    | a :: b :: c :: d :: rest => a :: b :: c :: ',' :: go (d :: rest)
    | rest => rest
  (go ds.reverse).reverse

/-- Pads a converted field to the width: spaces on the left, or on the right when left-justified. -/
def padField (spec : Spec) (field : List Char) (length : Nat) : List Char :=
  if spec.width > length then
    let pad := List.replicate (spec.width - length) ' '
    if spec.leftJustify then field ++ pad else pad ++ field
  else field

/-- An integer conversion: `base` and digit case, whether signed, and the prefix `#` adds. -/
def formatInteger (spec : Spec) (v : Int) (base : Nat) (upper signed : Bool)
    (altPrefix : String) (ordinal : Bool) : List Char :=
  let (magnitude, sign) :=
    if signed then
      if v < 0 then (v.natAbs, some '-') else (v.toNat, spec.prefix?)
    else ((if v < 0 then v + 18446744073709551616 else v).toNat, none)
  let alternate := spec.alternate && magnitude != 0
  let precision := spec.precision.getD 0
  let precision :=
    if spec.zeroPad && precision + (if sign.isSome then 1 else 0) < spec.width then
      spec.width - (if sign.isSome then 1 else 0)
    else precision
  let ds := baseDigits base upper magnitude
  let ds := if ordinal then
      let x := magnitude % 10
      let x := if x ≥ 4 || (magnitude / 10) % 10 = 1 then 0 else x
      ds ++ (["th", "st", "nd", "rd"].getD x "th").toList
    else ds
  let ds := if ds.length < precision then List.replicate (precision - ds.length) '0' ++ ds else ds
  let ds := if spec.thousands && base = 10 && !ordinal then groupThousands ds else ds
  let ds := (sign.map fun c => [c]).getD [] ++ ds
  let ds := (if alternate then altPrefix.toList else []) ++ ds
  padField spec ds ds.length

/-- A floating conversion: `%f` (`kind` 0), `%e` (1) or `%g` (2), with the case of its
letters. -/
def formatDouble (spec : Spec) (x : Float) (kind : Nat) (upper : Bool) : List Char :=
  let precision := spec.precision.getD 6
  let round : Int := if kind = 0 then -(precision : Int) else if kind = 2 then precision
    else precision + 1
  let d := decodeDouble x round (if spec.alternate2 then 26 else 16)
  if d.special = 2 then
    let word := (if spec.zeroPad then "null" else "NaN").toList
    padField spec word word.length
  else if d.special = 1 && !spec.zeroPad then
    let word := (if d.negative then "-Inf" else match spec.prefix? with
      | some c => String.ofList [c] ++ "Inf"
      | none => "Inf").toList
    padField spec word word.length
  else
    let d := if d.special = 1 then { d with digits := [9], point := 1000 } else d
    let sign : Option Char := if d.negative then some '-' else spec.prefix?
    let exp := d.point - 1
    let precision := if kind = 2 && precision > 0 then precision - 1 else precision
    let (useExp, precision, trimZeros) :=
      if kind = 2 then
        if exp < -4 || exp > precision then (true, precision, !spec.alternate)
        else (false, (precision - exp).toNat, !spec.alternate)
      else (kind = 1, precision, spec.alternate2)
    let intPlaces : Int := if useExp then 0 else d.point - 1
    let digits := d.digits
    -- Digits before the point.
    let (before, used) : List Char × Nat :=
      if intPlaces < 0 then (['0'], 0)
      else
        let n := intPlaces.toNat + 1
        let ds := (List.range n).map fun i => digitChar (digits.getD i 0)
        (if spec.thousands then groupThousands ds else ds, n)
    let showPoint := precision > 0 || spec.alternate || spec.alternate2
    -- Zeros after the point before the first significant digit.
    let leading := if intPlaces < -1 then min precision ((-intPlaces - 1).toNat) else 0
    let rest := precision - leading
    let after := List.replicate leading '0' ++
      (List.range rest).map fun i => digitChar (digits.getD (used + i) 0)
    let body := before ++ (if showPoint then ['.'] else []) ++ after
    let body := if trimZeros && showPoint then
        let trimmed := (body.reverse.dropWhile (· = '0')).reverse
        match trimmed.getLast? with
        | some '.' => if spec.alternate2 then trimmed ++ ['0'] else trimmed.dropLast
        | _ => trimmed
      else body
    let body := if useExp then
        let e := d.point - 1
        let digitsOf := (toString e.natAbs).toList
        let digitsOf := if digitsOf.length < 2 then '0' :: digitsOf else digitsOf
        body ++ [if upper then 'E' else 'e', if e < 0 then '-' else '+'] ++ digitsOf
      else body
    let signed := (sign.map fun c => [c]).getD [] ++ body
    if spec.zeroPad && !spec.leftJustify && signed.length < spec.width then
      let pad := List.replicate (spec.width - signed.length) '0'
      match sign with
      | some c => c :: pad ++ body
      | none => pad ++ body
    else padField spec signed signed.length

/-- The UTF-8 length of a list of characters. -/
def utf8Length (cs : List Char) : Nat := cs.foldl (fun n c => n + c.utf8Size) 0

/-- The longest prefix of a text within a number of bytes (or characters, when `inChars`). -/
def takeLimited (inChars : Bool) (limit : Nat) (cs : List Char) : List Char :=
  if inChars then cs.take limit
  else
    let rec go (room : Nat) : List Char → List Char
      | [] => []
      | c :: rest => if c.utf8Size ≤ room then c :: go (room - c.utf8Size) rest else []
    go limit cs

/-- Pads a text field, counting its width in bytes unless `inChars`. -/
def padText (spec : Spec) (cs : List Char) : List Char :=
  let length := if spec.alternate2 then cs.length else utf8Length cs
  padField spec cs length

/-- The state of formatting: the output so far, whether anything was written, and the arguments
left. -/
structure PrintState where
  out : List Char := []
  wrote : Bool := false
  args : List SqlValue

namespace PrintState

/-- Appends the text of a literal or a conversion to the output; even an empty one counts as
written. -/
def emit (s : PrintState) (cs : List Char) : PrintState :=
  { s with out := s.out ++ cs, wrote := true }

/-- Takes the next argument, if any. -/
def take (s : PrintState) : Option SqlValue × PrintState :=
  match s.args with
  | a :: rest => (some a, { s with args := rest })
  | [] => (none, s)

/-- Takes the next argument as an integer. -/
def takeInt (s : PrintState) : Int × PrintState :=
  let (a, s) := s.take
  ((a.map SqlValue.toInt).getD 0, s)

end PrintState

/-- Reads the flags of a conversion. -/
def readFlags : List Char → Spec → List Char × Spec
  | '-' :: rest, spec => readFlags rest { spec with leftJustify := true }
  | '+' :: rest, spec => readFlags rest { spec with prefix? := some '+' }
  | ' ' :: rest, spec => readFlags rest { spec with prefix? := some ' ' }
  | '#' :: rest, spec => readFlags rest { spec with alternate := true }
  | '!' :: rest, spec => readFlags rest { spec with alternate2 := true }
  | '0' :: rest, spec => readFlags rest { spec with zeroPad := true }
  | ',' :: rest, spec => readFlags rest { spec with thousands := true }
  | cs, spec => (cs, spec)

/-- Reads the flags, width and precision of a conversion after its `%`, taking `*` values from
the arguments. -/
def readSpec (cs : List Char) (s : PrintState) : List Char × Spec × PrintState :=
  let (cs, spec) := readFlags cs {}
  let (cs, spec, s) := match cs with
    | '*' :: rest =>
      let (w, s) := s.takeInt
      let spec := if w < 0 then { spec with leftJustify := true, width := w.natAbs }
        else { spec with width := w.toNat }
      (rest, spec, s)
    | _ =>
      let ds := cs.takeWhile Char.isDigit
      (cs.dropWhile Char.isDigit, { spec with width := Number.digitsValue ds }, s)
  let (cs, spec, s) := match cs with
    | '.' :: '*' :: rest =>
      let (p, s) := s.takeInt
      (rest, { spec with precision := if p < 0 then (if p ≥ -2147483647 then some p.natAbs
        else none) else some p.toNat }, s)
    | '.' :: rest =>
      let ds := rest.takeWhile Char.isDigit
      (rest.dropWhile Char.isDigit, { spec with precision := some (Number.digitsValue ds) }, s)
    | _ => (cs, spec, s)
  let cs := match cs with
    | 'l' :: 'l' :: rest => rest
    | 'l' :: rest => rest
    | _ => cs
  (cs, spec, s)

/-- Quotes a text for `%q`, `%Q` and `%w`: doubles the quote character, and for `%Q` encloses
the text in quotes; a missing text is `NULL` for `%Q` and `(NULL)` otherwise. -/
def escapeField (spec : Spec) (q : Char) (enclose : Bool) (arg : Option SqlValue) : List Char :=
  let text := arg.bind SqlValue.text?
  let body := match text with
    | some t => t.toList
    | none => (if enclose then "NULL" else "(NULL)").toList
  let body := match spec.precision with
    | some p => takeLimited spec.alternate2 p body
    | none => body
  let doubled := body.flatMap fun c => if c == q then [c, c] else [c]
  let quoted := if enclose && text.isSome then q :: doubled ++ [q] else doubled
  padText spec quoted

/-- Formats the rest of a format string. -/
def printLoop : Nat → List Char → PrintState → PrintState
  | 0, _, s => s
  | _ + 1, [], s => s
  | fuel + 1, c :: rest, s =>
    if c != '%' then
      let literal := (c :: rest).takeWhile (· != '%')
      printLoop fuel ((c :: rest).dropWhile (· != '%')) (s.emit literal)
    else
      match rest with
      | [] => s.emit ['%']
      | _ =>
        let (cs, spec, s) := readSpec rest s
        match cs with
        | [] => s
        | k :: more =>
          let integer (base : Nat) (upper signed : Bool) (pre : String) (ordinal : Bool) :=
            let (v, s) := s.takeInt
            printLoop fuel more (s.emit (formatInteger { spec with
              thousands := spec.thousands && base = 10 && !ordinal } v base upper signed pre
              ordinal))
          let double (kind : Nat) (upper : Bool) :=
            let (a, s) := s.take
            printLoop fuel more (s.emit (formatDouble spec ((a.map SqlValue.toReal).getD 0.0)
              kind upper))
          match k with
          | 'd' | 'i' => integer 10 false true "" false
          | 'u' => integer 10 false false "" false
          | 'x' => integer 16 false false "0x" false
          | 'X' => integer 16 true false "0X" false
          | 'o' => integer 8 false false "0" false
          | 'p' => integer 16 true false "0x" false
          | 'r' => integer 10 false true "" true
          | 'f' => double 0 false
          | 'e' => double 1 false
          | 'E' => double 1 true
          | 'g' => double 2 false
          | 'G' => double 2 true
          | 's' | 'z' =>
            let (a, s) := s.take
            let text := ((a.bind SqlValue.text?).getD "").toList
            let text := match spec.precision with
              | some p => takeLimited spec.alternate2 p text
              | none => text
            printLoop fuel more (s.emit (padText spec text))
          | 'q' =>
            let (a, s) := s.take
            printLoop fuel more (s.emit (escapeField spec '\'' false a))
          | 'Q' =>
            let (a, s) := s.take
            printLoop fuel more (s.emit (escapeField spec '\'' true a))
          | 'w' =>
            let (a, s) := s.take
            printLoop fuel more (s.emit (escapeField spec '"' false a))
          | 'c' =>
            let (a, s) := s.take
            let ch := ((a.bind SqlValue.text?).bind (·.toList.head?)).toList
            let times := max 1 (spec.precision.getD 1)
            let body := (List.replicate times ch).flatten
            printLoop fuel more (s.emit (padField spec body (times * (ch.length))))
          | '%' => printLoop fuel more (s.emit (padField spec ['%'] 1))
          | 'n' => printLoop fuel more s
          | _ => s

/-- The text of `printf(format, args)`: none when the format is null or nothing is written. -/
def printfFormat (format : SqlValue) (args : List SqlValue) : Option String :=
  match format.text? with
  | none => none
  | some f =>
    let cs := f.toList
    let s := printLoop (cs.length + 1) cs { args }
    if s.wrote then some (String.ofList s.out) else none

end Schedule.Sql
