import Schedule.Number.Shortest

/-!
# Writing doubles as text

Both text forms of a double start from its shortest digits (`shortest`) and differ only in layout:

* `plainText` writes every digit positionally and never an exponent: `4`, `0.001`,
  `100000000000000000000`, with `-` before negative values including negative zero, and the
  words `NaN`, `inf`, `-inf`.
* `jsonText` writes a number token that reads back as a floating-point number: positional with a
  point when the leading digit is at most seventeen places left of the point and the value is at
  least `10^-5`, otherwise with an exponent (`4.0`, `1e+20`, `1.5e-07`). The caller decides what
  to write for values that are not finite.
-/

namespace Schedule.Number

/-- `n` copies of the digit zero. -/
def zeros (n : Nat) : String := String.ofList (List.replicate n '0')

/-- The digits of a natural number in base ten. -/
def digitString (n : Nat) : String := String.ofList (Nat.toDigits 10 n)

/-- Positional text of `0.ds × 10^point` for a digit string `ds` without trailing zeros. -/
def positional (ds : String) (point : Int) : String :=
  let len : Int := ds.length
  if point ≤ 0 then "0." ++ zeros (-point).toNat ++ ds
  else if point < len then
    String.ofList (ds.toList.take point.toNat) ++ "." ++ String.ofList (ds.toList.drop point.toNat)
  else ds ++ zeros (point - len).toNat

/-- The digit string and the position of the point for a finite nonzero magnitude. -/
def layout (m : Nat) (q : Int) : String × Int :=
  let d := shortest m q
  let ds := digitString d.digits
  (ds, d.exponent + ds.length)

/-- The text of a double with all digits positional and no exponent. -/
def plainText (x : Float) : String :=
  match shape x with
  | .nan => "NaN"
  | .infinite neg => if neg then "-inf" else "inf"
  | .finite neg m q =>
    let sign := if neg then "-" else ""
    if m = 0 then sign ++ "0"
    else
      let (ds, point) := layout m q
      sign ++ positional ds point

/-- The exponent suffix `e+XX` or `e-XX`, with at least two digits. -/
def exponentSuffix (e : Int) : String :=
  let digits := digitString e.natAbs
  let padded := if digits.length < 2 then "0" ++ digits else digits
  (if e < 0 then "e-" else "e+") ++ padded

/-- A number token for a finite double that reads back as the same double and as a
floating-point number. Values that are not finite give `none`. -/
def jsonText? (x : Float) : Option String :=
  match shape x with
  | .nan => none
  | .infinite _ => none
  | .finite neg m q =>
    let sign := if neg then "-" else ""
    if m = 0 then some (sign ++ "0.0")
    else
      let (ds, point) := layout m q
      if -5 < point ∧ point ≤ 17 then
        let body := positional ds point
        some (sign ++ if body.contains '.' then body else body ++ ".0")
      else
        let mantissa :=
          if ds.length = 1 then ds
          else String.ofList (ds.toList.take 1) ++ "." ++ String.ofList (ds.toList.drop 1)
        some (sign ++ mantissa ++ exponentSuffix (point - 1))

end Schedule.Number
