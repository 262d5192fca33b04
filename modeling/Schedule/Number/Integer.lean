import Schedule.Number.Decimal

/-!
# Reading integers of fixed width

An integer in text is an optional `+` or `-` followed by at least one ASCII digit and nothing
else. `readInt?` reads one within given bounds; `readInt32?` and `readInt64?` fix the bounds of
32-bit and 64-bit words. A double becomes a 32-bit word by dropping its fraction, values beyond
the word's range going to the nearest end and not-a-number to zero (`Float.toInt32` does
exactly this).
-/

namespace Schedule.Number

/-- Reads a signed decimal integer and keeps it when it lies in `[lo, hi]`. -/
def readInt? (lo hi : Int) (s : String) : Option Int :=
  let (neg, body) := splitSign s.toList
  if body.isEmpty || !body.all isDigit then none
  else
    let v : Int := if neg then -(digitsValue body : Int) else digitsValue body
    if lo ≤ v ∧ v ≤ hi then some v else none

/-- The least 32-bit word value. -/
def int32Min : Int := -2147483648

/-- The greatest 32-bit word value. -/
def int32Max : Int := 2147483647

/-- Reads a 32-bit signed integer. -/
def readInt32? (s : String) : Option Int32 :=
  (readInt? int32Min int32Max s).map Int32.ofInt

/-- Reads a 64-bit signed integer as an `Int`. -/
def readInt64? (s : String) : Option Int :=
  readInt? (-9223372036854775808) 9223372036854775807 s

/-- The double of a 32-bit integer. It is exact, every such integer being a double, and so it is
the nearest double to the integer's decimal. -/
def int32ToFloat (n : Int32) : Float :=
  Decimal.toFloat { negative := decide (n.toInt < 0), digits := n.toInt.natAbs, exponent := 0 }

/-- The 32-bit word of a double: the fraction dropped, the range's ends for values beyond it,
zero for not-a-number. -/
def truncToInt32 (x : Float) : Int32 := x.toInt32

end Schedule.Number
