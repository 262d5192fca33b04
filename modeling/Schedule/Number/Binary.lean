/-!
# Binary64 values by their parts

A double is read through its bit pattern as a sign, an integer significand and a power of two,
and a double is built back from such parts. Rounding an exact ratio of naturals to the nearest
double (`nearest`) is done in exact `Nat` arithmetic: the binade comes from `Nat.log2`, the
significand is a floor quotient, and the remainder decides the last bit, a tie going to the even
significand. Values below the least normal keep the exponent `-1074` and lose precision; values
at or above `2^1024` after rounding become infinite.
-/

namespace Schedule.Number

/-- The sign bit of a double. -/
def signBit (x : Float) : Bool := (x.toBits >>> 63) == 1

/-- The eleven exponent bits of a double, as stored (biased). -/
def storedExponent (x : Float) : Nat := ((x.toBits >>> 52) &&& 0x7FF).toNat

/-- The fifty-two fraction bits of a double. -/
def storedFraction (x : Float) : Nat := (x.toBits &&& 0xFFFFFFFFFFFFF).toNat

/-- What a double is: not a number, an infinity, or a finite value
`(-1)^negative * significand * 2^exponent`. -/
inductive Shape where
  | nan
  | infinite (negative : Bool)
  | finite (negative : Bool) (significand : Nat) (exponent : Int)
  deriving Repr, Inhabited

/-- The shape of a double: the hidden bit is added to normal values, and subnormal values share
the exponent of the least normal one. -/
def shape (x : Float) : Shape :=
  let e := storedExponent x
  let f := storedFraction x
  if e = 2047 then
    if f = 0 then .infinite (signBit x) else .nan
  else if e = 0 then .finite (signBit x) f (-1074)
  else .finite (signBit x) (f + Nat.pow 2 52) ((e : Int) - 1075)

/-- The double with the given sign bit, stored exponent and fraction bits. -/
def ofFields (negative : Bool) (stored : Nat) (fraction : Nat) : Float :=
  Float.ofBits ((if negative then (1 : UInt64) <<< 63 else 0) |||
    (stored.toUInt64 <<< 52) ||| fraction.toUInt64)

/-- Zero with the given sign. -/
def signedZero (negative : Bool) : Float := ofFields negative 0 0

/-- Infinity with the given sign. -/
def infinity (negative : Bool) : Float := ofFields negative 2047 0

/-- The quiet not-a-number with a clear sign bit. -/
def notANumber : Float := ofFields false 2047 (Nat.pow 2 51)

/-- `num / (den * 2^q)` as quotient, remainder and divisor, for either sign of `q`. -/
def scaleDown (num den : Nat) (q : Int) : Nat × Nat × Nat :=
  if 0 ≤ q then
    let d := den * Nat.pow 2 q.toNat
    (num / d, num % d, d)
  else
    let n := num * Nat.pow 2 (-q).toNat
    (n / den, n % den, den)

/-- Rounding to nearest decides to step up when the remainder passes half the divisor, or sits
exactly at half and the quotient is odd. -/
def roundsUp (quotient remainder divisor : Nat) : Bool :=
  decide (divisor < 2 * remainder) || (decide (2 * remainder = divisor) && quotient % 2 == 1)

/-- The double nearest to `num / den` with the given sign, a tie going to the even significand.
The denominator is expected to be positive. -/
def nearest (negative : Bool) (num den : Nat) : Float :=
  if num = 0 then signedZero negative
  else
    let q₀ : Int := (num.log2 : Int) - (den.log2 : Int) - 52
    let q₁ := if (scaleDown num den q₀).1 < Nat.pow 2 52 then q₀ - 1 else q₀
    let q := max q₁ (-1074)
    let (m, r, d) := scaleDown num den q
    let m₁ := if roundsUp m r d then m + 1 else m
    let (m₂, q₂) := if m₁ = Nat.pow 2 53 then (Nat.pow 2 52, q + 1) else (m₁, q)
    if 2046 < q₂ + 1075 then infinity negative
    else if m₂ < Nat.pow 2 52 then ofFields negative 0 m₂
    else ofFields negative (q₂ + 1075).toNat (m₂ - Nat.pow 2 52)

end Schedule.Number
