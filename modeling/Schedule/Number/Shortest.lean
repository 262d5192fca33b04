import Schedule.Number.Binary

/-!
# Shortest decimal digits of a double

A positive finite double `m × 2^q` owns the interval of reals that round back to it: from the
midpoint with its lower neighbour to the midpoint with its upper neighbour, both ends included
exactly when `m` is even (reading rounds ties to the even significand). The lower neighbour sits
half as far away when `m` is the least significand of a binade above the subnormals.

`shortest` tries decimal grids with 1, 2, …, 17 significant digits. On each grid only the two
points around the value can lie in the interval; the first grid with such a point wins, and of two
points the nearer one, a tie going to the even one. The answer carries no trailing zeros.

## Main definitions

* `floorLog10` — the exponent of the leading decimal digit of `m × 2^q`.
* `shortest` — the fewest significant digits that read back to the double, and the nearest such.
-/

namespace Schedule.Number

/-- Compares `a × 10^e` with `b × 2^s` exactly. -/
def compareScaled (a : Nat) (e : Int) (b : Nat) (s : Int) : Ordering :=
  let left := a * Nat.pow 10 (max e 0).toNat * Nat.pow 2 (max (-s) 0).toNat
  let right := b * Nat.pow 2 (max s 0).toNat * Nat.pow 10 (max (-e) 0).toNat
  compare left right

/-- Whether `10^k ≤ m × 2^q`. -/
def powTenLe (k : Int) (m : Nat) (q : Int) : Bool :=
  compareScaled 1 k m q != .gt

/-- Moves an estimate of the decimal exponent to the exact one, one step at a time. -/
def settleLog10 (m : Nat) (q : Int) : Nat → Int → Int
  | 0, k => k
  | fuel + 1, k =>
    if !powTenLe k m q then settleLog10 m q fuel (k - 1)
    else if powTenLe (k + 1) m q then settleLog10 m q fuel (k + 1)
    else k

/-- The exponent `k` with `10^k ≤ m × 2^q < 10^(k+1)`, for `m` positive. The estimate from the
binary length is off by at most one. -/
def floorLog10 (m : Nat) (q : Int) : Int :=
  let bits : Int := (m.log2 : Int) + q
  settleLog10 m q 4 ((bits * 30103).fdiv 100000)

/-- A decimal `digits × 10^exponent`. -/
structure Digits where
  digits : Nat
  exponent : Int
  deriving Repr, Inhabited, DecidableEq

/-- Removes trailing zeros from the digits, raising the exponent. -/
def Digits.trim (d : Digits) : Digits :=
  go (decimalBound d.digits) d
where
  /-- A bound on how many zeros can be removed. -/
  decimalBound (n : Nat) : Nat := (Nat.toDigits 10 n).length
  go : Nat → Digits → Digits
    | 0, d => d
    | fuel + 1, d =>
      if d.digits ≠ 0 ∧ d.digits % 10 = 0 then go fuel ⟨d.digits / 10, d.exponent + 1⟩ else d

/-- `m × 2^q / 10^e` as quotient, remainder and divisor. -/
def divideByGrid (m : Nat) (q e : Int) : Nat × Nat × Nat :=
  let num := m * Nat.pow 2 (max q 0).toNat * Nat.pow 10 (max (-e) 0).toNat
  let den := Nat.pow 2 (max (-q) 0).toNat * Nat.pow 10 (max e 0).toNat
  (num / den, num % den, den)

/-- The rounding interval of `m × 2^q` in units of `2^(q-2)`: lower end, upper end, and whether
the ends belong to it. -/
def roundingInterval (m : Nat) (q : Int) : Nat × Nat × Bool :=
  let lower := if m = Nat.pow 2 52 ∧ -1074 < q then 4 * m - 1 else 4 * m - 2
  (lower, 4 * m + 2, m % 2 == 0)

/-- Whether `c × 10^e` lies in the rounding interval of `m × 2^q`. -/
def inInterval (m : Nat) (q : Int) (c : Nat) (e : Int) : Bool :=
  let (lower, upper, closed) := roundingInterval m q
  let s := q - 2
  let aboveLower := match compareScaled c e lower s with
    | .gt => true
    | .eq => closed
    | .lt => false
  let belowUpper := match compareScaled c e upper s with
    | .lt => true
    | .eq => closed
    | .gt => false
  aboveLower && belowUpper

/-- The point of the grid `10^e` chosen for `m × 2^q`, if one of the two around it reads back. -/
def gridChoice (m : Nat) (q e : Int) : Option Nat :=
  let (lo, r, den) := divideByGrid m q e
  if r = 0 then
    if inInterval m q lo e then some lo else none
  else
    let hi := lo + 1
    match inInterval m q lo e, inInterval m q hi e with
    | true, true =>
      if 2 * r < den then some lo
      else if den < 2 * r then some hi
      else if lo % 2 = 0 then some lo else some hi
    | true, false => some lo
    | false, true => some hi
    | false, false => none

/-- Tries grids with `n`, `n+1`, … significant digits, up to seventeen. -/
def searchDigits (m : Nat) (q k : Int) : Nat → Nat → Digits
  | 0, n => ⟨(divideByGrid m q (k - n + 1)).1, k - n + 1⟩
  | fuel + 1, n =>
    let e := k - n + 1
    match gridChoice m q e with
    | some c => ⟨c, e⟩
    | none => searchDigits m q k fuel (n + 1)

/-- The fewest significant digits that read back to the positive double `m × 2^q`, the nearest
such decimal among them, without trailing zeros. -/
def shortest (m : Nat) (q : Int) : Digits :=
  (searchDigits m q (floorLog10 m q) 17 1).trim

end Schedule.Number
