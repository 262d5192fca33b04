import Schedule.Sql.Compare
import Schedule.Sql.Convert

/-!
# Aggregate functions

An aggregate function reads one argument list for each row of a group and gives one value for
the group. Its state after the rows so far is an `Accumulator`; `Accumulator.step` takes the
next row and `Accumulator.finish` gives the value.

* `count(*)` counts rows, `count(x)` the rows where `x` is not null.
* `sum`, `total` and `avg` add the values that are not null, each read as a number. While every
  value is an integer the sum is exact; once a value is not (or the integers overflow) the sum
  is kept as a double with a running compensation for the rounding error (Kahan–Babuška–
  Neumaier), large integers being added in two parts so that each part is exact. `sum` of no
  values is null and of integers that overflow fails; `total` is always a double, 0.0 for no
  values; `avg` is the double sum over the count.
* `min` and `max` keep the least or greatest value that is not null, under the collation of
  their argument; a later value replaces the kept one only when strictly better. Whether a row
  replaced it (`hit`) decides which row the bare columns of an aggregate query are read from.
* `group_concat(x, sep)` and `string_agg(x, sep)` join the texts of the values that are not
  null, each after the first preceded by that row's separator (a comma when there is none).

## Main definitions

* `Accumulator` — the state of an aggregate, with `Accumulator.start`, `step` and `finish`.
-/

namespace Schedule.Sql

/-- A compensated sum of doubles: the sum and the rounding error it has lost. -/
structure CompensatedSum where
  sum : Float := 0.0
  error : Float := 0.0
  deriving Inhabited

namespace CompensatedSum

/-- Adds a double, keeping the rounding error of the addition. -/
def add (p : CompensatedSum) (r : Float) : CompensatedSum :=
  let s := p.sum
  let t := s + r
  let e := if s.abs > r.abs then (s - t) + r else (r - t) + s
  { sum := t, error := p.error + e }

/-- The largest integer below which doubles hold every integer exactly. -/
def exactBound : Int := 4503599627370496

/-- Adds an integer: a large one in two parts, each exact as a double. -/
def addInt (p : CompensatedSum) (n : Int) : CompensatedSum :=
  if n ≤ -exactBound || n ≥ exactBound then
    let small := n.tmod 16384
    (p.add (intToFloat (n - small))).add (intToFloat small)
  else p.add (intToFloat n)

/-- A compensated sum starting from an integer. -/
def ofInt (n : Int) : CompensatedSum :=
  if n ≤ -exactBound || n ≥ exactBound then
    let small := n.tmod 16384
    { sum := intToFloat (n - small), error := intToFloat small }
  else { sum := intToFloat n }

/-- The value of the sum: the sum corrected by its error, unless the error is not finite. -/
def value (p : CompensatedSum) : Float :=
  if p.error.isInf || p.error.isNaN then p.sum else p.sum + p.error

end CompensatedSum

/-- The state of `sum`, `total` or `avg`: the count of values added, the exact integer sum
while every value has been an integer, else the compensated sum and whether the integers
overflowed. -/
structure SumState where
  count : Nat := 0
  exact : Int := 0
  approximate : Option CompensatedSum := none
  overflow : Bool := false
  deriving Inhabited

namespace SumState

/-- Adds a value; null adds nothing. -/
def add (p : SumState) (v : SqlValue) : SumState :=
  match v.numericType with
  | .null => p
  | t =>
    let p := { p with count := p.count + 1 }
    match p.approximate, t with
    | none, .integer n =>
      if fits64 (p.exact + n) then { p with exact := p.exact + n }
      else { p with overflow := true, approximate := some ((CompensatedSum.ofInt p.exact).addInt n) }
    | none, t => { p with approximate := some ((CompensatedSum.ofInt p.exact).add t.toReal) }
    | some c, .integer n => { p with approximate := some (c.addInt n) }
    | some c, t => { p with overflow := false, approximate := some (c.add t.toReal) }

/-- The sum as a double. -/
def real (p : SumState) : Float :=
  match p.approximate with
  | some c => c.value
  | none => intToFloat p.exact

end SumState

/-- The state of an aggregate function over the rows so far. -/
inductive Accumulator where
  | count (rows : Nat)
  | sum (s : SumState)
  | total (s : SumState)
  | avg (s : SumState)
  /-- `min` (`greatest` false) or `max`, with the kept value. -/
  | extreme (greatest : Bool) (collation : Collation) (best : Option SqlValue)
  /-- `group_concat`: the text so far, none before the first value. -/
  | concat (text : Option String)
  deriving Inhabited

namespace Accumulator

/-- The state of an aggregate, by name, before any row; `min` and `max` compare under the
collation given. -/
def start (name : String) (collation : Collation) : Accumulator :=
  match name with
  | "count" => .count 0
  | "sum" => .sum {}
  | "total" => .total {}
  | "avg" => .avg {}
  | "max" => .extreme true collation none
  | "min" => .extreme false collation none
  | _ => .concat none

/-- Takes the argument values of one row (none for `count(*)`), giving the new state and
whether a `min` or `max` kept this row's value or had none (which makes the bare columns read
this row). -/
def step (a : Accumulator) (args : List SqlValue) : Accumulator × Bool :=
  let v := args.headD .null
  match a with
  | .count n => (.count (if args.isEmpty || !v.isNull then n + 1 else n), false)
  | .sum s => (.sum (s.add v), false)
  | .total s => (.total (s.add v), false)
  | .avg s => (.avg (s.add v), false)
  | .extreme greatest c best =>
    match v, best with
    | .null, some _ => (a, false)
    | .null, none => (a, true)
    | v, none => (.extreme greatest c (some v), true)
    | v, some b =>
      let order := b.compareWith c v
      if (greatest && order == .lt) || (!greatest && order == .gt) then
        (.extreme greatest c (some v), true)
      else (a, false)
  | .concat text =>
    match v with
    | .null => (a, false)
    | v =>
      let sep := match args with
        | [_] => ","
        | _ => match args.getD 1 .null with
          | .null => ""
          | s => s.toText
      match text with
      | none => (.concat (some v.toText), false)
      | some t => (.concat (some (t ++ sep ++ v.toText)), false)

/-- The value of the aggregate over the rows taken, or its failure. -/
def finish : Accumulator → Except String SqlValue
  | .count n => .ok (.integer n)
  | .sum s =>
    if s.count = 0 then .ok .null
    else match s.approximate with
      | none => .ok (.integer s.exact)
      | some c => if s.overflow then .error "integer overflow" else .ok (.real c.value)
  | .total s => .ok (.real s.real)
  | .avg s => if s.count = 0 then .ok .null else .ok (.real (s.real / intToFloat s.count))
  | .extreme _ _ best => .ok (best.getD .null)
  | .concat text => .ok ((text.map SqlValue.text).getD .null)

/-- Whether the aggregate is `min` or `max`. -/
def isExtreme : Accumulator → Bool
  | .extreme .. => true
  | _ => false

end Accumulator

end Schedule.Sql
