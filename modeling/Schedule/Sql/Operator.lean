import Schedule.Sql.Convert
import Schedule.Sql.Syntax

/-!
# Operators on values

Arithmetic reads its operands as numbers (`SqlValue.toNumber`). When both are integers the
operation is done on integers, and a result beyond 64 bits is done again on doubles; otherwise
it is done on doubles. Division and remainder by zero are null, and so is a double result that
is not a number. A remainder on doubles is the remainder of their truncated integers.

Bitwise operators work on 64-bit words: text reads by its leading integer and a double is
truncated toward zero. A negative shift shifts the other way, and shifting by 64 or more gives
0, or -1 for a negative number shifted right.

Truth is three-valued: null is unknown, and any other value is true when it reads as a number
other than zero.

## Main definitions

* `arithmetic`, `bitwise`, `concatenate` — the binary operators on values.
* `truth`, `ofTruth`, `andTruth`, `orTruth` — three-valued logic.
-/

namespace Schedule.Sql

/-- A double as a value: not-a-number is null. -/
def realResult (x : Float) : SqlValue := if x.isNaN then .null else .real x

/-- Applies an arithmetic operator: on integers when both sides read as integers and the result
fits, otherwise on doubles. -/
def arithmetic (op : BinOp) (a b : SqlValue) : SqlValue :=
  match a, b with
  | .null, _ => .null
  | _, .null => .null
  | a, b =>
    let onReals : SqlValue :=
      let (p, q) := (a.toReal, b.toReal)
      match op with
      | .add => realResult (p + q)
      | .sub => realResult (p - q)
      | .mul => realResult (p * q)
      | .div => if q == 0.0 then .null else realResult (p / q)
      | .rem =>
        let (i, j) := (SqlValue.realToInt p, SqlValue.realToInt q)
        let j := if j = -1 then 1 else j
        if j = 0 then .null else realResult (intToFloat (i.tmod j))
      | _ => .null
    match a.toNumber, b.toNumber with
    | .integer x, .integer y =>
      match op with
      | .add => if fits64 (x + y) then .integer (x + y) else onReals
      | .sub => if fits64 (x - y) then .integer (x - y) else onReals
      | .mul => if fits64 (x * y) then .integer (x * y) else onReals
      | .div => if y = 0 then .null else if fits64 (x.tdiv y) then .integer (x.tdiv y) else onReals
      | .rem => if y = 0 then .null else .integer (x.tmod (if y = -1 then 1 else y))
      | _ => .null
    | _, _ => onReals

/-- Applies a bitwise operator on 64-bit words. -/
def bitwise (op : BinOp) (a b : SqlValue) : SqlValue :=
  match a, b with
  | .null, _ => .null
  | _, .null => .null
  | a, b =>
    let x := BitVec.ofInt 64 a.toInt
    let n := b.toInt
    let shifted (left : Bool) (k : Nat) : BitVec 64 :=
      if k ≥ 64 then (if !left && x.msb then BitVec.allOnes 64 else 0)
      else if left then x <<< k else x.sshiftRight k
    let r := match op with
      | .bitAnd => x &&& BitVec.ofInt 64 n
      | .bitOr => x ||| BitVec.ofInt 64 n
      | .shiftLeft => if n ≥ 0 then shifted true n.toNat else shifted false (-n).toNat
      | .shiftRight => if n ≥ 0 then shifted false n.toNat else shifted true (-n).toNat
      | _ => 0
    .integer r.toInt

/-- The bitwise complement of a value read as a 64-bit word; null stays null. -/
def complement : SqlValue → SqlValue
  | .null => .null
  | v => .integer (~~~(BitVec.ofInt 64 v.toInt)).toInt

/-- The negation of a value: `0 - v`, so that the least integer negates to a double. -/
def negate (v : SqlValue) : SqlValue := arithmetic .sub (.integer 0) v

/-- The concatenation of two values as text; null when either is null. -/
def concatenate (a b : SqlValue) : SqlValue :=
  match a, b with
  | .null, _ | _, .null => .null
  | a, b => .text (a.toText ++ b.toText)

/-- The truth of a value: numbers other than zero are true, text and bytes by the number they
start with; null is unknown. -/
def truth : SqlValue → Option Bool
  | .null => none
  | .integer n => some (n != 0)
  | v => some (v.toReal != 0.0)

/-- A truth value as a value. -/
def ofTruth : Option Bool → SqlValue
  | some true => .integer 1
  | some false => .integer 0
  | none => .null

/-- Three-valued conjunction. -/
def andTruth : Option Bool → Option Bool → Option Bool
  | some false, _ => some false
  | _, some false => some false
  | some true, some true => some true
  | _, _ => none

/-- Three-valued disjunction. -/
def orTruth : Option Bool → Option Bool → Option Bool
  | some true, _ => some true
  | _, some true => some true
  | some false, some false => some false
  | _, _ => none

end Schedule.Sql
