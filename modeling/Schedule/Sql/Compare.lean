import Schedule.Sql.Value

/-!
# Collations and comparisons

Texts compare under a collation: `BINARY` by code points, `NOCASE` with the ASCII capitals read
as small letters, and `RTRIM` with trailing spaces ignored. Values of other kinds compare as
`SqlValue.compare` orders them.

A value taking part in a comparison carries what the expression it came from says about
comparing it (`Operand`): the affinity of the column it was read from (or of the type it was
cast to), and its collation, which is explicit when a `COLLATE` gave it. A comparison brings
both sides to one affinity (`comparisonAffinity`): numeric when a numeric column takes part,
else the affinity of the only side that has one. It uses the collation of the left side when
that is explicit, else the right side's when that is explicit, else the left side's, else the
right side's, else `BINARY`.

## Main definitions

* `Collation` — the three collations, and `Collation.compareText`.
* `Operand` — a value with its affinity and collation.
* `compareOperands` — how a comparison orders two operands; none when either is null.
-/

namespace Schedule.Sql

/-- The collating sequences of texts. -/
inductive Collation where
  | binary
  | nocase
  | rtrim
  deriving Repr, Inhabited, DecidableEq

namespace Collation

/-- The collation a name denotes, in any case. -/
def ofName? (name : String) : Option Collation :=
  match name.map Char.toUpper with
  | "BINARY" => some .binary
  | "NOCASE" => some .nocase
  | "RTRIM" => some .rtrim
  | _ => none

/-- An ASCII capital read as its small letter. -/
def foldCase (c : Char) : Char :=
  if 'A' ≤ c && c ≤ 'Z' then Char.ofNat (c.toNat + 32) else c

/-- Compares two texts under a collation. -/
def compareText : Collation → String → String → Ordering
  | .binary, a, b => compare a b
  | .nocase, a, b => compare (a.map foldCase) (b.map foldCase)
  | .rtrim, a, b =>
    let trim (s : String) := String.ofList (s.toList.reverse.dropWhile (· = ' ')).reverse
    compare (trim a) (trim b)

end Collation

/-- The order of values, texts under a collation. -/
def SqlValue.compareWith (c : Collation) (a b : SqlValue) : Ordering :=
  match a, b with
  | .text x, .text y => c.compareText x y
  | a, b => a.compare b

/-- A value with what its expression says about comparing it: the affinity of the column it
was read from or the type it was cast to, and its collation, with whether a `COLLATE` made it
explicit. -/
structure Operand where
  value : SqlValue
  affinity : Option Affinity := none
  collation : Option Collation := none
  explicit : Bool := false
  deriving Inhabited

/-- A value with nothing to say about comparisons. -/
def Operand.plain (v : SqlValue) : Operand := { value := v }

/-- The affinity a comparison applies to both sides. -/
def comparisonAffinity : Option Affinity → Option Affinity → Option Affinity
  | some a, some b => if a.isNumeric || b.isNumeric then some .numeric else none
  | some a, none => some a
  | none, some b => some b
  | none, none => none

/-- A side of a comparison brought to the comparison's affinity: numeric affinity reads text
that spells a number as that number, text affinity writes numbers as text. -/
def toComparison (aff : Option Affinity) (v : SqlValue) : SqlValue :=
  match aff with
  | some a =>
    if a.isNumeric then v.numericForComparison
    else if a == .text then
      match v with
      | .integer n => .text (toString n)
      | .real x => .text (realText x)
      | v => v
    else v
  | none => v

/-- The collation a comparison of two operands uses. -/
def comparisonCollation (a b : Operand) : Collation :=
  if a.explicit then a.collation.getD .binary
  else if b.explicit then b.collation.getD .binary
  else (a.collation.or b.collation).getD .binary

/-- Compares two values under an affinity and a collation; none when either is null. -/
def compareUnder (aff : Option Affinity) (c : Collation) (a b : SqlValue) : Option Ordering :=
  match toComparison aff a, toComparison aff b with
  | .null, _ => none
  | _, .null => none
  | x, y => some (x.compareWith c y)

/-- Compares two operands; none when either is null. -/
def compareOperands (a b : Operand) : Option Ordering :=
  compareUnder (comparisonAffinity a.affinity b.affinity) (comparisonCollation a b) a.value b.value

/-- The collation the database uses between two operands that are not compared but combined,
such as the operands of a concatenation: the first explicit one. -/
def explicitCollation (ops : List Operand) : Option Collation × Bool :=
  match ops.find? (·.explicit) with
  | some o => (o.collation, true)
  | none => (none, false)

end Schedule.Sql
