import Schedule.Sql.Analysis
import Schedule.Sql.Operator
import Schedule.Sql.Aggregate
import Schedule.Sql.Partial
import Schedule.Sql.Parser.Expr

/-!
# Evaluating expressions and queries

An expression is evaluated against an `Env`: the scopes of the queries around it, whose frames
hold the current rows. Its value comes with what the expression says about comparing it
(`Operand`). A query is evaluated to its result columns and its rows (`Relation`), the rows
possibly ending in a failure (`Partial`).

Expressions:

* a comparison brings both sides to one affinity and compares under one collation
  (`compareOperands`); null compares as unknown;
* `AND` and `OR` in a condition test their operands from the left and stop as soon as the
  outcome is decided (`evalTest`); as values both operands are read;
* `x IN (…)` reads the items one at a time and stops at the first equal to `x`, unless the list
  is three or more items that read no column, which are all read first; `x IN (SELECT …)` reads
  every row;
* `CASE`, `coalesce`, `ifnull` and `iif` read only the operands they need;
* a scalar subquery gives its first row's first value, or null; `EXISTS` whether there is a row;
* an aggregate call reads its arguments for every row of the current group.

Queries: a select reads the rows of its `FROM` clause (nested loops, from the left; an outer
join adds a row of nulls where nothing matched, a right join's unmatched rows come last),
keeps those its `WHERE` conditions accept (the conditions that read no column of the query are
tested once, first), and then either gives a row for each, or gathers them into groups (sorted
by the `GROUP BY` keys) and gives a row for each group that `HAVING` accepts. In a group, a
column outside an aggregate reads the group's first row, or, when the query has `min` or `max`,
the last row at which the last of them took its value. `DISTINCT` keeps first occurrences.
`UNION`, `INTERSECT` and `EXCEPT` give their rows sorted; `UNION ALL` gives the left rows then
the right. `ORDER BY` sorts stably, and `LIMIT` and `OFFSET` then cut.

A common table that names itself is recursive: its first selects give the first rows, and each
row taken from the queue (in order, or by the table's `ORDER BY`) is given out and fed to the
recursive selects, whose rows join the queue (with `UNION`, only rows not seen before).

## Main definitions

* `Relation` — a query's columns and rows.
* `evalExpr`, `evalTest`, `evalQuery` — the evaluation.
-/

namespace Schedule.Sql

/-- The result of a query: its columns and its rows. -/
structure Relation where
  columns : List OutputColumn
  rows : Partial (List SqlValue)
  deriving Inhabited

/-- A row a select core gives: its values and its keys for `ORDER BY`. -/
abbrev KeyedRow := List SqlValue × List SortKey

/-- The settings a function call reads, from the environment. -/
def Env.callContext (env : Env) (collation : Collation) : CallContext :=
  { collation, caseSensitiveLike := env.settings.caseSensitiveLike
    lastInsertRowid := env.lastInsertRowid, changes := env.changes
    totalChanges := env.totalChanges }

/-- A limit or offset as an integer: a value that numeric affinity does not make an integer is a
datatype mismatch. -/
def limitValue (v : SqlValue) : Except SqlError Int :=
  match v.withAffinity .numeric with
  | .integer n => .ok n
  | _ => .error (SqlError.plain "datatype mismatch")

/-- One step of looking for a value in an `IN` list: whether it is found, given whether it was
found among the items before (null when a comparison was null) and the next item; the
comparison uses the value's affinity and collation. -/
def inStep (x : Operand) (found : Option Bool) (v : SqlValue) : Option Bool :=
  orTruth found ((compareUnder x.affinity (x.collation.getD .binary) x.value v).map (· == .eq))

/-- The equality of two rows of operands: false if some pair differs, else unknown if some pair
is null, else true. -/
def vectorEqual (xs ys : List Operand) : Option Bool :=
  (xs.zip ys).foldl (fun acc (x, y) => andTruth acc ((compareOperands x y).map (· == .eq)))
    (some true)

/-- A row comparison other than equality, from the first pair on: a pair that is equal passes the
decision to the next, and the last pair is compared by the operator itself. -/
def vectorOrder (op : BinOp) : List (Operand × Operand) → Option Bool
  | [] => some false
  | [(x, y)] =>
    (compareOperands x y).map fun o =>
      match op with
      | .lt => o == .lt
      | .le => o != .gt
      | .gt => o == .gt
      | _ => o != .lt
  | (x, y) :: rest =>
    let strict : BinOp := match op with
      | .le | .lt => .lt
      | _ => .gt
    match compareOperands x y with
    | none => none
    | some .eq => vectorOrder op rest
    | some o => some ((strict == .lt && o == .lt) || (strict == .gt && o == .gt))

/-- Whether two values are the same for `IS`: both null, or equal. -/
def sameForIs (x y : Operand) : Bool :=
  match x.value, y.value with
  | .null, .null => true
  | .null, _ | _, .null => false
  | _, _ => compareOperands x y == some .eq

/-- The result of a comparison operator on two operands. -/
def compareBy (op : BinOp) (x y : Operand) : SqlValue :=
  match op with
  | .eq => ofTruth ((compareOperands x y).map (· == .eq))
  | .ne => ofTruth ((compareOperands x y).map (· != .eq))
  | .lt => ofTruth ((compareOperands x y).map (· == .lt))
  | .le => ofTruth ((compareOperands x y).map (· != .gt))
  | .gt => ofTruth ((compareOperands x y).map (· == .gt))
  | .ge => ofTruth ((compareOperands x y).map (· != .lt))
  | .is => ofTruth (some (sameForIs x y))
  | .isNot => ofTruth (some !(sameForIs x y))
  | _ => .null

/-- Whether a binary operator compares its operands. -/
def BinOp.isComparison : BinOp → Bool
  | .eq | .ne | .lt | .le | .gt | .ge | .is | .isNot => true
  | _ => false

/-- Whether a test outcome takes the branch: a true outcome when `onTrue`, a false one
otherwise, and null when `onNull`. -/
def takes (onTrue onNull : Bool) : Option Bool → Bool
  | some b => b == onTrue
  | none => onNull

/-- The key of a result value for `DISTINCT` and set operations: the value under the column's
collation. -/
def distinctKeys (columns : List OutputColumn) (row : List SqlValue) : List SortKey :=
  (row.zip (columns.map (·.collation.getD .binary) ++ List.replicate row.length .binary)).map
    fun (v, c) => { value := v, collation := c }

/-- The integer an `ORDER BY` or `GROUP BY` term names a result column by, if it is one. -/
def Expr.columnNumber? : Expr → Option Int
  | .literal (.integer n) => some n
  | .collate e _ => e.columnNumber?
  | _ => none

/-- The result column an `ORDER BY` term names by its alias, if any. -/
def aliasIndex? (outputs : List Output) : Expr → Option Nat
  | .column none none n _ _ => outputs.findIdx? fun o => o.aliasName.any (sameName · n)
  | .collate e _ => aliasIndex? outputs e
  | _ => none

/-- The explicit collation of an `ORDER BY` term. -/
def Expr.explicitCollation? : Expr → Option Collation
  | .collate _ name => Collation.ofName? name
  | _ => none

/-- The recursive and initial selects of a common table's body, split where the selects that name
the table begin. -/
def splitRecursive (name : String) (cores : List (Option SetOp × SelectCore)) :
    List (Option SetOp × SelectCore) × List (SetOp × SelectCore) :=
  let names (c : SelectCore) : Bool :=
    let rec inSource (fuel : Nat) (s : Source) : Bool :=
      match fuel, s with
      | 0, _ => false
      | _ + 1, .table none n _ _ => sameName n name
      | fuel + 1, .join l _ _ r _ _ => inSource fuel l || inSource fuel r
      | _, _ => false
    match c with
    | .select _ _ (some s) _ _ _ => inSource 100 s
    | _ => false
  let initial := cores.takeWhile fun (_, c) => !names c
  let rest := (cores.drop initial.length).filterMap fun (op, c) => op.map (·, c)
  (initial, rest)

/-- The arms of a compound body with the operator before each (none for the first). -/
def QueryBody.arms : QueryBody → List (Option SetOp × SelectCore)
  | .single c => [(none, c)]
  | .compound left op right => left.arms ++ [(some op, right)]

/-- A compound body of arms, the first operator dropped. -/
def QueryBody.ofArms : List (Option SetOp × SelectCore) → Option QueryBody
  | [] => none
  | (_, c) :: rest =>
    some (rest.foldl (fun b (op, c) => .compound b (op.getD .unionAll) c) (.single c))

/-- Combines the rows of two arms of a compound by a set operator. -/
def combineRows (columns : List OutputColumn) (op : SetOp) (left right : List (List SqlValue)) :
    List (List SqlValue) :=
  let key := distinctKeys columns
  let sorted (rows : List (List SqlValue)) : List (List SqlValue) :=
    (sortByKeys (rows.map fun r => (r, key r))).map (·.1)
  let member (rows : List (List SqlValue)) (r : List SqlValue) : Bool :=
    rows.any fun s => compareKeyLists (key s) (key r) == .eq
  match op with
  | .unionAll => left ++ right
  | .union => sorted (distinctByKeys key (left ++ right))
  | .intersect => sorted (distinctByKeys key (left.filter (member right)))
  | .except => sorted (distinctByKeys key (left.filter fun r => !member right r))

/-- The row of a scope, for the values of an outer join's missing side. -/
def nullFrames (frames : List Frame) : List Frame := frames.map Frame.nullRow

/-- The first frame among `frames` with a column, and that column's operand. -/
def usingOperand (frames : List Frame) (name : String) : Operand :=
  match frames.findSome? fun f => (f.fieldIndex? name).map f.operand with
  | some o => o
  | none => { value := .null }

/-- Whether two rows of a `USING` join agree on the shared columns. -/
def usingMatches (left right : List Frame) (shared : List String) : Bool :=
  shared.all fun n => compareOperands (usingOperand left n) (usingOperand right n) == some .eq

/-- The rows of a table in the order a scan reads them. -/
def Table.scanRows (t : Table) (reverse : Bool) : List StoredRow :=
  if reverse then t.rows.reverse else t.rows

mutual

/-- The value of an expression, with its affinity and collation. -/
def evalExpr (fuel : Nat) (env : Env) (e : Expr) : Except SqlError Operand :=
  match fuel with
  | 0 => .error (SqlError.plain "expression too deep")
  | fuel + 1 =>
    match e with
    | .literal v => .ok (.plain v)
    | .negatedInteger d =>
      if d = "9223372036854775808" then .ok (.plain (.integer int64Min))
      else .ok (.plain (negate (Parser.integerLiteral d)))
    | .param i => .ok (.plain (env.params.getD (i - 1) .null))
    | .column s t n offset dq =>
      match lookupName env.scopes s t n dq with
      | .column _ o _ => .ok o
      | .aliased depth a =>
        if depth == 0 then evalExpr fuel env a
        else evalExpr fuel { env with scopes := env.scopes.drop depth, group := none } a
      | .text s => .ok (.plain (.text s))
      | .truth b => .ok (.plain (.integer (if b then 1 else 0)))
      | .ambiguous => .error { message := "ambiguous column name: " ++ columnShown s t n, offset }
      | .missing => .error { message := "no such column: " ++ columnShown s t n, offset }
    | .neg a =>
      match a with
      | .literal (.real x) => .ok (.plain (.real (-x)))
      | a => do
        let o ← evalExpr fuel env a
        .ok { (firstExplicit [o]) with value := negate o.value }
    | .pos a => do
      let o ← evalExpr fuel env a
      .ok { o with affinity := none }
    | .not a => do
      let o ← evalExpr fuel env a
      .ok { (firstExplicit [o]) with value := ofTruth ((truth o.value).map (!·)) }
    | .bitNot a => do
      let o ← evalExpr fuel env a
      .ok { (firstExplicit [o]) with value := complement o.value }
    | .isNull a negated => do
      let o ← evalExpr fuel env a
      .ok { (firstExplicit [o]) with value := ofTruth (some (o.value.isNull != negated)) }
    | .truthTest a value negated => do
      let o ← evalExpr fuel env a
      .ok { (firstExplicit [o]) with
            value := ofTruth (some ((truth o.value == some value) != negated)) }
    | .collate a name => do
      let o ← evalExpr fuel env a
      .ok { o with collation := Collation.ofName? name, explicit := true }
    | .cast a ty => do
      let o ← evalExpr fuel env a
      let aff := castAffinity ty
      .ok { o with value := o.value.cast aff, affinity := some aff }
    | .binary op a b =>
      if op.isComparison && (a matches .vector _ || b matches .vector _) then do
        let xs ← evalVector fuel env a
        let ys ← evalVector fuel env b
        let pairs := xs.zip ys
        let v := match op with
          | .eq => ofTruth (vectorEqual xs ys)
          | .ne => ofTruth ((vectorEqual xs ys).map (!·))
          | .is => ofTruth (some (pairs.all fun (x, y) => sameForIs x y))
          | .isNot => ofTruth (some !(pairs.all fun (x, y) => sameForIs x y))
          | op => ofTruth (vectorOrder op pairs)
        .ok (.plain v)
      else do
        let x ← evalExpr fuel env a
        let y ← evalExpr fuel env b
        let info := firstExplicit [x, y]
        let v := match op with
          | .and => ofTruth (andTruth (truth x.value) (truth y.value))
          | .or => ofTruth (orTruth (truth x.value) (truth y.value))
          | .concat => concatenate x.value y.value
          | .bitAnd | .bitOr | .shiftLeft | .shiftRight => bitwise op x.value y.value
          | .add | .sub | .mul | .div | .rem => arithmetic op x.value y.value
          | .extract | .extractValue => .null
          | op => compareBy op x y
        .ok { info with value := v }
    | .between a low high negated => do
      let x ← evalExpr fuel env a
      let lo ← evalExpr fuel env low
      let hi ← evalExpr fuel env high
      let inside := andTruth ((compareOperands x lo).map (· != .lt))
        ((compareOperands x hi).map (· != .gt))
      .ok (.plain (ofTruth (if negated then inside.map (!·) else inside)))
    | .inList a items negated => do
      let x ← evalExpr fuel env a
      if items.isEmpty then .ok (.plain (.integer (if negated then 1 else 0)))
      else
        let found ← if 3 ≤ items.length && !items.any (Expr.readsColumns 100) then do
            let vs ← evalList fuel env items
            pure (vs.foldl (fun acc v => inStep x acc v.value) (some false))
          else searchList fuel env x (some false) items
        .ok (.plain (ofTruth (if negated then found.map (!·) else found)))
    | .inQuery a q negated => do
      let xs ← evalVector fuel env a
      let r ← evalQuery fuel (env.push {}) q
      let rows ← r.rows.toExcept
      let found : Option Bool :=
        if rows.isEmpty then some false
        else
          match xs with
          | [x] =>
            let aff := comparisonAffinity x.affinity ((r.columns.head?.bind (·.affinity)))
            let coll := comparisonCollation x
              { value := .null, collation := r.columns.head?.bind (·.collation) }
            if x.value.isNull then none
            else rows.foldl (fun acc row =>
              orTruth acc ((compareUnder aff coll x.value (row.headD .null)).map (· == .eq)))
              (some false)
          | xs =>
            rows.foldl (fun acc row =>
              let ys := (row.zip r.columns).map fun (v, c) =>
                ({ value := v, affinity := c.affinity, collation := c.collation } : Operand)
              orTruth acc (vectorEqual xs ys)) (some false)
      .ok (.plain (ofTruth (if negated then found.map (!·) else found)))
    | .pattern op a pat esc negated => do
      let p ← evalExpr fuel env pat
      let x ← evalExpr fuel env a
      let escape ← match esc with
        | some z => some <$> evalExpr fuel env z
        | none => pure none
      let ctx := env.callContext .binary
      let r ← match op with
        | .like => (likeValue ctx p.value x.value (escape.map (·.value))).mapError SqlError.plain
        | .glob => (globValue p.value x.value).mapError SqlError.plain
        | _ => .error (SqlError.plain "no such function: REGEXP")
      .ok (.plain (if negated then ofTruth ((truth r).map (!·)) else r))
    | .caseOf operand conditions results otherwise => do
      match operand with
      | some subject =>
        let x ← evalExpr fuel env subject
        let chosen ← chooseEqual fuel env x (conditions.zip results)
        match chosen with
        | some r => evalExpr fuel env r
        | none =>
          match otherwise with
          | some o => evalExpr fuel env o
          | none => .ok (.plain .null)
      | none =>
        let chosen ← chooseTrue fuel env (conditions.zip results)
        match chosen with
        | some r => evalExpr fuel env r
        | none =>
          match otherwise with
          | some o => evalExpr fuel env o
          | none => .ok (.plain .null)
    | .call name args distinct star _ => evalCall fuel env name args distinct star
    | .scalar q => do
      let r ← evalQuery fuel (env.push {}) q
      let first ← (r.rows.take 1).first?
      let aff := r.columns.head?.bind (·.affinity)
      .ok { value := (first.bind (·.head?)).getD .null, affinity := aff }
    | .exists q => do
      let r ← evalQuery fuel (env.push {}) q
      let first ← (r.rows.take 1).first?
      .ok (.plain (.integer (if first.isSome then 1 else 0)))
    | .vector items =>
      match items with
      | a :: _ => evalExpr fuel env a
      | [] => .ok (.plain .null)
    | .raise action message =>
      match action with
      | .ignore => .error { message := "", skipRow := true }
      | _ => .error (SqlError.plain message)
    | .invalid message offset => .error { message, offset := some offset }

/-- The values of a list of expressions, in order. -/
def evalList (fuel : Nat) (env : Env) (es : List Expr) : Except SqlError (List Operand) :=
  match fuel with
  | 0 => .error (SqlError.plain "expression too deep")
  | fuel + 1 =>
    match es with
    | [] => .ok []
    | e :: rest => do
      let v ← evalExpr fuel env e
      let vs ← evalList fuel env rest
      .ok (v :: vs)

/-- The operands of a row value: the items of `(a, b, …)`, or the first row of a subquery. -/
def evalVector (fuel : Nat) (env : Env) (e : Expr) : Except SqlError (List Operand) :=
  match fuel with
  | 0 => .error (SqlError.plain "expression too deep")
  | fuel + 1 =>
    match e with
    | .vector items => evalList fuel env items
    | .scalar q => do
      let r ← evalQuery fuel (env.push {}) q
      let first ← (r.rows.take 1).first?
      let values := first.getD (r.columns.map fun _ => .null)
      .ok ((values.zip r.columns).map fun (v, c) =>
        { value := v, affinity := c.affinity, collation := c.collation })
    | e => do
      let o ← evalExpr fuel env e
      .ok [o]

/-- The result of the first `WHEN` of a `CASE` with a subject that equals the subject. -/
def chooseEqual (fuel : Nat) (env : Env) (x : Operand) (arms : List (Expr × Expr)) :
    Except SqlError (Option Expr) :=
  match fuel with
  | 0 => .error (SqlError.plain "expression too deep")
  | fuel + 1 =>
    match arms with
    | [] => .ok none
    | (c, r) :: rest => do
      let v ← evalExpr fuel env c
      if compareOperands x v == some .eq then .ok (some r) else chooseEqual fuel env x rest

/-- The result of the first `WHEN` of a `CASE` whose condition holds. -/
def chooseTrue (fuel : Nat) (env : Env) (arms : List (Expr × Expr)) :
    Except SqlError (Option Expr) :=
  match fuel with
  | 0 => .error (SqlError.plain "expression too deep")
  | fuel + 1 =>
    match arms with
    | [] => .ok none
    | (c, r) :: rest => do
      if ← evalTest fuel env c true false then .ok (some r) else chooseTrue fuel env rest

/-- Looks for a value among the items of an `IN` list, reading one item at a time and stopping
at the first that equals it. -/
def searchList (fuel : Nat) (env : Env) (x : Operand) (found : Option Bool) (items : List Expr) :
    Except SqlError (Option Bool) :=
  match fuel with
  | 0 => .error (SqlError.plain "expression too deep")
  | fuel + 1 =>
    match items with
    | [] => .ok found
    | e :: rest =>
      if found == some true then .ok found
      else do
        let v ← evalExpr fuel env e
        searchList fuel env x (inStep x found v.value) rest

/-- Whether a condition takes a branch: on a true outcome when `onTrue`, on a false one
otherwise, and on null when `onNull`. `AND`, `OR`, `NOT`, truth tests and `BETWEEN` are tested
through their operands from the left, stopping as soon as the branch is decided. -/
def evalTest (fuel : Nat) (env : Env) (e : Expr) (onTrue onNull : Bool) : Except SqlError Bool :=
  match fuel with
  | 0 => .error (SqlError.plain "expression too deep")
  | fuel + 1 =>
    match e, onTrue with
    | .binary .and a b, true => do
      if ← evalTest fuel env a false (!onNull) then .ok false
      else evalTest fuel env b true onNull
    | .binary .and a b, false => do
      if ← evalTest fuel env a false onNull then .ok true
      else evalTest fuel env b false onNull
    | .binary .or a b, true => do
      if ← evalTest fuel env a true onNull then .ok true
      else evalTest fuel env b true onNull
    | .binary .or a b, false => do
      if ← evalTest fuel env a true (!onNull) then .ok false
      else evalTest fuel env b false onNull
    | .not a, _ => evalTest fuel env a (!onTrue) onNull
    | .truthTest a value negated, true => evalTest fuel env a (value != negated) negated
    | .truthTest a value negated, false => evalTest fuel env a (value == negated) (!negated)
    | .between a low high negated, _ => do
      let x ← evalExpr fuel env a
      let lo ← evalExpr fuel env low
      let lowOk := takes (onTrue != negated) onNull ((compareOperands x lo).map (· != .lt))
      if onTrue != negated then
        if !(takes false (!onNull) ((compareOperands x lo).map (· != .lt))) then do
          let hi ← evalExpr fuel env high
          .ok (takes true onNull ((compareOperands x hi).map (· != .gt)))
        else .ok false
      else
        if takes false onNull ((compareOperands x lo).map (· != .lt)) then .ok true
        else do
          let _ := lowOk
          let hi ← evalExpr fuel env high
          .ok (takes false onNull ((compareOperands x hi).map (· != .gt)))
    | e, _ => do
      let o ← evalExpr fuel env e
      .ok (takes onTrue onNull (truth o.value))

/-- The value of a function call: an aggregate over the current group, a function that reads
only the arguments it needs, or a function of its argument values. -/
def evalCall (fuel : Nat) (env : Env) (name : String) (args : List Expr) (distinct star : Bool) :
    Except SqlError Operand :=
  match fuel with
  | 0 => .error (SqlError.plain "expression too deep")
  | fuel + 1 =>
    let lname := name.map Char.toLower
    let argc := if star then 0 else args.length
    if isAggregateCall lname argc then
      match env.group with
      | some rows => do
        let v ← evalAggregate fuel env lname args distinct star rows
        .ok (.plain v)
      | none => .error (SqlError.plain ("misuse of aggregate: " ++ name ++ "()"))
    else
      match lname with
      | "coalesce" | "ifnull" => firstNotNull fuel env args
      | "iif" =>
        match args with
        | [c, a, b] => do
          if ← evalTest fuel env c true false then evalExpr fuel env a else evalExpr fuel env b
        | _ => .ok (.plain .null)
      | "likely" | "unlikely" | "likelihood" =>
        match args with
        | a :: _ => do
          let o ← evalExpr fuel env a
          .ok (.plain o.value)
        | [] => .ok (.plain .null)
      | _ => do
        let ops ← evalList fuel env args
        let coll := (ops.findSome? (·.collation)).getD .binary
        let v ← (applyFunction (env.callContext coll) lname (ops.map (·.value))).mapError
          SqlError.plain
        .ok { (firstExplicit ops) with value := v }

/-- The first argument that is not null, reading them in order. -/
def firstNotNull (fuel : Nat) (env : Env) (args : List Expr) : Except SqlError Operand :=
  match fuel with
  | 0 => .error (SqlError.plain "expression too deep")
  | fuel + 1 =>
    match args with
    | [] => .ok (.plain .null)
    | a :: rest => do
      let o ← evalExpr fuel env a
      if o.value.isNull then firstNotNull fuel env rest else .ok (.plain o.value)

/-- The value of an aggregate call over the rows of a group, each row given as its scope. -/
def evalAggregate (fuel : Nat) (env : Env) (name : String) (args : List Expr)
    (distinct star : Bool) (rows : List Scope) : Except SqlError SqlValue :=
  match fuel with
  | 0 => .error (SqlError.plain "expression too deep")
  | fuel + 1 => do
    let coll := ((args.head?.map (exprInfo 100 env)).bind (·.collation)).getD .binary
    let outer := env.scopes.drop 1
    let step (state : Accumulator × List (List SortKey)) (r : Scope) :
        Except SqlError (Accumulator × List (List SortKey)) := do
      let (acc, seen) := state
      let vals ← if star then pure [] else do
        let ops ← evalList fuel { env with scopes := r :: outer, group := none } args
        pure (ops.map (·.value))
      let key : List SortKey := vals.map fun v => { value := v, collation := coll }
      if distinct && seen.any (compareKeyLists · key == .eq) then pure (acc, seen)
      else pure ((acc.step vals).1, if distinct then key :: seen else seen)
    let (acc, _) ← rows.foldlM step (Accumulator.start name coll, [])
    acc.finish.mapError SqlError.plain

/-- The result columns and rows of a query. -/
def evalQuery (fuel : Nat) (env : Env) (q : Query) : Except SqlError Relation :=
  match fuel with
  | 0 => .error (SqlError.plain "query too deep")
  | fuel + 1 =>
    match q with
    | .mk _ ctes body orderBy limit offset => do
      let env := if ctes.isEmpty then env else { env with ctes := { tables := ctes } :: env.ctes }
      let bare := env.push {}
      let lim ← match limit with
        | some e => do
          let o ← evalExpr fuel bare e
          some <$> limitValue o.value
        | none => pure none
      let off ← match offset with
        | some e => do
          let o ← evalExpr fuel bare e
          some <$> limitValue o.value
        | none => pure none
      let columns := queryOutputs fuel env q
      let cut (rows : Partial (List SqlValue)) : Partial (List SqlValue) :=
        let skip := match off with
          | some n => if n > 0 then n.toNat else 0
          | none => 0
        match lim with
        | some n => if n < 0 then rows.drop skip else (rows.take (skip + n.toNat)).drop skip
        | none => rows.drop skip
      if lim == some 0 then return { columns, rows := {} }
      match body with
      | .single core => do
        let rows ← evalCore fuel env core orderBy
        let rows := if orderBy.isEmpty then rows.map (·.1)
          else (rows.blocking.map id |> fun p => { p with items := (sortByKeys p.items).map (·.1) })
        .ok { columns, rows := cut rows }
      | body => do
        let rows ← evalCompound fuel env columns body.arms
        let rows := if orderBy.isEmpty then rows
          else
            let outputs := match body.cores with
              | c :: _ => coreOutputList fuel env c
              | [] => []
            let keyed := rows.blocking.map fun row =>
              (row, orderBy.map fun
                | .mk e descending nullsFirst =>
                  let i : Nat := match e.columnNumber? with
                    | some n => (n - 1).toNat
                    | none => ((aliasIndex? outputs e).orElse fun _ =>
                        columns.findIdx? fun c => match e with
                          | .column none none n _ _ => sameName c.name n
                          | _ => false).getD 0
                  { value := row.getD i .null
                    collation := (e.explicitCollation?.orElse fun _ =>
                      (columns.getD i default).collation).getD .binary
                    descending, nullsFirst := nullsFirst.getD !descending })
            { keyed with items := (sortByKeys keyed.items).map (·.1) }
        .ok { columns, rows := cut rows }

/-- The result columns of a select core once `*` is expanded. -/
def coreOutputList (fuel : Nat) (env : Env) (c : SelectCore) : List Output :=
  match fuel with
  | 0 => []
  | fuel + 1 =>
    match c with
    | .select _ ps (some s) _ _ _ => expandProjections (labelSubqueries (sourceFrames fuel env s)) ps
    | .select _ ps none _ _ _ => expandProjections [] ps
    | .values _ => []

/-- The rows of a compound body, arm by arm from the left. -/
def evalCompound (fuel : Nat) (env : Env) (columns : List OutputColumn)
    (arms : List (Option SetOp × SelectCore)) : Except SqlError (Partial (List SqlValue)) :=
  match fuel with
  | 0 => .error (SqlError.plain "query too deep")
  | fuel + 1 =>
    arms.foldlM (fun (acc : Partial (List SqlValue)) (op, core) => do
      match op with
      | none => do
        let rows ← evalCore fuel env core []
        pure (rows.map (·.1))
      | some .unionAll =>
        match acc.failure with
        | some _ => pure acc
        | none => do
          let rows ← evalCore fuel env core []
          pure { items := acc.items ++ rows.items.map (·.1), failure := rows.failure }
      | some op =>
        match acc.failure with
        | some _ => pure acc.blocking
        | none => do
          let rows ← evalCore fuel env core []
          let right := (rows.map (·.1)).blocking
          match right.failure with
          | some e => pure (Partial.fail e)
          | none => pure (Partial.ofList (combineRows columns op acc.items right.items))) {}

/-- The rows of a select core, each with its `ORDER BY` keys. -/
def evalCore (fuel : Nat) (env : Env) (core : SelectCore) (orderBy : List OrderTerm) :
    Except SqlError (Partial KeyedRow) :=
  match fuel with
  | 0 => .error (SqlError.plain "query too deep")
  | fuel + 1 =>
    match core with
    | .values rows =>
      .ok ((Partial.ofList rows).mapM fun exprs => do
        let ops ← evalList fuel (env.push {}) exprs
        pure (ops.map (·.value), []))
    | .select distinct projections source filter groupBy having => do
      let shape := match source with
        | some s => labelSubqueries (sourceFrames fuel env s)
        | none => []
      let outputs := expandProjections shape projections
      let aliases := outputs.filterMap fun o => o.aliasName.map (·, o.expr)
      let columns := coreOutputs fuel env core
      let scopeOf (frames : List Frame) : Scope := { frames, aliases }
      let conditions := (filter.map (Expr.conjuncts 1000)).getD []
      let shapeEnv := env.push (scopeOf (nullFrames shape))
      let constant (c : Expr) : Bool := !readsScope fuel shapeEnv 0 c
      let constantsHold ← conditions.allM fun c =>
        if constant c then evalTest fuel shapeEnv c true false else pure true
      let aggregate := !groupBy.isEmpty || outputs.any (·.expr.hasAggregate)
      let reverse := env.settings.reverseUnorderedSelects && orderBy.isEmpty && groupBy.isEmpty
      let source : Partial (List Frame) ← if !constantsHold then pure {} else
        match source with
        | some s => do
          let rows ← evalSource fuel env s reverse
          pure (rows.map fun frames =>
            (frames.zip shape).map fun (f, g) => { f with label := g.label })
        | none => pure (Partial.ofList [[]])
      let passing := source.filterM fun frames =>
        conditions.allM fun c =>
          if constant c then pure true
          else evalTest fuel (env.push (scopeOf frames)) c true false
      let orderKeys (genv : Env) (values : List SqlValue) : Except SqlError (List SortKey) :=
        orderBy.mapM fun
          | .mk e descending nullsFirst => do
            let nullsFirst := nullsFirst.getD !descending
            let byColumn : Option Nat := match e.columnNumber? with
              | some n => if n ≥ 1 then some (n - 1).toNat else none
              | none => aliasIndex? outputs e
            match byColumn with
            | some i =>
              let coll := (e.explicitCollation?.orElse fun _ =>
                (columns.getD i default).collation).getD .binary
              pure { value := values.getD i .null, collation := coll, descending, nullsFirst }
            | none => do
              let o ← evalExpr fuel genv e
              pure { value := o.value, collation := o.collation.getD .binary, descending,
                     nullsFirst }
      let distinctRows (rows : Partial KeyedRow) : Partial KeyedRow :=
        if distinct then
          { rows with items := distinctByKeys (fun r => distinctKeys columns r.1) rows.items }
        else rows
      if !aggregate then
        .ok (distinctRows (passing.mapM fun frames => do
          let genv := env.push (scopeOf frames)
          let ops ← evalList fuel genv (outputs.map (·.expr))
          let values := ops.map (·.value)
          let keys ← orderKeys genv values
          pure (values, keys)))
      else
        let orderExprs : List Expr := orderBy.map (fun | .mk e _ _ => e)
        let calls := (outputs.map Output.expr ++ having.toList ++ orderExprs).flatMap
          (aggregateCalls 1000)
        let extreme := (calls.filter fun (n, args, star) =>
          (n == "min" || n == "max") && args.length == 1 && !star).getLast?
        let groups : Partial (List (List Frame)) ← if groupBy.isEmpty then
            match passing.failure with
            | some e => pure (Partial.fail e)
            | none => pure (Partial.ofList [passing.items])
          else do
            let keyed := passing.blocking.mapM fun frames => do
              let genv := env.push (scopeOf frames)
              let keys ← groupBy.mapM fun g => do
                let g := match g.columnNumber? with
                  | some n => ((outputs[(n - 1).toNat]?).map (·.expr)).getD g
                  | none => g
                let o ← evalExpr fuel genv g
                pure ({ value := o.value, collation := o.collation.getD .binary } : SortKey)
              pure (frames, keys)
            match keyed.failure with
            | some e => pure (Partial.fail e)
            | none => pure (Partial.ofList ((groupByKeys keyed.items).map (·.2)))
        let perGroup := groups.flatMapM fun rows =>
          let rowScopes := rows.map scopeOf
          let rep := representative fuel env rowScopes extreme
          let rep := rep.getD (scopeOf (nullFrames shape))
          let genv := { env.push rep with group := some rowScopes }
          let result : Except SqlError (Option KeyedRow) := do
            let keep ← match having with
              | some h => evalTest fuel genv h true false
              | none => pure true
            if !keep then pure none
            else do
              let ops ← evalList fuel genv (outputs.map (·.expr))
              let values := ops.map (·.value)
              let keys ← orderKeys genv values
              pure (some (values, keys))
          match result with
          | .ok (some r) => Partial.ofList [r]
          | .ok none => {}
          | .error e => Partial.fail e
        .ok (distinctRows perGroup)

/-- The row of a group its columns outside aggregates read: the first, or the last at which the
query's last `min` or `max` took its value. -/
def representative (fuel : Nat) (env : Env) (rows : List Scope)
    (extreme : Option (String × List Expr × Bool)) : Option Scope :=
  match fuel with
  | 0 => rows.head?
  | fuel + 1 =>
    match extreme with
    | some (name, [arg], _) =>
      let outer := env.scopes
      let coll := (exprInfo 100 env arg).collation.getD .binary
      let (_, rep) := rows.foldl (fun (state : Accumulator × Option Scope) r =>
        let (acc, rep) := state
        let v := match evalExpr fuel { env with scopes := r :: outer, group := none } arg with
          | .ok o => o.value
          | .error _ => .null
        let (acc, hit) := acc.step [v]
        (acc, if hit || rep.isNone then some r else rep)) (Accumulator.start name coll, none)
      rep
    | _ => rows.head?

/-- The rows of a `FROM` clause, each as the frames of its sources with their values. -/
def evalSource (fuel : Nat) (env : Env) (s : Source) (reverse : Bool) :
    Except SqlError (Partial (List Frame)) :=
  match fuel with
  | 0 => .error (SqlError.plain "query too deep")
  | fuel + 1 =>
    match s with
    | .table schema name label _ => evalNamed fuel env schema name label reverse
    | .query q label => do
      let r ← evalQuery fuel { env with group := none } q
      match sourceFrames fuel env (.query q label) with
      | f :: _ => .ok (r.rows.map fun values => [f.withRow values .null])
      | [] => .ok {}
    | .join left kind natural right on usingColumns => do
      let l ← evalSource fuel env left reverse
      let r ← evalSource fuel env right reverse
      let leftShape := sourceFrames fuel env left
      let rightShape := sourceFrames fuel env right
      let shared := match rightShape with
        | first :: _ =>
          if natural then
            (first.fields.map (·.name)).filter fun n => leftShape.any (·.fieldIndex? n |>.isSome)
          else usingColumns
        | [] => usingColumns
      let mark (frames : List Frame) : List Frame :=
        match frames with
        | f :: more => { f with shared, join := kind } :: more
        | [] => []
      let rightRows := r.map mark
      let nullRight := mark (nullFrames rightShape)
      let nullLeft := nullFrames leftShape
      let joined (lf rf : List Frame) : Except SqlError Bool := do
        if !usingMatches lf rf shared then return false
        match on with
        | some c => evalTest fuel (env.push { frames := lf ++ rf }) c true false
        | none => pure true
      let pairs (lf : List Frame) : Partial (List Frame × Bool) :=
        let matched := rightRows.filterM fun rf => joined lf rf
        if kind == .left || kind == .full then
          if matched.items.isEmpty && matched.failure.isNone then Partial.ofList [(lf ++ nullRight, false)]
          else matched.map fun rf => (lf ++ rf, true)
        else matched.map fun rf => (lf ++ rf, true)
      let leftJoined := l.flatMapM pairs
      if kind == .right || kind == .full then
        match leftJoined.failure with
        | some e => .ok { items := leftJoined.items.map (·.1), failure := some e }
        | none =>
          let unmatched := rightRows.filterM fun rf => do
            let hits ← l.items.anyM fun lf => joined lf rf
            pure !hits
          .ok ((Partial.ofList (leftJoined.items.map (·.1))).append fun _ =>
            unmatched.map fun rf => nullLeft ++ rf)
      else .ok (leftJoined.map (·.1))

/-- The rows of a named source: the rows a recursive table stands for, a common table, a table
or a view. -/
def evalNamed (fuel : Nat) (env : Env) (schema : Option String) (name : String)
    (label : Option String) (reverse : Bool) : Except SqlError (Partial (List Frame)) :=
  match fuel with
  | 0 => .error (SqlError.plain "query too deep")
  | fuel + 1 =>
    let shape := (namedFrames fuel env schema name label).headD { label := "", fields := [] }
    let working := if schema.isNone then
        env.ctes.findSome? fun b => (b.working.find? fun (n, _) => sameName n name).map (·.2)
      else none
    match working with
    | some rows => .ok (Partial.ofList (rows.map fun values => [shape.withRow values .null]))
    | none =>
      let cte := if schema.isNone then findCommonTable name env.ctes else none
      match cte with
      | some (.mk cteName _ q, visible) => do
        let rows ← evalCommonTable fuel { env with ctes := visible, scopes := [], group := none }
          cteName q
        .ok (rows.map fun values => [shape.withRow values .null])
      | none =>
        let tmp := schema.map (sameName · "temp")
        match env.objects.table? tmp name with
        | some t =>
          .ok (Partial.ofList ((t.scanRows reverse).map fun row =>
            [shape.withRow row.values (.integer row.rowid)]))
        | none =>
          match env.objects.view? tmp name with
          | some v => do
            let r ← evalQuery fuel { objects := env.objects, settings := env.settings } v.query
            .ok (r.rows.map fun values => [shape.withRow values .null])
          | none =>
            .error { message := "no such table: " ++
              (match schema with
                | some s => s ++ "."
                | none => "") ++ name }

/-- The rows of a common table: of its query, or, when the query names the table, the rows of
the recursion. -/
def evalCommonTable (fuel : Nat) (env : Env) (name : String) (q : Query) :
    Except SqlError (Partial (List SqlValue)) :=
  match fuel with
  | 0 => .error (SqlError.plain "query too deep")
  | fuel + 1 =>
    match q with
    | .mk recursive ctes body orderBy limit offset =>
      let (initial, recursiveArms) := splitRecursive name body.arms
      match recursiveArms, QueryBody.ofArms initial with
      | [], _ | _, none => do
        let r ← evalQuery fuel env q
        .ok r.rows
      | arms, some first => do
        let env := if ctes.isEmpty then env else { env with ctes := { tables := ctes } :: env.ctes }
        let bare := env.push {}
        let lim ← match limit with
          | some e => do
            let o ← evalExpr fuel bare e
            some <$> limitValue o.value
          | none => pure none
        let off ← match offset with
          | some e => do
            let o ← evalExpr fuel bare e
            (fun n => if n < 0 then 0 else n.toNat) <$> limitValue o.value
          | none => pure 0
        let startRel ← evalQuery fuel env (.mk recursive [] first [] none none)
        let start ← startRel.rows.toExcept
        let columns := startRel.columns
        let fields : List Field := columns.map fun c =>
          { name := c.name, affinity := c.affinity, collation := c.collation }
        let distinctUnion := arms.any fun (op, _) => op == .union
        let key := distinctKeys columns
        let orderKey (row : List SqlValue) : List SortKey :=
          orderBy.map fun
            | .mk e descending nullsFirst =>
              let i := match e.columnNumber? with
                | some n => (n - 1).toNat
                | none => ((columns.findIdx? fun c => match e with
                    | .column none none n _ _ => sameName c.name n
                    | _ => false)).getD 0
              { value := row.getD i .null, descending, nullsFirst := nullsFirst.getD !descending }
        let start := if distinctUnion then distinctByKeys key start else start
        let limitCount : Option Nat := lim.bind fun n => if n < 0 then none else some n.toNat
        recursion fuel env name fields arms distinctUnion key orderKey limitCount off
          100000 start start [] 0

/-- The queue of a recursive common table: takes the next row, gives it out (after `skip` rows
and up to `limit`), and adds the rows the recursive selects make from it. `seen` holds every row
added so far, for `UNION`. -/
def recursion (fuel : Nat) (env : Env) (name : String) (fields : List Field)
    (arms : List (SetOp × SelectCore)) (distinctUnion : Bool)
    (key : List SqlValue → List SortKey) (orderKey : List SqlValue → List SortKey)
    (limit : Option Nat) (skip : Nat) (steps : Nat) (queue seen : List (List SqlValue))
    (out : List (List SqlValue)) (taken : Nat) : Except SqlError (Partial (List SqlValue)) :=
  match fuel with
  | 0 => .error (SqlError.plain "query too deep")
  | fuel + 1 =>
    match steps with
    | 0 => .ok (Partial.ofList out.reverse)
    | steps + 1 =>
      if limit.any (out.length ≥ ·) then .ok (Partial.ofList out.reverse) else
      let next : Option (List SqlValue × List (List SqlValue)) :=
        if (queue.headD []).isEmpty && queue.isEmpty then none
        else
          match queue with
          | [] => none
          | q :: qs =>
            if orderKey q |>.isEmpty then some (q, qs)
            else
              let sorted := (sortByKeys (queue.map fun r => (r, orderKey r))).map (·.1)
              match sorted with
              | s :: rest => some (s, rest)
              | [] => none
      match next with
      | none => .ok (Partial.ofList out.reverse)
      | some (row, rest) => do
        let out := if taken ≥ skip then row :: out else out
        let wenv := { env with ctes := { tables := [], working := [(name, [row])] } :: env.ctes }
        let wenv := { wenv with ctes := wenv.ctes.map fun b =>
          if b.working.isEmpty then b else b }
        let produced ← arms.foldlM (fun (acc : List (List SqlValue)) (_, core) => do
          let rows ← evalCore fuel wenv core []
          let rows ← (rows.map (·.1)).toExcept
          pure (acc ++ rows)) []
        let _ := fields
        let (added, seen) := if distinctUnion then
            produced.foldl (fun (acc : List (List SqlValue) × List (List SqlValue)) r =>
              if acc.2.any (fun s => compareKeyLists (key s) (key r) == .eq) then acc
              else (acc.1 ++ [r], acc.2 ++ [r])) ([], seen)
          else (produced, seen)
        recursion fuel env name fields arms distinctUnion key orderKey limit skip steps
          (rest ++ added) seen out (taken + 1)

end

end Schedule.Sql
