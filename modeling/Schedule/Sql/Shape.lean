import Schedule.Sql.Frame

/-!
# The shape of a query

Before any row is read, a query's columns are known: their names and what comparing them
involves. This module computes them.

* `*` stands for every column of every source of the `FROM` clause, in order, except that a
  column a source shares with an earlier one by `USING` or `NATURAL` is listed once; `t.*` for
  the columns of source `t`. With more than one source each column is named with its schema and
  source, so that a name two sources share is ambiguous.
* A result column is named by its alias; else, when it is a column reference, by the column's
  declared name; else by its text. A view or a table made from a query names its columns the
  same way and then makes the names unique by appending `:1`, `:2`, …; a subquery or common
  table names a column reference by the name as written.
* The affinity of an expression is that of the column it reads (`CAST` gives that of its type,
  `COLLATE` passes it through, a scalar subquery has its first column's); others have none. Its
  collation is the one a `COLLATE` inside it names, the first found from the left; else a
  column's own.

## Main definitions

* `Env` — what a query sees: the database, the common tables, the enclosing scopes.
* `OutputColumn`, `Output` — result columns.
* `expandProjections` — the result columns of a select with `*` expanded.
* `exprInfo`, `queryOutputs`, `sourceFrames` — affinities, collations and shapes.
-/

namespace Schedule.Sql

/-- The common tables of one `WITH` clause, and while a recursive table's recursive part is
evaluated, the rows it stands for. -/
structure WithBlock where
  tables : List CommonTable
  working : List (String × List (List SqlValue)) := []
  deriving Inhabited

/-- What an expression or query is evaluated against: the database and the connection's
settings, the parameters, the common tables in scope (innermost first), the scopes of the
queries around it (innermost first), the rows of the group an aggregate reads, and the counts
the functions `last_insert_rowid` and `changes` report. -/
structure Env where
  objects : Objects
  settings : Settings := {}
  params : List SqlValue := []
  ctes : List WithBlock := []
  scopes : List Scope := []
  group : Option (List Scope) := none
  lastInsertRowid : Int := 0
  changes : Int := 0
  totalChanges : Int := 0
  deriving Inhabited

/-- The environment with a query's scope innermost. -/
def Env.push (env : Env) (s : Scope) : Env := { env with scopes := s :: env.scopes, group := none }

/-- A result column: how the answer names it, how a view names it and how a subquery names it
(before names are made unique), and its affinity and collation. -/
structure OutputColumn where
  name : String
  declared : String
  written : String
  affinity : Option Affinity := none
  collation : Option Collation := none
  deriving Inhabited

/-- A result column as a select lists it once `*` is expanded: its expression, its alias and its
text. -/
structure Output where
  expr : Expr
  aliasName : Option String
  span : String
  deriving Inhabited

/-- The name of a frame's schema as `*` qualifies its columns. -/
def Frame.schemaName (f : Frame) : String :=
  match f.schema with
  | some true => "temp"
  | some false => "main"
  | none => "*"

/-- The frame of a table under a label. -/
def Table.frame (t : Table) (label : String) : Frame :=
  { label, schema := some t.temporary
    fields := t.columns.map fun c =>
      { name := c.name, affinity := some c.affinity, collation := some c.collation }
    rowid := t.hasRowid
    rowidName := match t.rowidColumn with
      | some i => (t.columns.getD i default).name
      | none => "rowid" }

/-- The result columns `*` or `t.*` (when `table` is given) stands for. -/
def expandStar (frames : List Frame) (table : Option String) (offset : Nat) : List Output :=
  let many := frames.length > 1
  let indexed := frames.zipIdx
  indexed.flatMap fun (f, i) =>
    let fits := match table with
      | some t => f.answers none t
      | none => true
    if !fits then []
    else
      let later := frames.drop (i + 1)
      let leftOfRight := later.any fun g => g.join == .right || g.join == .full
      f.fields.filterMap fun fld =>
        if table.isNone && i > 0 && f.shared.any (sameName · fld.name) then none
        else
          let qualify := many &&
            (table.isSome || !leftOfRight || !later.any (·.shared.any (sameName · fld.name)))
          let e : Expr :=
            if qualify then .column (some f.schemaName) (some f.label) fld.name offset false
            else .column none none fld.name offset false
          some { expr := e, aliasName := some fld.name, span := fld.name }

/-- The result columns of a select with `*` and `t.*` expanded. -/
def expandProjections (frames : List Frame) (ps : List Projection) : List Output :=
  ps.flatMap fun
    | .star offset => expandStar frames none offset
    | .tableStar t offset => expandStar frames (some t) offset
    | .expr e name span => [{ expr := e, aliasName := name, span }]

/-- Names made unique without regard to case: a name met before gets `:1`, `:2`, … in place of
any such ending it has, the first number not taken. -/
def makeUnique (names : List String) : List String :=
  let taken (seen : List String) (n : String) : Bool := seen.any (sameName · n)
  let base (n : String) : String :=
    let cs := n.toList
    let digits := (cs.reverse.takeWhile Char.isDigit).length
    let rest := cs.take (cs.length - digits)
    if digits > 0 && rest.length > 0 && rest.getLast? == some ':' then
      String.ofList (rest.take (rest.length - 1))
    else n
  let rec fresh (seen : List String) (n : String) (count : Nat) : Nat → String
    | 0 => n
    | fuel + 1 =>
      if taken seen n then fresh seen (base n ++ ":" ++ toString (count + 1)) (count + 1) fuel
      else n
  (names.foldl (fun seen n => seen ++ [fresh seen n 0 (seen.length + 1)]) [])

/-- The expression with `COLLATE` and `likely`-like calls removed from its top. -/
def Expr.skipCollateLikely : Nat → Expr → Expr
  | 0, e => e
  | fuel + 1, e =>
    match e with
    | .collate e _ => Expr.skipCollateLikely fuel e
    | .call name (a :: _) _ _ _ =>
      let n := name.map Char.toLower
      if n == "likely" || n == "unlikely" || n == "likelihood" then Expr.skipCollateLikely fuel a
      else e
    | e => e

/-- The common table of a name visible in the blocks, with the blocks its query sees. -/
def findCommonTable (name : String) : List WithBlock → Option (CommonTable × List WithBlock)
  | [] => none
  | b :: outer =>
    match b.tables.find? fun
        | .mk n _ _ => sameName n name with
    | some c => some (c, b :: outer)
    | none => findCommonTable name outer

/-- The first explicit collation among operands, from the left. -/
def firstExplicit (ops : List Operand) : Operand :=
  match ops.find? (·.explicit) with
  | some o => { value := .null, collation := o.collation, explicit := true }
  | none => { value := .null }

/-- Gives the unnamed subqueries of a `FROM` clause distinct labels. -/
def labelSubqueries (frames : List Frame) : List Frame :=
  frames.zipIdx.map fun (f, i) =>
    if f.label.isEmpty then { f with label := "(subquery-" ++ toString (i + 1) ++ ")" } else f

mutual

/-- The affinity and collation of an expression, as the value of an operand that is null. -/
def exprInfo (fuel : Nat) (env : Env) (e : Expr) : Operand :=
  match fuel with
  | 0 => { value := .null }
  | fuel + 1 =>
    match e with
    | .column s t n _ dq =>
      match lookupName env.scopes s t n dq with
      | .column _ o _ => { o with value := .null }
      | .aliased depth a => exprInfo fuel { env with scopes := env.scopes.drop depth } a
      | _ => { value := .null }
    | .pos a => { exprInfo fuel env a with affinity := none }
    | .cast a ty => { exprInfo fuel env a with affinity := some (castAffinity ty) }
    | .collate a name =>
      { exprInfo fuel env a with collation := Collation.ofName? name, explicit := true }
    | .scalar q =>
      match queryOutputs fuel env q with
      | c :: _ => { value := .null, affinity := c.affinity }
      | [] => { value := .null }
    | .vector (a :: _) => exprInfo fuel env a
    | .neg a | .not a | .bitNot a | .isNull a _ | .truthTest a _ _ => firstExplicit [exprInfo fuel env a]
    | .binary _ a b => firstExplicit [exprInfo fuel env a, exprInfo fuel env b]
    | .between a l h _ => firstExplicit [exprInfo fuel env a, exprInfo fuel env l, exprInfo fuel env h]
    | .inList a items _ => firstExplicit (exprInfo fuel env a :: items.map (exprInfo fuel env))
    | .inQuery a _ _ => firstExplicit [exprInfo fuel env a]
    | .pattern _ a p esc _ =>
      firstExplicit ([exprInfo fuel env p, exprInfo fuel env a] ++ esc.toList.map (exprInfo fuel env))
    | .caseOf op cs rs other =>
      firstExplicit (op.toList.map (exprInfo fuel env) ++
        (cs.zip rs).flatMap (fun (c, r) => [exprInfo fuel env c, exprInfo fuel env r]) ++
        other.toList.map (exprInfo fuel env))
    | .call _ args _ _ _ => firstExplicit (args.map (exprInfo fuel env))
    | _ => { value := .null }

/-- The result columns of a query. -/
def queryOutputs (fuel : Nat) (env : Env) (q : Query) : List OutputColumn :=
  match fuel with
  | 0 => []
  | fuel + 1 =>
    match q with
    | .mk _ ctes body _ _ _ =>
      let env := if ctes.isEmpty then env else { env with ctes := { tables := ctes } :: env.ctes }
      match body.cores with
      | c :: _ => coreOutputs fuel env c
      | [] => []

/-- The result columns of a select core. -/
def coreOutputs (fuel : Nat) (env : Env) (c : SelectCore) : List OutputColumn :=
  match fuel with
  | 0 => []
  | fuel + 1 =>
    match c with
    | .values rows =>
      let first := rows.headD []
      first.zipIdx.map fun (e, i) =>
        let name := "column" ++ toString (i + 1)
        let info := exprInfo fuel (env.push {}) e
        { name, declared := name, written := name, affinity := info.affinity
          collation := info.collation }
    | .select _ projections source _ _ _ =>
      let frames := match source with
        | some s => labelSubqueries (sourceFrames fuel env s)
        | none => []
      let outputs := expandProjections frames projections
      let scope : Scope := { frames, aliases := outputs.filterMap fun o => o.aliasName.map (·, o.expr) }
      let inner := env.push scope
      outputs.map fun o =>
        let info := exprInfo fuel inner o.expr
        let declaredOf (e : Expr) : String :=
          match e with
          | .column s t n _ dq =>
            match lookupName inner.scopes s t n dq with
            | .column _ _ name => name
            | _ => o.span
          | _ => o.span
        let stripped := Expr.skipCollateLikely 100 o.expr
        let written := match stripped with
          | .column _ _ n _ _ => n
          | _ => o.span
        { name := o.aliasName.getD (declaredOf o.expr)
          declared := o.aliasName.getD (declaredOf stripped)
          written := o.aliasName.getD written
          affinity := info.affinity, collation := info.collation }

/-- The frames of a `FROM` clause, without rows. -/
def sourceFrames (fuel : Nat) (env : Env) (s : Source) : List Frame :=
  match fuel with
  | 0 => []
  | fuel + 1 =>
    match s with
    | .table schema name label _ => namedFrames fuel env schema name label
    | .query q label =>
      let outs := queryOutputs fuel { env with group := none } q
      let names := makeUnique (outs.map (·.written))
      [{ label := label.getD ""
         fields := (outs.zip names).map fun (c, n) =>
           { name := n, affinity := c.affinity, collation := c.collation } }]
    | .join left kind natural right _ usingColumns =>
      let l := sourceFrames fuel env left
      let r := sourceFrames fuel env right
      match r with
      | first :: more =>
        let shared := if natural then
            (first.fields.map (·.name)).filter fun n => l.any (·.fieldIndex? n |>.isSome)
          else usingColumns
        l ++ ({ first with shared, join := kind } :: more)
      | [] => l

/-- The frame of a named source: a common table, a table or a view. -/
def namedFrames (fuel : Nat) (env : Env) (schema : Option String) (name : String)
    (label : Option String) : List Frame :=
  match fuel with
  | 0 => []
  | fuel + 1 =>
    let cte := if schema.isNone then findCommonTable name env.ctes else none
    match cte with
    | some (.mk cteName columns q, visible) =>
      let outs := queryOutputs fuel { env with ctes := visible, scopes := [], group := none } q
      let names := if columns.isEmpty then makeUnique (outs.map (·.written)) else columns
      [{ label := label.getD cteName
         fields := (outs.zip names).map fun (c, n) =>
           { name := n, affinity := c.affinity, collation := c.collation } }]
    | none =>
      let tmp := schema.map (sameName · "temp")
      match env.objects.table? tmp name with
      | some t => [t.frame (label.getD t.name)]
      | none =>
        match env.objects.view? tmp name with
        | some v =>
          let outs := queryOutputs fuel { objects := env.objects } v.query
          let names := if v.columns.isEmpty then makeUnique (outs.map (·.declared)) else v.columns
          [{ label := label.getD v.name, schema := some v.temporary
             fields := (outs.zip names).map fun (c, n) =>
               { name := n, affinity := c.affinity, collation := c.collation } }]
        | none => []

end

end Schedule.Sql
