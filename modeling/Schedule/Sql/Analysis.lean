import Schedule.Sql.Shape
import Schedule.Sql.Function.Scalar

/-!
# Facts about expressions before they are evaluated

* `Expr.children` and `Expr.subqueries` — the parts of an expression, in the order they are
  evaluated.
* `aggregateCalls` — the calls of aggregate functions an expression makes for its own query:
  not those inside a subquery, nor those inside another aggregate's arguments.
* `readsScope` — whether an expression reads a column of a given query (its scope `depth`
  levels out), also from inside a subquery. A condition of a `WHERE` clause that reads no
  column of its own query is tested once, before any row is read.
* `Expr.conjuncts` — the conditions a filter joins with `AND`.
-/

namespace Schedule.Sql

/-- The subexpressions of an expression, in the order they are evaluated; a `LIKE` reads its
pattern before its text. Subqueries are not among them. -/
def Expr.children : Expr → List Expr
  | .neg e | .pos e | .not e | .bitNot e | .isNull e _ | .truthTest e _ _ | .collate e _
  | .cast e _ => [e]
  | .binary _ a b => [a, b]
  | .between e l h _ => [e, l, h]
  | .inList e items _ => e :: items
  | .inQuery e _ _ => [e]
  | .pattern _ e p esc _ => [p, e] ++ esc.toList
  | .caseOf op cs rs other =>
    op.toList ++ (cs.zip rs).flatMap (fun (c, r) => [c, r]) ++ other.toList
  | .call _ args _ _ _ => args
  | .vector items => items
  | _ => []

/-- The subqueries an expression holds directly. -/
def Expr.subqueries : Expr → List Query
  | .inQuery _ q _ | .scalar q | .exists q => [q]
  | _ => []

/-- The conditions of a filter joined by `AND`, from the left. -/
def Expr.conjuncts : Nat → Expr → List Expr
  | 0, e => [e]
  | fuel + 1, .binary .and a b => Expr.conjuncts fuel a ++ Expr.conjuncts fuel b
  | _, e => [e]

/-- The kind of a call: an aggregate when the function of that name and argument count is one. -/
def isAggregateCall (name : String) (argc : Nat) : Bool :=
  match FunctionKind.of? (name.map Char.toLower) argc with
  | .ok .aggregate => true
  | _ => false

/-- The aggregate calls an expression makes for its own query, in evaluation order: the name in
lower case, the arguments, and whether it counts rows (`*`). -/
def aggregateCalls : Nat → Expr → List (String × List Expr × Bool)
  | 0, _ => []
  | fuel + 1, e =>
    match e with
    | .call name args _ star _ =>
      let argc := if star then 0 else args.length
      if isAggregateCall name argc then [(name.map Char.toLower, args, star)]
      else args.flatMap (aggregateCalls fuel)
    | e => e.children.flatMap (aggregateCalls fuel)

/-- Whether an expression calls an aggregate function for its own query. -/
def Expr.hasAggregate (e : Expr) : Bool := !(aggregateCalls 1000 e).isEmpty

/-- Whether an expression names a column anywhere outside its subqueries. -/
def Expr.readsColumns : Nat → Expr → Bool
  | 0, _ => true
  | fuel + 1, e =>
    match e with
    | .column .. => true
    | e => e.children.any (Expr.readsColumns fuel)

mutual

/-- Whether an expression reads a column of the query whose scope is `depth` levels out. -/
def readsScope (fuel : Nat) (env : Env) (depth : Nat) (e : Expr) : Bool :=
  match fuel with
  | 0 => true
  | fuel + 1 =>
    match e with
    | .column s t n _ dq =>
      match lookupName env.scopes s t n dq with
      | .column d _ _ => d == depth
      | .aliased d a =>
        if d ≤ depth then readsScope fuel { env with scopes := env.scopes.drop d } (depth - d) a
        else false
      | _ => false
    | e =>
      e.children.any (readsScope fuel env depth) ||
        e.subqueries.any (queryReads fuel env (depth + 1))

/-- Whether a query reads a column of the query whose scope is `depth` levels out of the
query's own. -/
def queryReads (fuel : Nat) (env : Env) (depth : Nat) (q : Query) : Bool :=
  match fuel with
  | 0 => true
  | fuel + 1 =>
    match q with
    | .mk _ ctes body orderBy limit offset =>
      let env := if ctes.isEmpty then env else { env with ctes := { tables := ctes } :: env.ctes }
      let bare := env.push {}
      body.cores.any (coreReads fuel env depth) ||
        (limit.toList ++ offset.toList).any (readsScope fuel bare depth) ||
        (match body.cores with
          | c :: _ =>
            let inner := match c with
              | .select _ ps src _ _ _ =>
                let frames := match src with
                  | some s => labelSubqueries (sourceFrames fuel env s)
                  | none => []
                let aliases := (expandProjections frames ps).filterMap fun o =>
                  o.aliasName.map (·, o.expr)
                env.push { frames, aliases }
              | .values _ => bare
            orderBy.any fun
              | .mk e _ _ => readsScope fuel inner depth e
          | [] => false)

/-- Whether a select core reads a column of the query whose scope is `depth` levels out of the
core's own. -/
def coreReads (fuel : Nat) (env : Env) (depth : Nat) (c : SelectCore) : Bool :=
  match fuel with
  | 0 => true
  | fuel + 1 =>
    match c with
    | .values rows => rows.any (·.any (readsScope fuel (env.push {}) depth))
    | .select _ ps src filter groupBy having =>
      let frames := match src with
        | some s => labelSubqueries (sourceFrames fuel env s)
        | none => []
      let outputs := expandProjections frames ps
      let inner := env.push { frames, aliases := outputs.filterMap fun o => o.aliasName.map (·, o.expr) }
      (outputs.map (·.expr) ++ filter.toList ++ groupBy ++ having.toList).any
        (readsScope fuel inner depth)

end

end Schedule.Sql
