import Schedule.Sql.Change

/-!
# Checking a statement before it runs

A statement is checked as a whole before any row is read or changed, and what is wrong with it
is reported in the order the database finds such things.

1. *Expansion.* The sources of every query are found: the arms of a compound from the last to
   the first, each arm's sources from the left, then the queries inside the arm's expressions.
   A table or view that does not exist, a common table that refers to itself where it may not,
   a view whose query fails, a `USING` column missing on one side and `*` with nothing to expand
   are found here.
2. *Names.* Each query's names are placed, arm by arm from the last: the limits, the subqueries
   of the `FROM` clause, the result columns, `HAVING`, `WHERE` (with the `ON` conditions after
   it), `ORDER BY`, `GROUP BY`, and the widths of the arms. A column no source has, a function
   that does not exist or takes other arguments, an aggregate where none may stand, an `ORDER BY`
   term out of range are found here.
3. *The program.* A literal beyond its range, `RAISE` outside a trigger, a row value or a
   subquery of the wrong width only show when the statement's program is built; of these the
   last one found is reported.

A change statement is checked in the order it is built: its target, its columns and rows, its
upsert targets, the program of its rows, then the triggers it fires (their condition and each
statement of their body), its foreign keys and its `RETURNING` columns.

Most failures end the check at once. Some do not (a function that does not exist, `*` with no
table): the check goes on, and a later failure then takes the place of the earlier one. Failures
found in the text of a view or a trigger carry no offset, as that text is not the statement's.

## Main definitions

* `Findings`, `Check` — failures as the check finds them.
* `Context` — where names are placed.
* `prepareQuery` — a query's expansion and names.
* `prepareFailure` — the failure a statement is refused with before it runs, if any.
-/

namespace Schedule.Sql

/-- How a walk over an expression goes on after a node: into the node's parts, past them (the
node has seen to them itself), or no further at all. -/
inductive Walk where
  | enter
  | pass
  | halt
  deriving DecidableEq, Inhabited

/-- What a check has found: the failure it reports (the last one raised) and how many were
raised; the common tables whose queries are being expanded, each with the message a reference
to it from inside them gives; the views being expanded; and the triggers whose programs were
built. -/
structure Findings where
  failure : Option SqlError := none
  count : Nat := 0
  pending : List (String × String) := []
  views : List String := []
  built : List (Bool × String) := []
  deriving Inhabited

/-- A check: a computation that raises failures as it goes. -/
abbrev Check := StateM Findings

namespace Check

/-- Raises a failure: it becomes the one reported. -/
def fail (e : SqlError) : Check Unit :=
  modify fun f => { f with failure := some e, count := f.count + 1 }

/-- Whether any failure was raised. -/
def failed : Check Bool := return (← get).count > 0

/-- How a walk goes on after a node with nothing of its own left to check: no further once
anything failed. -/
def onward : Check Walk := return if (← get).count > 0 then .halt else .enter

/-- Runs a check of text that is not the statement's: its failures carry no offset. -/
def apart {α : Type} (c : Check α) : Check α := do
  let before := (← get).count
  let r ← c
  modify fun f =>
    if f.count > before then { f with failure := f.failure.map fun e => { e with offset := none } }
    else f
  pure r

/-- Raises the failure of a trigger's program, which is built apart from the statement: its
message is reported only when nothing failed before, and no offset is reported after it. -/
def noteApart (e : SqlError) : Check Unit :=
  modify fun f =>
    let shown := match f.failure with
      | some old => if f.count > 0 then old else e
      | none => e
    { f with failure := some { shown with offset := none }, count := f.count + 1 }

/-- Runs a check for its verdict alone: whether it raised a failure. Nothing of it is kept. -/
def quietly (c : Check Unit) : Check Bool := do
  let saved ← get
  c
  let after ← get
  set saved
  pure (after.count > saved.count)

end Check

/-- Where the names of an expression are placed: what it sees (its scopes and common tables),
whether it may call an aggregate function, the kind of definition it belongs to when that limits
what it may hold (`CHECK` constraints, index expressions, …), whether the queries inside it were
expanded already or are not to be looked into, and the schema the text of a view or a trigger
finds its tables in. -/
structure Context where
  env : Env
  aggregates : Bool := false
  definition : Option String := none
  expanded : Bool := false
  noQueries : Bool := false
  home : Option String := none
  /-- The common tables whose queries are being placed: a reference to one from inside is its
  recursion. -/
  recursing : List String := []
  deriving Inhabited

namespace Context

/-- The context with a `WITH` clause's common tables innermost. -/
def withCommon (cx : Context) (ctes : List CommonTable) : Context :=
  if ctes.isEmpty then cx else { cx with env := { cx.env with ctes := { tables := ctes } :: cx.env.ctes } }

/-- The context with a query's scope innermost. -/
def enter (cx : Context) (s : Scope) : Context := { cx with env := cx.env.push s }

/-- The scopes a clause sees that may not look outside its own query: its own, and the frames
of a trigger's rows, which every statement of the trigger reaches. -/
def pinned (cx : Context) (s : Scope) : Context :=
  { cx with env := { cx.env with scopes := s :: cx.env.scopes.filter (·.frames.all (·.qualifiedOnly)) } }

/-- The table or view a name refers to, looked for where the context finds tables. -/
def relation (cx : Context) (schema : Option String) (name : String) : Option (Sum Table View) :=
  let choice : Option (Option Bool) := match schema with
    | some s =>
      if sameName s "main" then some (some false)
      else if sameName s "temp" then some (some true)
      else none
    | none => some (cx.home.map (sameName · "temp"))
  match choice with
  | none => none
  | some c =>
    match cx.env.objects.table? c name with
    | some t => some (.inl t)
    | none => (cx.env.objects.view? c name).map .inr

/-- How a message names a table that was not found: with the schema it was named with, or the
one the context finds tables in. -/
def shown (cx : Context) (schema : Option String) (name : String) : String :=
  (match schema, cx.home with
    | some s, _ => s ++ "."
    | none, some h => h ++ "."
    | none, none => "") ++ name

end Context

/-- One arm of a compound as it is checked: a select core, or one row of `VALUES`. -/
inductive Arm where
  | core (c : SelectCore)
  | row (exprs : List Expr)
  deriving Inhabited

/-- The arms of a compound with the operator before each (none for the first); each row of a
`VALUES` is an arm of its own. -/
def QueryBody.checkArms (b : QueryBody) : List (Option SetOp × Arm) :=
  b.arms.flatMap fun (op, c) =>
    match c with
    | .values rows => rows.zipIdx.map fun (r, i) => (if i == 0 then op else some .unionAll, Arm.row r)
    | c => [(op, .core c)]

/-- The frames of an arm and its result columns with `*` expanded. -/
def Arm.outputs (fuel : Nat) (env : Env) : Arm → List Frame × List Output
  | .core (.select _ ps src _ _ _) =>
    let frames := match src with
      | some s => labelSubqueries (sourceFrames fuel env s)
      | none => []
    (frames, expandProjections frames ps)
  | .core (.values rows) => ([], (rows.headD []).map fun e => { expr := e, aliasName := none, span := "" })
  | .row es => ([], es.map fun e => { expr := e, aliasName := none, span := "" })

/-- The scope of an arm: its frames and the aliases of its result columns. -/
def Arm.scope (frames : List Frame) (outputs : List Output) : Scope :=
  { frames, aliases := outputs.filterMap fun o => o.aliasName.map (·, o.expr) }

/-- The `ON` conditions of a source's joins, from the left. -/
def Source.onClauses : Nat → Source → List Expr
  | 0, _ => []
  | fuel + 1, .join l _ _ r on _ => Source.onClauses fuel l ++ on.toList ++ Source.onClauses fuel r
  | _, _ => []

/-- The names of the tables a source reads directly, without a schema: not those inside its
subqueries. -/
def Source.directNames : Nat → Source → List String
  | 0, _ => []
  | _ + 1, .table none n _ _ => [n]
  | fuel + 1, .join l _ _ r _ _ => Source.directNames fuel l ++ Source.directNames fuel r
  | _, _ => []

/-- The first join of a source that cannot be made: a `NATURAL` join with `ON` or `USING`, or a
`USING` column that is missing on one side. -/
def joinFailure (fuel : Nat) (env : Env) : Source → Option SqlError
  | .join l _ natural r on usingColumns =>
    match fuel with
    | 0 => none
    | fuel + 1 =>
      (joinFailure fuel env l).orElse fun _ => (joinFailure fuel env r).orElse fun _ =>
        if natural && (on.isSome || !usingColumns.isEmpty) then
          some (SqlError.plain "a NATURAL join may not have an ON or USING clause")
        else
          let left := sourceFrames fuel env l
          let right := sourceFrames fuel env r
          let has (fs : List Frame) (n : String) : Bool := fs.any (·.fieldIndex? n |>.isSome)
          (usingColumns.find? fun n => !(has left n && has right n)).map fun n =>
            SqlError.plain ("cannot join using column " ++ n ++ " - column not present in both tables")
  | _ => none

/-- The subqueries inside an expression in the order a walk meets them; not those inside them. -/
def Expr.nestedQueries : Nat → Expr → List Query
  | 0, _ => []
  | fuel + 1, e =>
    match e with
    | .scalar q | .exists q => [q]
    | .inQuery a q _ => Expr.nestedQueries fuel a ++ [q]
    | e => e.children.flatMap (Expr.nestedQueries fuel)

/-- The offset a message about an expression reports: that of its leftmost name or call. -/
def Expr.leftOffset? : Nat → Expr → Option Nat
  | 0, _ => none
  | fuel + 1, e =>
    match e with
    | .column _ _ _ off _ | .call _ _ _ _ off | .invalid _ off => some off
    | .binary _ a _ | .between a _ _ _ | .inList a _ _ | .inQuery a _ _ | .neg a | .pos a
    | .not a | .bitNot a | .isNull a _ | .truthTest a _ _ | .collate a _ | .cast a _ =>
      Expr.leftOffset? fuel a
    | _ => none

/-- The number an `ORDER BY` or `GROUP BY` term is, when it is an integer literal of 32 bits,
possibly signed. -/
def Expr.termNumber? : Nat → Expr → Option Int
  | 0, _ => none
  | _ + 1, .literal (.integer n) => if n ≤ 2147483647 then some n else none
  | _ + 1, .negatedInteger d =>
    match Parser.integerLiteral d with
    | .integer n => if n ≤ 2147483647 then some (-n) else none
    | _ => none
  | fuel + 1, .pos e => Expr.termNumber? fuel e
  | fuel + 1, .neg e => (Expr.termNumber? fuel e).map (- ·)
  | _, _ => none

/-- An ordinal number as messages write it: `1st`, `2nd`, `3rd`, `4th`, `11th`, `21st`, … -/
def ordinal (n : Nat) : String :=
  let suffix := if (n / 10) % 10 == 1 then "th" else
    match n % 10 with
    | 1 => "st"
    | 2 => "nd"
    | 3 => "rd"
    | _ => "th"
  toString n ++ suffix

/-- The failure of two neighbouring arms of different widths, named by the right one. -/
def wrongWidth (op : Option SetOp) : Arm → SqlError
  | .row _ => SqlError.plain "all VALUES must have the same number of terms"
  | .core _ => SqlError.plain ("SELECTs to the left and right of " ++ (op.getD .union).shown ++
      " do not have the same number of result columns")

/-- The failure of a term of `ORDER BY` or `GROUP BY` naming a result column that is not there. -/
def outOfRange (kind : String) (i n : Nat) : SqlError :=
  SqlError.plain (ordinal (i + 1) ++ " " ++ kind ++ " BY term out of range - should be between 1 and " ++
    toString n)

/-- The number of values an expression stands for: the items of a row value, the columns of a
subquery, else one. -/
def Expr.width (fuel : Nat) (env : Env) : Expr → Nat
  | .vector items => items.length
  | .scalar q => (queryOutputs fuel env q).length
  | _ => 1

/-- Whether a function's value may change between two calls with the same arguments, so that
no index or generated column may use it. -/
def volatileFunction (name : String) : Bool :=
  ["random", "randomblob", "changes", "total_changes", "last_insert_rowid", "sqlite_version",
    "sqlite_source_id", "sqlite_compileoption_used", "sqlite_compileoption_get"].contains name

/-- Whether the second argument of `likelihood` is what it must be: a literal with a decimal
point or exponent, between 0 and 1. -/
def probabilityLiteral : Expr → Bool
  | .literal (.real x) => 0 ≤ x && x ≤ 1
  | _ => false

/-- The text that tells two expressions' syntax apart, but for their parts. -/
def Expr.tag : Expr → String
  | .literal v => "literal " ++ quoteValue v
  | .negatedInteger d => "negated " ++ d
  | .param i => "param " ++ toString i
  | .column s t n _ _ => "column " ++ columnShown s t (n.map Char.toLower)
  | .neg _ => "neg"
  | .pos _ => "pos"
  | .not _ => "not"
  | .bitNot _ => "bitnot"
  | .isNull _ n => "isnull " ++ toString n
  | .truthTest _ v n => "truth " ++ toString v ++ toString n
  | .binary op _ _ => "binary " ++ reprStr op
  | .between _ _ _ n => "between " ++ toString n
  | .inList _ _ n => "in " ++ toString n
  | .inQuery .. => "subquery"
  | .pattern op _ _ _ n => "pattern " ++ reprStr op ++ toString n
  | .collate _ c => "collate " ++ c.map Char.toLower
  | .cast _ ty => "cast " ++ ty.map Char.toLower
  | .caseOf op _ _ o => "case " ++ toString op.isSome ++ toString o.isSome
  | .call n _ d s _ => "call " ++ n.map Char.toLower ++ toString d ++ toString s
  | .scalar _ | .exists _ => "subquery"
  | .vector _ => "vector"
  | .raise _ m => "raise " ++ m
  | .invalid m _ => "invalid " ++ m

/-- Whether two expressions of a query are the same: the same syntax, a column reference the
same column however it is qualified. Expressions holding subqueries are never the same. -/
def Expr.sameAs (env : Env) : Nat → Expr → Expr → Bool
  | 0, _, _ => false
  | fuel + 1, a, b =>
    match a, b with
    | .column s t n _ dq, .column s' t' n' _ dq' =>
      match lookupName env.scopes s t n dq, lookupName env.scopes s' t' n' dq' with
      | .column d _ x, .column d' _ y => d == d' && sameName x y && sameName n n'
      | _, _ => a.tag == b.tag
    | .inQuery .., _ | .scalar _, _ | .exists _, _ => false
    | a, b =>
      a.tag == b.tag && a.children.length == b.children.length &&
        (a.children.zip b.children).all fun (x, y) => Expr.sameAs env fuel x y

mutual

/-- The failures building the program of an expression shows, in the order of its text. With
`scalar` the expression must give one value. -/
def Expr.programFailures (fuel : Nat) (env : Env) (inTrigger scalar : Bool) (e : Expr) :
    List SqlError :=
  match fuel with
  | 0 => []
  | fuel + 1 =>
    let go := Expr.programFailures fuel env inTrigger
    match e with
    | .invalid message off => [{ message, offset := some off }]
    | .raise _ _ =>
      if inTrigger then [] else [SqlError.plain "RAISE() may only be used within a trigger-program"]
    | .vector items =>
      (if scalar then [SqlError.plain "row value misused"] else []) ++ items.flatMap (go true)
    | .scalar q =>
      let w := e.width fuel env
      (if scalar && w != 1 then
        [SqlError.plain ("sub-select returns " ++ toString w ++ " columns - expected 1")]
      else []) ++ Query.programFailures fuel env inTrigger q
    | .exists q => Query.programFailures fuel env inTrigger q
    | .inQuery a q _ =>
      let w := (queryOutputs fuel env q).length
      let v := a.width fuel env
      go false a ++
        (if w != v then
          [SqlError.plain ("sub-select returns " ++ toString w ++ " columns - expected " ++ toString v)]
        else []) ++ Query.programFailures fuel env inTrigger q
    | .binary op a b =>
      let s := !(op == .eq || op == .ne || op == .lt || op == .le || op == .gt || op == .ge ||
        op == .is || op == .isNot)
      go s a ++ go s b
    | .between a l h _ => go false a ++ go false l ++ go false h
    | e => e.children.flatMap (go true)

/-- The failures building the program of a query shows, in the order of its text. -/
def Query.programFailures (fuel : Nat) (env : Env) (inTrigger : Bool) (q : Query) : List SqlError :=
  match fuel with
  | 0 => []
  | fuel + 1 =>
    match q with
    | .mk _ _ body orderBy limit offset =>
      body.cores.flatMap (SelectCore.programFailures fuel env inTrigger) ++
        (orderBy.map fun
          | .mk e _ _ => e).flatMap (Expr.programFailures fuel env inTrigger true) ++
        (limit.toList ++ offset.toList).flatMap (Expr.programFailures fuel env inTrigger true)

/-- The failures building the program of a select core shows, in the order of its text. -/
def SelectCore.programFailures (fuel : Nat) (env : Env) (inTrigger : Bool) (c : SelectCore) :
    List SqlError :=
  match fuel with
  | 0 => []
  | fuel + 1 =>
    let ex := Expr.programFailures fuel env inTrigger true
    match c with
    | .values rows => rows.flatten.flatMap ex
    | .select _ ps src filter groupBy having =>
      let exprs := ps.filterMap fun
        | .expr e _ _ => some e
        | _ => none
      exprs.flatMap ex ++ (src.map (Source.programFailures fuel env inTrigger)).getD [] ++
        filter.toList.flatMap ex ++ groupBy.flatMap ex ++ having.toList.flatMap ex

/-- The failures building the program of a source shows: of its subqueries and `ON` conditions. -/
def Source.programFailures (fuel : Nat) (env : Env) (inTrigger : Bool) (s : Source) :
    List SqlError :=
  match fuel with
  | 0 => []
  | fuel + 1 =>
    match s with
    | .query q _ => Query.programFailures fuel env inTrigger q
    | .join l _ _ r on _ =>
      Source.programFailures fuel env inTrigger l ++ Source.programFailures fuel env inTrigger r ++
        on.toList.flatMap (Expr.programFailures fuel env inTrigger true)
    | .table .. => []

end

/-- The failures building the program of an assignment shows: a row value or a subquery may
set several columns at once. -/
def assignmentFailures (fuel : Nat) (env : Env) (inTrigger : Bool) (a : Assignment) :
    List SqlError :=
  match a.columns, a.value with
  | _ :: _ :: _, .vector items => items.flatMap (Expr.programFailures fuel env inTrigger true)
  | _ :: _ :: _, .scalar q => Query.programFailures fuel env inTrigger q
  | _, v => Expr.programFailures fuel env inTrigger true v

/-- The first foreign key of a table, among those `only` accepts, whose parent table or parent
key cannot be found; the keys are taken from the last declared. -/
def childKeyFailure (o : Objects) (t : Table) (only : ForeignKey → Bool) : Option SqlError :=
  t.foreignKeys.reverse.findSome? fun fk =>
    if !only fk then none
    else
      match parentOf o t fk with
      | .error e => some e
      | .ok p =>
        match locateParentKey o t p fk with
        | .error e => some e
        | .ok _ => none

/-- The first foreign key referring to a table, among those `only` accepts, whose parent key
cannot be found in it; the newest keys first. -/
def parentKeyFailure (o : Objects) (t : Table) (only : ForeignKey → Bool) : Option SqlError :=
  (o.referencing t).reverse.findSome? fun (c, fk) =>
    if !only fk then none
    else
      match locateParentKey o c t fk with
      | .error e => some e
      | .ok _ => none

/-- The names of the columns of a table's parent key that a foreign key refers to. -/
def parentKeyNames (o : Objects) (parent : Table) (fk : ForeignKey) : List String :=
  if !fk.parentColumns.isEmpty then fk.parentColumns
  else
    match parent.rowidColumn with
    | some i => [(parent.columns.getD i default).name]
    | none =>
      match (o.indexesOf parent).find? (·.primary) with
      | some i => i.columns.filterMap (·.name?)
      | none => []

/-- Places a column reference: a column, an alias, a text or a truth value; a name found more
than once or nowhere stops the walk. -/
def placeColumn (cx : Context) (s t : Option String) (n : String) (off : Nat) (dq : Bool) :
    Check Walk :=
  match lookupName cx.env.scopes s t n dq with
  | .column .. | .text _ | .truth _ => pure .pass
  | .aliased _ a =>
    if !cx.aggregates && a.hasAggregate then do
      Check.fail (SqlError.plain ("misuse of aliased aggregate " ++ n))
      pure .halt
    else pure .pass
  | .ambiguous => do
    Check.fail { message := "ambiguous column name: " ++ columnShown s t n, offset := some off }
    pure .halt
  | .missing => do
    Check.fail { message := "no such column: " ++ columnShown s t n, offset := some off }
    pure .halt

mutual

/-- Expands a query: the sources of its arms from the last arm to the first, with the queries
inside each arm's expressions. Gives whether the check stopped. -/
def expandQuery (fuel : Nat) (cx : Context) (q : Query) : Check Bool :=
  match fuel with
  | 0 => pure false
  | fuel + 1 =>
    match q with
    | .mk _ ctes body orderBy limit offset =>
      let tail := (orderBy.map fun
        | .mk e _ _ => e) ++ limit.toList ++ offset.toList
      expandArms fuel (cx.withCommon ctes) (body.checkArms.map (·.2)) tail none

/-- Expands arms from the last to the first; the last one's expressions are followed by `tail`,
and the tables named `bound` in their `FROM` clauses are the recursion of a common table. -/
def expandArms (fuel : Nat) (cx : Context) (arms : List Arm) (tail : List Expr)
    (bound : Option String) : Check Bool :=
  match fuel with
  | 0 => pure false
  | fuel + 1 => do
    let (stopped, _) ← arms.reverse.foldlM (fun (acc : Bool × Bool) arm => do
      if acc.1 then return acc
      let s ← expandArm fuel cx arm bound (if acc.2 then tail else [])
      pure (s, false)) (false, true)
    pure stopped

/-- Expands one arm: its sources, its joins, its `*`, then the queries inside its expressions
and `extra`. -/
def expandArm (fuel : Nat) (cx : Context) (arm : Arm) (bound : Option String) (extra : List Expr) :
    Check Bool :=
  match fuel with
  | 0 => pure false
  | fuel + 1 =>
    match arm with
    | .row es => expandExprs fuel cx (es ++ extra)
    | .core (.values rows) => expandExprs fuel cx (rows.flatten ++ extra)
    | .core (.select _ ps src filter groupBy having) => do
      if let some s := src then
        if ← expandSource fuel cx s bound then return true
      if ← Check.failed then return true
      if let some e := src.bind (joinFailure fuel cx.env) then
        Check.fail e
        return true
      let frames := match src with
        | some s => labelSubqueries (sourceFrames fuel cx.env s)
        | none => []
      for p in ps do
        match p with
        | .star _ => if src.isNone then Check.fail (SqlError.plain "no tables specified")
        | .tableStar t _ =>
          if !frames.any (·.answers none t) then Check.fail (SqlError.plain ("no such table: " ++ t))
        | .expr .. => pure ()
      let outputs := expandProjections frames ps
      let ons := (src.map (Source.onClauses fuel)).getD []
      expandExprs fuel cx (outputs.map (·.expr) ++ filter.toList ++ ons ++ groupBy ++ having.toList ++
        extra)

/-- Expands the tables of a `FROM` clause from the left. -/
def expandSource (fuel : Nat) (cx : Context) (s : Source) (bound : Option String) : Check Bool :=
  match fuel with
  | 0 => pure false
  | fuel + 1 =>
    match s with
    | .table schema name _ _ =>
      if schema.isNone && bound.any (sameName · name) then pure false
      else
        match (if schema.isNone then findCommonTable name cx.env.ctes else none) with
        | some (cte, visible) => expandCommon fuel cx cte visible
        | none =>
          match cx.relation schema name with
          | some (.inl _) => pure false
          | some (.inr v) => expandView fuel cx v
          | none => do
            Check.fail (SqlError.plain ("no such table: " ++ cx.shown schema name))
            pure true
    | .query q _ => expandQuery fuel cx q
    | .join l _ _ r _ _ => do
      if ← expandSource fuel cx l bound then return true
      expandSource fuel cx r bound

/-- Expands a reference to a common table: its query, the recursion of a recursive one apart,
and the count of its columns. -/
def expandCommon (fuel : Nat) (cx : Context) (cte : CommonTable) (visible : List WithBlock) :
    Check Bool :=
  match fuel with
  | 0 => pure false
  | fuel + 1 =>
    match cte with
    | .mk name columns q => do
      if let some (_, message) := (← get).pending.find? (sameName ·.1 name) then
        Check.fail (SqlError.plain (message ++ name))
        return true
      match q with
      | .mk _ ctes body orderBy limit offset =>
        let inner := ({ cx with env := { cx.env with ctes := visible } } : Context).withCommon ctes
        let arms := body.checkArms
        let lastOp := (arms.getLast?.bind (·.1))
        let mayRecurse := lastOp == some .union || lastOp == some .unionAll
        let refs (arm : Arm) : Nat := match arm with
          | .core (.select _ _ (some s) _ _ _) => ((s.directNames fuel).filter (sameName · name)).length
          | _ => 0
        let recursive := if mayRecurse then
            arms.reverse.takeWhile fun (op, a) => op == lastOp && refs a > 0
          else []
        if recursive.any (refs ·.2 > 1) then
          Check.fail (SqlError.plain ("multiple references to recursive table: " ++ name))
          return true
        let initial := (arms.take (arms.length - recursive.length)).map (·.2)
        let tail := (orderBy.map fun
          | .mk e _ _ => e) ++ limit.toList ++ offset.toList
        let saved := (← get).pending
        modify fun f => { f with pending := (name, "circular reference: ") :: saved }
        let stopped ← expandArms fuel inner initial (if recursive.isEmpty then tail else []) none
        if stopped then
          modify fun f => { f with pending := saved }
          return true
        let width := match initial.head? with
          | some a => (a.outputs fuel inner.env).2.length
          | none => 0
        if !columns.isEmpty && width != columns.length then
          modify fun f => { f with pending := saved }
          Check.fail (SqlError.plain ("table " ++ name ++ " has " ++ toString width ++ " values for " ++
            toString columns.length ++ " columns"))
          return true
        let stopped ← if recursive.isEmpty then pure false
          else do
            modify fun f => { f with
              pending := (name, "recursive aggregate queries not supported: ") :: saved }
            expandArms fuel inner (recursive.reverse.map (·.2)) tail (some name)
        modify fun f => { f with pending := saved }
        pure stopped

/-- Expands a view the query reads: its own query is checked in full, apart from the statement,
and must give as many columns as the view names. -/
def expandView (fuel : Nat) (cx : Context) (v : View) : Check Bool :=
  match fuel with
  | 0 => pure false
  | fuel + 1 => do
    if (← get).views.any (sameName · v.name) then
      Check.fail (SqlError.plain ("view " ++ v.name ++ " is circularly defined"))
      return true
    let saved := (← get).views
    modify fun f => { f with views := v.name :: saved }
    let vcx : Context := { env := { objects := cx.env.objects, settings := cx.env.settings }
                           home := if v.temporary then none else some "main" }
    let stopped ← Check.apart (prepareQuery fuel vcx v.query)
    modify fun f => { f with views := saved }
    if stopped then return true
    let width := (queryOutputs fuel vcx.env v.query).length
    if !v.columns.isEmpty && v.columns.length != width then
      Check.fail (SqlError.plain ("expected " ++ toString v.columns.length ++ " columns for '" ++
        v.name ++ "' but got " ++ toString width))
      return true
    pure false

/-- Expands the queries inside expressions, in the order a walk meets them. -/
def expandExprs (fuel : Nat) (cx : Context) (es : List Expr) : Check Bool :=
  match fuel with
  | 0 => pure false
  | fuel + 1 =>
    es.foldlM (fun stopped e =>
      if stopped then pure true
      else (e.nestedQueries fuel).foldlM (fun stopped q =>
        if stopped then pure true else expandQuery fuel cx q) false) false

/-- Prepares a query: expands it, then places its names. -/
def prepareQuery (fuel : Nat) (cx : Context) (q : Query) : Check Bool :=
  match fuel with
  | 0 => pure false
  | fuel + 1 => do
    let _ ← expandQuery fuel cx q
    if ← Check.failed then return true
    resolveQuery fuel { cx with expanded := true } q

/-- Places the names of an expanded query: arm by arm from the last (its limits first), each
arm's width against its right neighbour's, then the `ORDER BY` of a compound. -/
def resolveQuery (fuel : Nat) (cx : Context) (q : Query) : Check Bool :=
  match fuel with
  | 0 => pure false
  | fuel + 1 =>
    match q with
    | .mk _ ctes body orderBy limit offset => do
      let cx := cx.withCommon ctes
      let arms := body.checkArms
      let single := arms.length == 1
      let bare : Context := { cx with env := { cx.env with scopes := [] }, aggregates := false }
      for e in limit.toList ++ offset.toList do
        let _ ← walkExpr fuel bare e
        if ← Check.failed then return true
      let (stopped, _) ← arms.reverse.foldlM (fun (acc : Bool × Option (Option SetOp × Arm × Nat))
          (op, arm) => do
        if acc.1 then return acc
        if ← resolveArm fuel cx arm (if single then orderBy else []) then return (true, none)
        let width := (arm.outputs fuel cx.env).2.length
        if let some (rop, rarm, rwidth) := acc.2 then
          if width != rwidth then
            Check.fail (wrongWidth rop rarm)
            return (true, none)
        pure (false, some (op, arm, width))) (false, none)
      if stopped then return true
      if !single && !orderBy.isEmpty then
        resolveCompoundOrder fuel cx (arms.map (·.2)) (orderBy.map fun
          | .mk e _ _ => e)
      else pure false

/-- Places the names of one arm. -/
def resolveArm (fuel : Nat) (cx : Context) (arm : Arm) (orderBy : List OrderTerm) : Check Bool :=
  match fuel with
  | 0 => pure false
  | fuel + 1 => do
    let terms := orderBy.map fun
      | .mk e _ _ => e
    match arm with
    | .core (.select _ _ src filter groupBy having) =>
      if let some s := src then
        if ← resolveSources fuel cx s then return true
      let (frames, outputs) := arm.outputs fuel cx.env
      let listing := { cx.enter { frames } with aggregates := true }
      for o in outputs do
        let _ ← walkExpr fuel listing o.expr
        if ← Check.failed then return true
      let aggregate := !groupBy.isEmpty || outputs.any (·.expr.hasAggregate)
      let scope := Arm.scope frames outputs
      let clauses := { cx.enter scope with aggregates := aggregate }
      if let some h := having then
        if !aggregate then
          Check.fail (SqlError.plain "HAVING clause on a non-aggregate query")
          return true
        let _ ← walkExpr fuel clauses h
        if ← Check.failed then return true
      match filter.toList ++ (src.map (Source.onClauses fuel)).getD [] with
      | [] => pure ()
      | w :: more =>
        let _ ← walkExpr fuel clauses (more.foldl (Expr.binary .and) w)
        if ← Check.failed then return true
      let own := { cx.pinned scope with aggregates := true }
      if !terms.isEmpty then
        if ← resolveOrdering fuel own "ORDER" outputs terms then return true
      if !groupBy.isEmpty then
        if ← resolveOrdering fuel own "GROUP" outputs groupBy then return true
        let aggregated (g : Expr) : Bool :=
          match g.termNumber? 10 with
          | some n =>
            if 1 ≤ n && n ≤ outputs.length then
              ((outputs[(n - 1).toNat]?).map (·.expr.hasAggregate)).getD false
            else false
          | none =>
            match g with
            | .column s t n _ dq =>
              match lookupName own.env.scopes s t n dq with
              | .aliased _ a => a.hasAggregate
              | _ => false
            | g => g.hasAggregate
        if groupBy.any aggregated then
          Check.fail (SqlError.plain "aggregate functions are not allowed in the GROUP BY clause")
          return true
      pure false
    | arm =>
      let (_, outputs) := arm.outputs fuel cx.env
      let listing := { cx.enter {} with aggregates := true }
      for o in outputs do
        let _ ← walkExpr fuel listing o.expr
        if ← Check.failed then return true
      if terms.isEmpty then pure false
      else resolveOrdering fuel { cx.pinned {} with aggregates := true } "ORDER" outputs terms

/-- Places the names of the subqueries of a `FROM` clause and of the common tables it reads,
from the left. -/
def resolveSources (fuel : Nat) (cx : Context) (s : Source) : Check Bool :=
  match fuel with
  | 0 => pure false
  | fuel + 1 =>
    match s with
    | .query q _ => do
      let _ ← resolveQuery fuel cx q
      Check.failed
    | .table schema name _ _ =>
      if schema.isSome || cx.recursing.any (sameName · name) then pure false
      else
        match findCommonTable name cx.env.ctes with
        | some (.mk cname _ q, visible) => do
          let inner := { cx with env := { cx.env with ctes := visible },
                                 recursing := cname :: cx.recursing }
          let _ ← resolveQuery fuel inner q
          Check.failed
        | none => pure false
    | .join l _ _ r _ _ => do
      if ← resolveSources fuel cx l then return true
      resolveSources fuel cx r

/-- Places the terms of the `ORDER BY` (`kind` is `ORDER`) or `GROUP BY` (`GROUP`) of a select:
a term is a result column's alias (for `ORDER BY`), a column number, or an expression. -/
def resolveOrdering (fuel : Nat) (cx : Context) (kind : String) (outputs : List Output)
    (terms : List Expr) : Check Bool :=
  match fuel with
  | 0 => pure false
  | fuel + 1 => do
    let n := outputs.length
    let numbered ← terms.zipIdx.foldlM (fun (acc : Option (List (Nat × Int))) (t, i) => do
      match acc with
      | none => pure none
      | some found =>
        let e := Expr.skipCollateLikely 100 t
        if kind == "ORDER" && (aliasIndex? outputs e).isSome then return some found
        match e.termNumber? 10 with
        | some v =>
          if v < 1 || v > 65535 then
            Check.fail { outOfRange kind i n with offset := e.leftOffset? 10 }
            return none
          pure (some (found ++ [(i, v)]))
        | none =>
          let _ ← walkExpr fuel cx t
          if ← Check.failed then return none
          pure (some found)) (some [])
    match numbered with
    | none => pure true
    | some found =>
      match found.find? (·.2 > (n : Int)) with
      | some (i, _) =>
        Check.fail (outOfRange kind i n)
        pure true
      | none => pure false

/-- Matches the terms of a compound's `ORDER BY` to result columns, arm by arm from the first:
by number, by alias, or as an expression the arm gives. -/
def resolveCompoundOrder (fuel : Nat) (cx : Context) (arms : List Arm) (terms : List Expr) :
    Check Bool :=
  match fuel with
  | 0 => pure false
  | fuel + 1 => do
    let done ← arms.foldlM (fun (acc : Option (List Bool)) arm => do
      match acc with
      | none => pure none
      | some done =>
        if done.all id then return some done
        let (frames, outputs) := arm.outputs fuel cx.env
        let armCx := { cx.pinned (Arm.scope frames outputs) with aggregates := true, noQueries := true }
        terms.zipIdx.foldlM (fun (acc : Option (List Bool)) (t, i) => do
          match acc with
          | none => pure none
          | some done =>
            if done.getD i true then return some done
            let e := Expr.skipCollateLikely 100 t
            match e.termNumber? 10 with
            | some v =>
              if v ≤ 0 || v > outputs.length then
                Check.fail { outOfRange "ORDER" i outputs.length with offset := e.leftOffset? 10 }
                return none
              pure (some (done.set i true))
            | none =>
              if (aliasIndex? outputs e).isSome then return some (done.set i true)
              let bad ← Check.quietly (discard (walkExpr fuel armCx e))
              if !bad && outputs.any (fun o => Expr.sameAs armCx.env 100 e o.expr) then
                pure (some (done.set i true))
              else pure (some done)) (some done)) (some (terms.map fun _ => false))
    match done with
    | none => pure true
    | some done =>
      match done.findIdx? (!·) with
      | some i =>
        Check.fail (SqlError.plain (ordinal (i + 1) ++
          " ORDER BY term does not match any column in the result set"))
        pure true
      | none => pure false

/-- Walks an expression, placing its names. Gives whether the walk stopped. -/
def walkExpr (fuel : Nat) (cx : Context) (e : Expr) : Check Bool :=
  match fuel with
  | 0 => pure false
  | fuel + 1 => do
    match ← stepExpr fuel cx e with
    | .halt => pure true
    | .pass => pure false
    | .enter => walkParts fuel cx e

/-- Walks the parts of an expression: the left operand first. -/
def walkParts (fuel : Nat) (cx : Context) (e : Expr) : Check Bool :=
  match fuel with
  | 0 => pure false
  | fuel + 1 =>
    match e with
    | .inQuery a _ _ => walkExpr fuel cx a
    | e => walkAll fuel cx e.children

/-- Walks expressions in order until one stops the walk. -/
def walkAll (fuel : Nat) (cx : Context) (es : List Expr) : Check Bool :=
  match fuel with
  | 0 => pure false
  | fuel + 1 => es.foldlM (fun stopped e => if stopped then pure true else walkExpr fuel cx e) false

/-- Checks one node of an expression. -/
def stepExpr (fuel : Nat) (cx : Context) (e : Expr) : Check Walk :=
  match fuel with
  | 0 => pure .pass
  | fuel + 1 =>
    match e with
    | .column s t n off dq => placeColumn cx s t n off dq
    | .call name args _ star off => stepCall fuel cx name args star off
    | .pattern _ a p esc _ => do
      let _ ← walkAll fuel cx ([p, a] ++ esc.toList)
      pure .pass
    | .param _ => do
      if let some d := cx.definition then
        Check.fail (SqlError.plain ("parameters prohibited in " ++ d))
      Check.onward
    | .scalar q | .exists q => stepQuery fuel cx q none
    | .inQuery a q _ => stepQuery fuel cx q (a.leftOffset? fuel)
    | .binary op a b =>
      if op == .eq || op == .ne || op == .lt || op == .le || op == .gt || op == .ge ||
          op == .is || op == .isNot then do
        if op == .is || op == .isNot then
          if let .column s t n off dq := b then
            if (← placeColumn cx s t n off dq) == .halt then return .halt
        if a.width fuel cx.env != b.width fuel cx.env then
          Check.fail { message := "row value misused", offset := e.leftOffset? fuel }
        Check.onward
      else Check.onward
    | .between a l h _ => do
      let w := a.width fuel cx.env
      let wl := l.width fuel cx.env
      let wr := if wl == w then h.width fuel cx.env else wl
      if w != wr then
        Check.fail { message := "row value misused", offset := e.leftOffset? fuel }
      Check.onward
    | _ => Check.onward

/-- Checks a call: the function must exist with that many arguments, an aggregate must stand
where one may, then its arguments are walked (those of an aggregate may hold none). -/
def stepCall (fuel : Nat) (cx : Context) (name : String) (args : List Expr) (star : Bool)
    (off : Nat) : Check Walk :=
  match fuel with
  | 0 => pure .pass
  | fuel + 1 => do
    let lname := name.map Char.toLower
    let argc := if star then 0 else args.length
    let kind := FunctionKind.of? lname argc
    let found := match kind with
      | .ok _ => true
      | .error _ => false
    if found && lname == "likelihood" && argc == 2 && !probabilityLiteral (args.getD 1 default) then
      Check.fail { message := "second argument to " ++ name ++
        "() must be a constant between 0.0 and 1.0", offset := some off }
    if found && volatileFunction lname then
      if let some d := cx.definition then
        if d != "CHECK constraints" then
          Check.fail { message := "non-deterministic functions prohibited in " ++ d, offset := some off }
    let argCx ← match kind with
      | .ok .aggregate =>
        if cx.aggregates then pure { cx with aggregates := false }
        else do
          Check.fail { message := "misuse of aggregate function " ++ name ++ "()", offset := some off }
          pure cx
      | .ok _ => pure cx
      | .error .noSuchFunction => do
        Check.fail { message := "no such function: " ++ name, offset := some off }
        pure cx
      | .error .wrongArguments => do
        Check.fail { message := "wrong number of arguments to function " ++ name ++ "()",
                     offset := some off }
        pure cx
    let _ ← walkAll fuel argCx args
    pure .pass

/-- Checks a subquery inside an expression: it is placed with the expression's scopes around
it, expanded first when its statement was not. -/
def stepQuery (fuel : Nat) (cx : Context) (q : Query) (offset : Option Nat) : Check Walk :=
  match fuel with
  | 0 => pure .pass
  | fuel + 1 => do
    match cx.definition with
    | some d => Check.fail { message := "subqueries prohibited in " ++ d, offset }
    | none =>
      if !cx.noQueries then
        discard (if cx.expanded then resolveQuery fuel { cx with aggregates := false } q
          else prepareQuery fuel { cx with aggregates := false } q)
    Check.onward

/-- Places the expressions of a list in order, stopping after the first that fails. -/
def resolveList (fuel : Nat) (cx : Context) (es : List Expr) : Check Bool :=
  match fuel with
  | 0 => pure false
  | fuel + 1 =>
    es.foldlM (fun stopped e => do
      if stopped then return true
      let _ ← walkExpr fuel cx e
      Check.failed) false

/-- Checks a query statement: its preparation, then the program of its expressions. -/
def checkSelect (fuel : Nat) (cx : Context) (inTrigger : Bool) (q : Query) : Check Bool :=
  match fuel with
  | 0 => pure false
  | fuel + 1 => do
    if ← prepareQuery fuel cx q then return true
    match (Query.programFailures fuel cx.env inTrigger q).getLast? with
    | some e =>
      Check.fail e
      pure true
    | none => pure false

/-- Builds the programs of the triggers a change fires: each one's condition and the statements
of its body, with its rows as `NEW` and `OLD`. Each program is built apart, once, and all are
built even after one fails. Gives whether anything failed. -/
def checkTriggers (fuel : Nat) (cx : Context) (triggers : List Trigger) (shape : Frame)
    (old new : Bool) : Check Bool :=
  match fuel with
  | 0 => pure false
  | fuel + 1 => do
    for tr in triggers do
      let key := (tr.temporary, tr.name)
      if !(← get).built.contains key then
        modify fun f => { f with built := key :: f.built }
        let row : Option (List SqlValue × SqlValue) := some ([], .null)
        let scope := triggerScope shape (if old then row else none) (if new then row else none)
        let tcx : Context := { env := { objects := cx.env.objects, settings := cx.env.settings,
                                        scopes := [scope] }
                               home := if tr.temporary then none else some "main" }
        let outer ← get
        set ({ outer with failure := none, count := 0 } : Findings)
        let condition ← match tr.condition with
          | some c => do
            let _ ← walkExpr fuel tcx c
            Check.failed
          | none => pure false
        if !condition then
          discard (tr.body.foldlM (fun stopped step =>
            if stopped then pure true else checkStatement fuel tcx true step) false)
        let inner ← get
        set { outer with built := inner.built }
        if inner.count > 0 then
          if let some e := inner.failure then Check.noteApart e
    Check.failed

/-- Checks the `RETURNING` columns of a change to a table. -/
def checkReturning (fuel : Nat) (cx : Context) (t : Table) (returning : List Projection) :
    Check Bool :=
  match fuel with
  | 0 => pure false
  | fuel + 1 =>
    if returning.isEmpty then pure false
    else
      let frame := t.frame t.name
      resolveList fuel (cx.enter { frames := [frame] })
        ((expandProjections [frame] returning).map (·.expr))

/-- Checks the assignments of an update: each value is placed, then the columns it sets must be
columns of the target that are not generated (or its row id). -/
def checkAssignments (fuel : Nat) (cx : Context) (shape : Frame) (generated : List Bool)
    (hasRowid : Bool) (sets : List Assignment) : Check Bool :=
  match fuel with
  | 0 => pure false
  | fuel + 1 =>
    let column (n : String) : Check Bool := do
      match shape.fieldIndex? n with
      | some j =>
        if generated.getD j false then
          Check.fail (SqlError.plain ("cannot UPDATE generated column \"" ++
            (shape.fields.getD j default).name ++ "\""))
          return true
        pure false
      | none =>
        if hasRowid && isRowidName n then return false
        Check.fail (SqlError.plain ("no such column: " ++ n))
        pure true
    sets.foldlM (fun stopped a => do
      if stopped then return true
      match a.columns, a.value with
      | cs@(_ :: _ :: _), .vector items =>
        (cs.zip items).foldlM (fun stopped (c, e) => do
          if stopped then return true
          if ← resolveList fuel cx [e] then return true
          column c) false
      | cs, v => do
        if ← resolveList fuel cx [v] then return true
        cs.foldlM (fun stopped c => if stopped then pure true else column c) false) false

/-- Checks an insert. -/
def checkInsert (fuel : Nat) (cx : Context) (inTrigger : Bool) (ctes : List CommonTable)
    (target : TableName) (conflict : Conflict) (columns : Option (List String))
    (source : InsertSource) (upserts : List Upsert) (returning : List Projection) : Check Bool :=
  match fuel with
  | 0 => pure false
  | fuel + 1 => do
    let cx := cx.withCommon ctes
    let o := cx.env.objects
    let some rel := cx.relation (target.schema.map (·.1)) target.name
      | do
        Check.fail (SqlError.plain ("no such table: " ++ cx.shown (target.schema.map (·.1)) target.name))
        return true
    if let .inr v := rel then
      if ← expandView fuel cx v then return true
      if (o.firing v.name v.temporary .insert .insteadOf).isEmpty then
        Check.fail (SqlError.plain ("cannot modify " ++ v.name ++ " because it is a view"))
        return true
    let shape : Frame := match rel with
      | .inl t => t.frame (target.label.getD t.name)
      | .inr v => { viewShape fuel cx.env v with label := target.label.getD v.name }
    let generated : List Bool := match rel with
      | .inl t => t.columns.map (·.generated.isSome)
      | .inr _ => shape.fields.map fun _ => false
    let hasRowid := match rel with
      | .inl t => t.hasRowid
      | .inr _ => false
    let shown := target.label.getD target.shown
    if let some names := columns then
      let bad := names.findSome? fun n =>
        match shape.fieldIndex? n with
        | some j =>
          if generated.getD j false then
            some ("cannot INSERT into generated column \"" ++ (shape.fields.getD j default).name ++ "\"")
          else none
        | none =>
          if hasRowid && isRowidName n then none
          else some ("table " ++ shown ++ " has no column named " ++ n)
      if let some m := bad then
        Check.fail (SqlError.plain m)
        return true
    let single : Option (List Expr) := match source with
      | .query (.mk _ [] (.single (.values [row])) [] none none) => some row
      | _ => none
    match single, source with
    | some row, _ => if ← resolveList fuel cx row then return true
    | none, .query q => if ← checkSelect fuel cx inTrigger q then return true
    | none, .defaults => pure ()
    let given := match single, source with
      | some row, _ => row.length
      | none, .query q => (queryOutputs fuel cx.env q).length
      | none, .defaults => 0
    match columns with
    | none =>
      let insertable := (generated.filter (!·)).length
      if given > 0 && given != insertable then
        Check.fail (SqlError.plain ("table " ++ shown ++ " has " ++ toString insertable ++
          " columns but " ++ toString given ++ " values were supplied"))
        return true
    | some names =>
      if given != names.length then
        Check.fail (SqlError.plain (toString given ++ " values for " ++ toString names.length ++
          " columns"))
        return true
    if !upserts.isEmpty then
      match rel with
      | .inr _ =>
        Check.fail (SqlError.plain "cannot UPSERT a view")
        return true
      | .inl t =>
        let tcx := cx.enter { frames := [shape] }
        let targets := upserts.zipIdx.takeWhile (·.1.target.isSome)
        for (u, i) in targets do
          if let some (cols, w) := u.target then
            if ← resolveList fuel tcx (cols.map (·.expr) ++ w.toList) then return true
            if (upsertTarget t (o.indexesOf t) u).isNone then
              Check.fail (SqlError.plain ((if i == 0 then "" else ordinal (i + 1) ++ " ") ++
                "ON CONFLICT clause does not match any PRIMARY KEY or UNIQUE constraint"))
              return true
    if let some row := single then
      if let some e := (row.flatMap (Expr.programFailures fuel cx.env inTrigger true)).getLast? then
        Check.fail e
    match rel with
    | .inr v =>
      checkTriggers fuel cx (o.firing v.name v.temporary .insert .insteadOf) shape false true
    | .inl t =>
      let _ ← checkTriggers fuel cx (o.firing t.name t.temporary .insert .before) shape false true
      if !(← Check.failed) then
        let excluded : Frame := { t.frame "excluded" with qualifiedOnly := true }
        let ucx := cx.enter { frames := [shape, excluded] }
        let _ ← upserts.foldlM (fun stopped u => do
          if stopped then return true
          match u.action with
          | .update sets filter =>
            if ← checkAssignments fuel ucx shape generated hasRowid sets then return true
            resolveList fuel ucx filter.toList
          | .nothing => pure false) false
      if cx.env.settings.foreignKeys then
        if let some e := childKeyFailure o t fun _ => true then Check.fail e
        else
          let override := if conflict == .abort then none else some conflict
          let lone := !inTrigger && (single.isSome || source matches .defaults) &&
            !replaces t (o.indexesOf t) override upserts columns &&
            (o.firing t.name t.temporary .insert .before).isEmpty &&
            (o.firing t.name t.temporary .insert .after).isEmpty
          if let some e := parentKeyFailure o t fun fk => fk.deferred || !lone then Check.fail e
      let _ ← checkTriggers fuel cx (o.firing t.name t.temporary .insert .after) shape false true
      if !(← Check.failed) then
        let _ ← checkReturning fuel cx t returning
      Check.failed

/-- Checks an update. -/
def checkUpdate (fuel : Nat) (cx : Context) (inTrigger : Bool) (ctes : List CommonTable)
    (target : TableName) (sets : List Assignment) (source : Option Source) (filter : Option Expr)
    (returning : List Projection) : Check Bool :=
  match fuel with
  | 0 => pure false
  | fuel + 1 => do
    for a in sets do
      if a.columns.length > 1 && !(a.value matches .scalar _) then
        let w := a.value.width fuel cx.env
        if w != a.columns.length then
          Check.fail (SqlError.plain (toString a.columns.length ++ " columns assigned " ++ toString w ++
            " values"))
          return true
    let cx := cx.withCommon ctes
    let o := cx.env.objects
    let changed := sets.flatMap (·.columns)
    let some rel := cx.relation (target.schema.map (·.1)) target.name
      | do
        Check.fail (SqlError.plain ("no such table: " ++ cx.shown (target.schema.map (·.1)) target.name))
        return true
    if let .inr v := rel then
      if ← expandView fuel cx v then return true
      if (o.firing v.name v.temporary (.update changed) .insteadOf).isEmpty then
        Check.fail (SqlError.plain ("cannot modify " ++ v.name ++ " because it is a view"))
        return true
    let shape : Frame := match rel with
      | .inl t => t.frame (target.label.getD t.name)
      | .inr v => { viewShape fuel cx.env v with label := target.label.getD v.name }
    let generated : List Bool := match rel with
      | .inl t => t.columns.map (·.generated.isSome)
      | .inr _ => shape.fields.map fun _ => false
    let hasRowid := match rel with
      | .inl t => t.hasRowid
      | .inr _ => false
    let extra ← match source with
      | some src => do
        if ← expandSource fuel cx src none then return true
        if ← resolveSources fuel { cx with expanded := true } src then return true
        pure (labelSubqueries (sourceFrames fuel cx.env src))
      | none => pure []
    let ucx := cx.enter { frames := shape :: extra }
    if ← checkAssignments fuel ucx shape generated hasRowid sets then return true
    if ← resolveList fuel ucx filter.toList then return true
    let failures := sets.flatMap (assignmentFailures fuel cx.env inTrigger) ++
      filter.toList.flatMap (Expr.programFailures fuel cx.env inTrigger true)
    if let some e := failures.getLast? then Check.fail e
    match rel with
    | .inr v =>
      checkTriggers fuel cx (o.firing v.name v.temporary (.update changed) .insteadOf) shape true true
    | .inl t =>
      let _ ← checkTriggers fuel cx (o.firing t.name t.temporary (.update changed) .before) shape
        true true
      if cx.env.settings.foreignKeys then
        let touches (names : List String) : Bool :=
          names.any fun n => changed.any (sameName n ·) ||
            (hasRowid && t.rowidColumn.any (fun i => sameName n (t.columns.getD i default).name) &&
              changed.any isRowidName)
        if let some e := childKeyFailure o t fun fk => touches fk.columns then Check.fail e
        else if let some e := parentKeyFailure o t fun fk => touches (parentKeyNames o t fk) then
          Check.fail e
      let _ ← checkTriggers fuel cx (o.firing t.name t.temporary (.update changed) .after) shape
        true true
      if !(← Check.failed) then
        let _ ← checkReturning fuel cx t returning
      Check.failed

/-- Checks a delete. -/
def checkDelete (fuel : Nat) (cx : Context) (inTrigger : Bool) (ctes : List CommonTable)
    (target : TableName) (filter : Option Expr) (returning : List Projection) : Check Bool :=
  match fuel with
  | 0 => pure false
  | fuel + 1 => do
    let cx := cx.withCommon ctes
    let o := cx.env.objects
    let some rel := cx.relation (target.schema.map (·.1)) target.name
      | do
        Check.fail (SqlError.plain ("no such table: " ++ cx.shown (target.schema.map (·.1)) target.name))
        return true
    if let .inr v := rel then
      if ← expandView fuel cx v then return true
      if (o.firing v.name v.temporary .delete .insteadOf).isEmpty then
        Check.fail (SqlError.plain ("cannot modify " ++ v.name ++ " because it is a view"))
        return true
    let shape : Frame := match rel with
      | .inl t => t.frame (target.label.getD t.name)
      | .inr v => { viewShape fuel cx.env v with label := target.label.getD v.name }
    if ← resolveList fuel (cx.enter { frames := [shape] }) filter.toList then return true
    if let some e := (filter.toList.flatMap (Expr.programFailures fuel cx.env inTrigger true)).getLast?
    then Check.fail e
    match rel with
    | .inr v => checkTriggers fuel cx (o.firing v.name v.temporary .delete .insteadOf) shape true false
    | .inl t =>
      let _ ← checkTriggers fuel cx (o.firing t.name t.temporary .delete .before) shape true false
      if cx.env.settings.foreignKeys then
        if let some e := childKeyFailure o t fun _ => true then Check.fail e
        else if let some e := parentKeyFailure o t fun _ => true then Check.fail e
      let _ ← checkTriggers fuel cx (o.firing t.name t.temporary .delete .after) shape true false
      if !(← Check.failed) then
        let _ ← checkReturning fuel cx t returning
      Check.failed

/-- Checks a statement before it runs. Gives whether the check stopped. -/
def checkStatement (fuel : Nat) (cx : Context) (inTrigger : Bool) (stmt : Statement) : Check Bool :=
  match fuel with
  | 0 => pure false
  | fuel + 1 =>
    match stmt with
    | .select q => checkSelect fuel cx inTrigger q
    | .insert _ ctes target conflict columns source upserts returning =>
      checkInsert fuel cx inTrigger ctes target conflict columns source upserts returning
    | .update _ ctes target _ sets source filter returning =>
      checkUpdate fuel cx inTrigger ctes target sets source filter returning
    | .delete _ ctes target filter returning =>
      checkDelete fuel cx inTrigger ctes target filter returning
    | .explain s => checkStatement fuel cx inTrigger s
    | _ => pure false

end

/-- The fuel a check runs with: more than any nesting of queries, expressions and triggers a
statement can reach. -/
def checkFuel : Nat := 100000

/-- The failure a statement is refused with before it runs, if any. -/
def prepareFailure (o : Objects) (settings : Settings) (stmt : Statement) : Option SqlError :=
  let cx : Context := { env := { objects := o, settings } }
  ((checkStatement checkFuel cx false stmt).run {}).2.failure

/-- The failure a query is refused with before it runs, if any. -/
def queryFailure (o : Objects) (settings : Settings) (q : Query) : Option SqlError :=
  prepareFailure o settings (.select q)

end Schedule.Sql
