import Schedule.Sql.Syntax

/-!
# Renaming tables and columns inside statements

When a table or a column is renamed, the views and triggers that name it are rewritten to the
new name: the tables their sources read, the qualifiers of their column references, the targets
of their statements and the names their column references use. A `Renaming` says what becomes
of each; the rewrite applies it everywhere in an expression, a query or a statement, subqueries
included.

## Main definitions

* `Renaming` — what a rename does to a table name and to a column reference.
* `renameExpr`, `renameQuery`, `renameStatement` — the rewrites.
-/

namespace Schedule.Sql

/-- What a rename does: to the name of a table a source or a statement names (with the schema
it is qualified with), and to a column reference (schema, qualifier and name), giving the new
qualifier and name. -/
structure Renaming where
  table : Option String → String → String
  column : Option String → Option String → String → Option String × String

mutual

/-- An expression with the renaming applied. -/
def renameExpr (fuel : Nat) (r : Renaming) (e : Expr) : Expr :=
  match fuel with
  | 0 => e
  | fuel + 1 =>
    let go := renameExpr fuel r
    match e with
    | .column s t n off dq =>
      let (t', n') := r.column s t n
      .column s t' n' off dq
    | .neg a => .neg (go a)
    | .pos a => .pos (go a)
    | .not a => .not (go a)
    | .bitNot a => .bitNot (go a)
    | .isNull a n => .isNull (go a) n
    | .truthTest a v n => .truthTest (go a) v n
    | .binary op a b => .binary op (go a) (go b)
    | .between a l h n => .between (go a) (go l) (go h) n
    | .inList a items n => .inList (go a) (items.map go) n
    | .inQuery a q n => .inQuery (go a) (renameQuery fuel r q) n
    | .pattern op a p esc n => .pattern op (go a) (go p) (esc.map go) n
    | .collate a c => .collate (go a) c
    | .cast a ty => .cast (go a) ty
    | .caseOf op cs rs o => .caseOf (op.map go) (cs.map go) (rs.map go) (o.map go)
    | .call name args d st off => .call name (args.map go) d st off
    | .scalar q => .scalar (renameQuery fuel r q)
    | .exists q => .exists (renameQuery fuel r q)
    | .vector items => .vector (items.map go)
    | e => e

/-- A query with the renaming applied. -/
def renameQuery (fuel : Nat) (r : Renaming) (q : Query) : Query :=
  match fuel with
  | 0 => q
  | fuel + 1 =>
    match q with
    | .mk recursive ctes body orderBy limit offset =>
      .mk recursive (ctes.map fun
          | .mk n cols q => .mk n cols (renameQuery fuel r q))
        (renameBody fuel r body)
        (orderBy.map fun
          | .mk e d nf => .mk (renameExpr fuel r e) d nf)
        (limit.map (renameExpr fuel r)) (offset.map (renameExpr fuel r))

/-- A compound body with the renaming applied. -/
def renameBody (fuel : Nat) (r : Renaming) (b : QueryBody) : QueryBody :=
  match fuel with
  | 0 => b
  | fuel + 1 =>
    match b with
    | .single c => .single (renameCore fuel r c)
    | .compound l op c => .compound (renameBody fuel r l) op (renameCore fuel r c)

/-- A select core with the renaming applied. -/
def renameCore (fuel : Nat) (r : Renaming) (c : SelectCore) : SelectCore :=
  match fuel with
  | 0 => c
  | fuel + 1 =>
    let ex := renameExpr fuel r
    match c with
    | .select d ps src f g h =>
      .select d (ps.map fun
          | .expr e label text => .expr (ex e) label text
          | .tableStar t off => .tableStar ((r.column none (some t) "*").1.getD t) off
          | p => p)
        (src.map (renameSource fuel r)) (f.map ex) (g.map ex) (h.map ex)
    | .values rows => .values (rows.map (·.map ex))

/-- A source with the renaming applied. -/
def renameSource (fuel : Nat) (r : Renaming) (s : Source) : Source :=
  match fuel with
  | 0 => s
  | fuel + 1 =>
    match s with
    | .table schema n label off => .table schema (r.table schema n) label off
    | .query q label => .query (renameQuery fuel r q) label
    | .join l k natural rt on usingColumns =>
      .join (renameSource fuel r l) k natural (renameSource fuel r rt)
        (on.map (renameExpr fuel r)) usingColumns

end

/-- A statement of a trigger's body with the renaming applied. -/
def renameStatement (fuel : Nat) (r : Renaming) (s : Statement) : Statement :=
  let ex := renameExpr fuel r
  let target (t : TableName) : TableName :=
    { t with name := r.table (t.schema.map (·.1)) t.name }
  let sets (a : Assignment) : Assignment := { a with value := ex a.value }
  let proj : Projection → Projection
    | .expr e label text => .expr (ex e) label text
    | p => p
  match s with
  | .insert rec ctes t c cols src ups ret =>
    let src := match src with
      | .query q => .query (renameQuery fuel r q)
      | .defaults => .defaults
    let ups := ups.map fun u => { u with action := match u.action with
      | .update ss f => .update (ss.map sets) (f.map ex)
      | .nothing => .nothing }
    .insert rec ctes (target t) c cols src ups (ret.map proj)
  | .update rec ctes t c ss src f ret =>
    .update rec ctes (target t) c (ss.map sets) (src.map (renameSource fuel r)) (f.map ex)
      (ret.map proj)
  | .delete rec ctes t f ret => .delete rec ctes (target t) (f.map ex) (ret.map proj)
  | .select q => .select (renameQuery fuel r q)
  | s => s

end Schedule.Sql
