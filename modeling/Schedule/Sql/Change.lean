import Schedule.Sql.Storage
import Schedule.Sql.Parser.Table

/-!
# Changing rows: inserts, updates and deletes

A row written to a table goes through the table's constraints in the order the database checks
them, each with the action it names or the statement overrides (`Conflict`):

1. its values take their columns' affinities, and generated columns are computed;
2. a row id that is given must be an integer (`datatype mismatch`); one that is not given is
   made (`Table.newRowid`) after the `BEFORE` triggers ran;
3. `NOT NULL`, for the columns the statement sets: fail, skip the row (`IGNORE`), or take the
   column's default (`REPLACE`, when the column has one);
4. `CHECK` constraints that read a column the statement sets (null passes);
5. uniqueness: the row id, then the unique indexes in their order; `REPLACE` deletes the row in
   the way, `IGNORE` skips the new row, an upsert clause for the constraint skips it or updates
   the row in the way instead. A row id conflict that the table itself resolves by `REPLACE` is
   settled after the indexes;
6. foreign keys: a child row whose parent key is missing counts as a violation, and a parent
   row whose key child rows refer to counts them, until a change settles them; the violations
   of immediate keys must be gone when the statement ends, those of deferred keys when the
   transaction commits;
7. the row is written, the foreign key actions of a changed or deleted parent row run
   (`CASCADE`, `SET NULL`, `SET DEFAULT`, `RESTRICT`), and the `AFTER` triggers fire.

Triggers fire for each row, with the row's old and new values as the frames `OLD` and `NEW`.
A trigger does not fire itself again unless recursive triggers are on; `RAISE(IGNORE)` ends the
current row's change without failing.

## Main definitions

* `Session` — the state a statement changes.
* `insertStatement`, `updateStatement`, `deleteStatement` — the statements, row by row.
* `insertOne`, `updateOne`, `deleteOne` — one row's change, with every constraint.
-/

namespace Schedule.Sql

/-- The state statements change: the objects and settings, the statement's parameters, the
violations of immediate and deferred foreign keys counted so far, what `last_insert_rowid`,
`changes` and `total_changes` report, and the triggers running, the innermost first. -/
structure Session where
  objects : Objects
  settings : Settings := {}
  params : List SqlValue := []
  immediate : Int := 0
  deferred : Int := 0
  lastInsertRowid : Int := 0
  changes : Int := 0
  totalChanges : Int := 0
  running : List (Bool × String) := []
  deriving Inhabited

namespace Session

/-- The environment expressions of a statement are evaluated in. -/
def env (s : Session) (ctes : List WithBlock) (scopes : List Scope) : Env :=
  { objects := s.objects, settings := s.settings, params := s.params, ctes, scopes,
    lastInsertRowid := s.lastInsertRowid, changes := s.changes, totalChanges := s.totalChanges }

/-- The current state of a table. -/
def current (s : Session) (t : Table) : Table :=
  (s.objects.table? (some t.temporary) t.name).getD t

/-- The session with a table replaced. -/
def setTable (s : Session) (t : Table) : Session := { s with objects := s.objects.setTable t }

/-- Adds to the violations of foreign keys, deferred or immediate. A count is lowered only while
it is not zero. -/
def countViolations (s : Session) (deferred : Bool) (n : Int) : Session :=
  if deferred then
    if n < 0 && s.deferred == 0 then s else { s with deferred := s.deferred + n }
  else
    if n < 0 && s.immediate == 0 then s else { s with immediate := s.immediate + n }

/-- The session after a statement that changed `count` rows. -/
def counted (s : Session) (count : Int) : Session :=
  { s with changes := count, totalChanges := s.totalChanges + count }

end Session

/-- Whether a trigger's event is the statement's: an update trigger limited to columns fires
when the update sets one of them. -/
def TriggerEvent.fires : TriggerEvent → TriggerEvent → Bool
  | .insert, .insert => true
  | .delete, .delete => true
  | .update cols, .update updated => cols.isEmpty || cols.any fun c => updated.any (sameName c ·)
  | _, _ => false

/-- The triggers that fire on a table or view for an event at a time, in the order they run:
temporary triggers on an object of the main schema first, in the order they were made, then
the object's own triggers, the newest first. -/
def Objects.firing (o : Objects) (name : String) (temporary : Bool) (event : TriggerEvent)
    (time : TriggerTime) : List Trigger :=
  let on := o.triggers.filter fun tr =>
    sameName tr.table name && tr.onTemporary == temporary && tr.time == time &&
      tr.event.fires event
  on.filter (fun tr => tr.temporary != tr.onTemporary) ++
    (on.filter fun tr => tr.temporary == tr.onTemporary).reverse

/-- The foreign keys that refer to a table, each with its child table. -/
def Objects.referencing (o : Objects) (t : Table) : List (Table × ForeignKey) :=
  (o.tables.filter (·.temporary == t.temporary)).flatMap fun c =>
    (c.foreignKeys.filter fun fk => sameName fk.parent t.name).map (c, ·)

/-- The frames `NEW` and `OLD` of a trigger on an object of the given shape, each a row's values
and row id. -/
def triggerScope (shape : Frame) (old new : Option (List SqlValue × SqlValue)) : Scope :=
  let frame (label : String) (row : List SqlValue × SqlValue) : Frame :=
    { shape with label, qualifiedOnly := true, schema := none, values := row.1,
                 rowidValue := row.2, rowid := true
                 fields := shape.fields.map fun f => { f with affinity := none } }
  { frames := (new.map (frame "new")).toList ++ (old.map (frame "old")).toList }

/-- A foreign key with the parent key it refers to: for each of its columns, the column's place
in the child table, the place of the parent column (none for the parent's row id) and the
collation the parent key compares with. -/
structure Link where
  child : Table
  key : ForeignKey
  pairs : List (Nat × Option Nat × Collation)

/-- The failure of a foreign key whose parent columns are not a key of the parent. -/
def mismatch (child parent : String) : SqlError :=
  SqlError.plain ("foreign key mismatch - \"" ++ child ++ "\" referencing \"" ++ parent ++ "\"")

/-- The parent key a foreign key refers to: the parent's row id, when the key is one column and
names the parent's integer primary key or none; else a unique index of the parent, not partial,
whose columns are the key's (the primary key when the key names none), each under its column's
own collation. -/
def locateParentKey (o : Objects) (child parent : Table) (fk : ForeignKey) : Except SqlError Link := do
  let childPos ← fk.columns.mapM fun n => match child.columnIndex? n with
    | some i => .ok i
    | none => .error (mismatch child.name fk.parent)
  let viaRowid := childPos.length == 1 && match parent.rowidColumn with
    | some ipk => match fk.parentColumns with
      | [] => true
      | [n] => sameName n (parent.columns.getD ipk default).name
      | _ => false
    | none => false
  if viaRowid then
    return { child, key := fk, pairs := childPos.map fun c => (c, none, .binary) }
  let usable := (o.indexesOf parent).filter fun i =>
    i.unique && i.filter.isNone && i.columns.length == childPos.length
  let columnOf (ic : IndexedColumn) : Option (Nat × Collation) := do
    let n ← ic.name?
    let p ← parent.columnIndex? n
    let col := parent.columns.getD p default
    if Index.collationAt parent ic != col.collation then none else some (p, col.collation)
  let found := usable.findSome? fun i =>
    if fk.parentColumns.isEmpty then
      if i.primary then
        (childPos.zip i.columns).mapM fun (c, ic) => do
          let (p, coll) ← columnOf ic
          pure (c, some p, coll)
      else none
    else
      i.columns.mapM fun ic => do
        let (p, coll) ← columnOf ic
        let j ← fk.parentColumns.findIdx? (sameName · (parent.columns.getD p default).name)
        pure (childPos.getD j 0, some p, coll)
  match found with
  | some pairs => pure { child, key := fk, pairs }
  | none => .error (mismatch child.name fk.parent)

namespace Link

/-- The value of a parent row at a column of the parent key. -/
def parentValue (values : List SqlValue) (rowid : Int) : Option Nat → SqlValue
  | some p => values.getD p .null
  | none => .integer rowid

/-- Whether the parent table holds the key a child row refers to. The child's values are read
with the parent columns' affinities; against a row id they must be integers. -/
def parentHas (l : Link) (parent : Table) (childValues : List SqlValue) : Bool :=
  match l.pairs with
  | [(c, none, _)] =>
    match (childValues.getD c .null).withAffinity .numeric with
    | .integer n => (parent.row? n).isSome
    | _ => false
  | pairs => parent.rows.any fun r => pairs.all fun (c, p, coll) =>
    match p with
    | some p =>
      let aff := (parent.columns.getD p default).affinity
      ((childValues.getD c .null).withAffinity aff).compareWith coll (r.values.getD p .null) == .eq
    | none => false

/-- Whether a child row refers to a parent row: none of its key columns null, each equal to the
parent's value, compared as the parent column against the child column. -/
def refersTo (l : Link) (parent : Table) (values : List SqlValue) (rowid : Int) (child : StoredRow) :
    Bool :=
  l.pairs.all fun (c, p, _) =>
    let cv := child.values.getD c .null
    let ccol := l.child.columns.getD c default
    let po : Operand := match p with
      | some p =>
        let col := parent.columns.getD p default
        { value := values.getD p .null, affinity := some col.affinity,
          collation := some col.collation, explicit := true }
      | none => { value := .integer rowid, affinity := some .integer }
    !cv.isNull && compareOperands po
      { value := cv, affinity := some ccol.affinity, collation := some ccol.collation } == some .eq

/-- Whether an action of a foreign key reaches a child row when its parent row goes away or
changes: the old parent value, read without affinity but under the parent column's collation,
equals the child's value under the child column's affinity. -/
def actsOn (l : Link) (parent : Table) (values : List SqlValue) (rowid : Int) (child : StoredRow) :
    Bool :=
  l.pairs.all fun (c, p, _) =>
    let ccol := l.child.columns.getD c default
    let po : Operand := match p with
      | some p => { value := values.getD p .null, collation := some (parent.columns.getD p default).collation }
      | none => { value := .integer rowid, affinity := some .integer }
    compareOperands po { value := child.values.getD c .null, affinity := some ccol.affinity,
                         collation := some ccol.collation } == some .eq

/-- Whether a row of a table that refers to itself holds, as parent, the key it refers to. -/
def refersToItself (l : Link) (parent : Table) (values : List SqlValue) (rowid : Int) : Bool :=
  l.pairs.all fun (c, p, coll) =>
    let cv := values.getD c .null
    match p with
    | some p =>
      let aff := (parent.columns.getD p default).affinity
      (cv.withAffinity aff).compareWith coll (values.getD p .null) == .eq
    | none => match cv.withAffinity .numeric with
      | .integer n => n == rowid
      | _ => false

end Link

/-- The parent table of a foreign key of a child table, or the failure naming it. -/
def parentOf (o : Objects) (child : Table) (fk : ForeignKey) : Except SqlError Table :=
  match o.table? (some child.temporary) fk.parent with
  | some p => .ok p
  | none => .error (SqlError.plain ("no such table: " ++ (if child.temporary then "temp." else "main.") ++
      fk.parent))

/-- The foreign key checks of a row as a child: for each key of its table (those `only`
accepts) whose columns hold no null, one violation more (`delta = 1`, a new row) or fewer
(`delta = -1`, a row going away) when the parent key is missing. With `raiseNow` a violation of
an immediate key fails at once. -/
def childChecks (s : Session) (t : Table) (values : List SqlValue) (rowid : Int) (delta : Int)
    (only : ForeignKey → Bool) (raiseNow : Bool) : Except SqlError Session :=
  if !s.settings.foreignKeys then .ok s
  else
    t.foreignKeys.reverse.foldlM (fun s fk => do
      if !only fk then return s
      let parent ← parentOf s.objects t fk
      let link ← locateParentKey s.objects t parent fk
      if link.pairs.any fun (c, _, _) => (values.getD c .null).isNull then return s
      let selfHeld := delta > 0 && parent.temporary == t.temporary && sameName parent.name t.name &&
        link.refersToItself parent values rowid
      if link.parentHas parent values || selfHeld then return s
      if raiseNow && delta > 0 && !fk.deferred then
        throw (SqlError.plain "FOREIGN KEY constraint failed")
      pure (s.countViolations fk.deferred delta)) s

/-- The foreign key checks of a row as a parent: for each key that refers to its table (those
`only` accepts), the child rows that refer to the row count as violations (`delta = 1`, the row
goes away) or stop counting (`delta = -1`, a new row). `skipImmediate` leaves immediate keys
alone, as for a single row inserted at the top of a statement. -/
def parentChecks (s : Session) (t : Table) (values : List SqlValue) (rowid : Int) (delta : Int)
    (only : ForeignKey → Bool) (skipImmediate : Bool) : Except SqlError Session :=
  if !s.settings.foreignKeys then .ok s
  else
    (s.objects.referencing t).foldlM (fun s (c, fk) => do
      if !only fk || (skipImmediate && !fk.deferred) then return s
      let child := s.current c
      let link ← locateParentKey s.objects child t fk
      let same := child.temporary == t.temporary && sameName child.name t.name
      let n := (child.rows.filter fun r =>
        link.refersTo t values rowid r && !(delta > 0 && same && r.rowid == rowid)).length
      pure (if n == 0 then s else s.countViolations fk.deferred (delta * n))) s

/-- The value of a table's column default, with the column's affinity. -/
def defaultValue (fuel : Nat) (base : Env) (c : StoredColumn) : Except SqlError SqlValue :=
  match c.default with
  | some e => do
    let o ← evalExpr fuel { base with scopes := [], group := none } e
    pure (o.value.withAffinity c.affinity)
  | none => .ok .null

/-- The row with its generated columns computed, each from the row's values, as often as there
are generated columns so that one may read another. -/
def computeGenerated (fuel : Nat) (base : Env) (t : Table) (values : List SqlValue)
    (rowid : SqlValue) : Except SqlError (List SqlValue) :=
  let generated := t.columns.zipIdx.filterMap fun (c, i) => c.generated.map fun (e, _) => (i, e, c)
  if generated.isEmpty then .ok values
  else
    (List.range generated.length).foldlM (fun values _ =>
      generated.foldlM (fun values (i, e, c) => do
        let o ← evalExpr fuel (rowEnv base t values rowid) e
        pure (values.set i (o.value.withAffinity c.affinity))) values) values

/-- The `NOT NULL` constraints of the columns `changed` accepts: the row, with defaults for
nulls the action replaces; none when a null skips the row. Ordinary columns are checked first,
then generated ones, which cannot take a default. -/
def checkNotNull (fuel : Nat) (base : Env) (t : Table) (override : Option Conflict)
    (changed : Nat → Bool) (values : List SqlValue) (rowid : SqlValue) :
    Except SqlError (Option (List SqlValue)) := do
  let failure (c : StoredColumn) : SqlError :=
    SqlError.plain ("NOT NULL constraint failed: " ++ t.name ++ "." ++ c.name)
  let indexed := t.columns.zipIdx.filter fun (c, i) =>
    c.notNull && changed i && t.rowidColumn != some i
  let pass (generated : Bool) (values : Option (List SqlValue)) :
      Except SqlError (Option (List SqlValue)) :=
    (indexed.filter fun (c, _) => c.generated.isSome == generated).foldlM (fun values (c, i) => do
      let some values := values | return none
      if !(values.getD i .null).isNull then return some values
      let action := override.getD (c.notNullConflict.getD .abort)
      let action := if action == .replace && (generated || c.default.isNone) then .abort else action
      match action with
      | .ignore => pure none
      | .replace =>
        let v ← defaultValue fuel base c
        if v.isNull then throw (failure c) else pure (some (values.set i v))
      | _ => throw (failure c)) values
  let some values ← pass false (some values) | return none
  let values ← computeGenerated fuel base t values rowid
  pass true (some values)

/-- The name of a value's type, as the failures of strict tables give it. -/
def SqlValue.typeShown : SqlValue → String
  | .null => "NULL"
  | .integer _ => "INT"
  | .real _ => "REAL"
  | .text _ => "TEXT"
  | .blob _ => "BLOB"

/-- The values of a row of a strict table, each of its column's declared type: an integer in a
`REAL` column becomes a double, a value of another type fails, and `ANY` takes every value. -/
def strictValues (t : Table) (values : List SqlValue) : Except SqlError (List SqlValue) :=
  if !t.strict then .ok values
  else
    (t.columns.zip values).zipIdx.mapM fun ((c, v), i) =>
      let ty := c.typeName.map Char.toUpper
      let fits : Option SqlValue := match ty, v with
        | _, .null => some v
        | "INT", .integer _ | "INTEGER", .integer _ | "REAL", .real _ | "TEXT", .text _
        | "BLOB", .blob _ | "ANY", _ => some v
        | "REAL", .integer n => some (.real (Float.ofInt n))
        | _, _ => none
      if t.rowidColumn == some i then .ok v
      else match fits with
        | some v => .ok v
        | none => .error (SqlError.plain ("cannot store " ++ v.typeShown ++ " value in " ++ ty ++
            " column " ++ t.name ++ "." ++ c.name))

/-- The column names an expression reads. -/
def Expr.readNames (e : Expr) : List String := e.references.map fun (_, n, _) => n

/-- The `CHECK` constraints of a row, those that read a changed column when `changedNames` is
given: whether the row passes; false when a failed check skips it. -/
def checkChecks (fuel : Nat) (base : Env) (t : Table) (override : Option Conflict)
    (changedNames : Option (List String)) (values : List SqlValue) (rowid : SqlValue) :
    Except SqlError Bool :=
  if base.settings.ignoreCheckConstraints then .ok true
  else
    t.checks.foldlM (fun ok check => do
      if !ok then return false
      let reads := match changedNames with
        | some names => check.expr.readNames.any fun n => names.any (sameName n ·)
        | none => true
      if !reads then return true
      let passes ← evalTest fuel (rowEnv base t values rowid) check.expr true true
      if passes then return true
      match override.getD .abort with
      | .ignore => pure false
      | _ => throw (SqlError.plain ("CHECK constraint failed: " ++ check.name.getD check.text))) true

/-- A uniqueness constraint a row is checked against: the row id or a unique index. -/
inductive UniqueCheck where
  | rowid
  | index (i : Index)
  deriving Inhabited

/-- Whether two uniqueness constraints are the same. -/
def UniqueCheck.same : UniqueCheck → UniqueCheck → Bool
  | .rowid, .rowid => true
  | .index a, .index b => a.name == b.name && a.temporary == b.temporary
  | _, _ => false

/-- The constraint an upsert clause's target names: the row id when it is the integer primary
key or `rowid`, else the first unique index whose columns are the target's, in any order and
whatever their collations, with the same condition as a partial index. -/
def upsertTarget (t : Table) (indexes : List Index) (u : Upsert) : Option UniqueCheck :=
  match u.target with
  | none => none
  | some (cols, _) =>
    let names := cols.map fun c => c.name?
    let isRowidName' (n : String) : Bool :=
      match t.rowidColumn with
      | some i => sameName n (t.columns.getD i default).name || isRowidName n
      | none => isRowidName n
    match names with
    | [some n] =>
      if t.hasRowid && isRowidName' n && (t.columnIndex? n == t.rowidColumn || t.columnIndex? n == none)
      then some .rowid
      else pickIndex names
    | _ => pickIndex names
where
  /-- The first unique index whose columns are the named ones. -/
  pickIndex (names : List (Option String)) : Option UniqueCheck :=
    (indexes.find? fun i =>
      i.unique && i.columns.length == names.length &&
        (i.filter.isSome == (match u.target with
          | some (_, w) => w.isSome
          | none => false)) &&
        i.columns.all fun ic => match ic.name? with
          | some n => names.any (· == some n) || names.any fun m => m.any (sameName n ·)
          | none => false).map .index

/-- What a conflict on a uniqueness constraint does: a conflict action, or an upsert's update
with its condition. -/
inductive OnConflict where
  | act (c : Conflict)
  | update (sets : List Assignment) (filter : Option Expr)
  deriving Inhabited

/-- The action on a conflict with a constraint: that of the first upsert clause for it or for
every constraint, else the statement's, else the constraint's own, else `ABORT`. -/
def conflictAction (t : Table) (indexes : List Index) (override : Option Conflict)
    (upserts : List Upsert) (check : UniqueCheck) : OnConflict :=
  let clause := upserts.find? fun u => match u.target with
    | none => true
    | some _ => (upsertTarget t indexes u).any (·.same check)
  match clause with
  | some u => match u.action with
    | .nothing => .act .ignore
    | .update sets filter => .update sets filter
  | none =>
    let own := match check with
      | .rowid => t.rowidConflict
      | .index i => i.conflict
    .act (override.getD (own.getD .abort))

/-- Whether an insert may delete rows to make room for its own: some uniqueness constraint it
checks settles a conflict by `REPLACE`. The row id is checked only when the statement gives it,
through the integer primary key or a name of the row id. -/
def replaces (t : Table) (indexes : List Index) (override : Option Conflict) (upserts : List Upsert)
    (columns : Option (List String)) : Bool :=
  let rowidGiven := match columns with
    | none => t.rowidColumn.isSome
    | some names => names.any fun n =>
      (t.columnIndex? n).isSome && t.columnIndex? n == t.rowidColumn ||
        t.hasRowid && (t.columnIndex? n).isNone && isRowidName n
  let checks := (if rowidGiven then [UniqueCheck.rowid] else []) ++
    (indexes.filter (·.unique)).map .index
  checks.any fun c => conflictAction t indexes override upserts c matches .act .replace

/-- The message of a row that breaks a uniqueness constraint. -/
def uniqueFailure (t : Table) : UniqueCheck → SqlError
  | .rowid =>
    let col := match t.rowidColumn with
      | some i => (t.columns.getD i default).name
      | none => "rowid"
    SqlError.plain ("UNIQUE constraint failed: " ++ t.name ++ "." ++ col)
  | .index i =>
    let names := i.columns.map (·.name?)
    if names.any Option.isNone then SqlError.plain ("UNIQUE constraint failed: index '" ++ i.name ++ "'")
    else
      SqlError.plain ("UNIQUE constraint failed: " ++ ", ".intercalate (names.filterMap fun n =>
        n.map fun n =>
          t.name ++ "." ++ ((t.columnIndex? n).map (fun p => (t.columns.getD p default).name)).getD n))

/-- The uniqueness constraints of a row in the order they are checked: those upsert clauses name
first, in the clauses' order; then the row id, unless the table's own `REPLACE` resolves it and
there are indexes, when it comes last; then the indexes. -/
def uniqueOrder (t : Table) (indexes : List Index) (override : Option Conflict)
    (upserts : List Upsert) : List UniqueCheck :=
  let targets := (upserts.filterMap (upsertTarget t indexes)).foldl (fun acc c =>
    if acc.any (·.same c) then acc else acc ++ [c]) []
  let rowidLast := t.rowidConflict == some .replace && override != some .replace &&
    !indexes.isEmpty && targets.isEmpty
  let rowid := if t.hasRowid then [UniqueCheck.rowid] else []
  let rest := (if rowidLast then [] else rowid) ++ (indexes.filter (·.unique)).map .index
  let rest := rest.filter fun c => !targets.any (·.same c)
  targets ++ rest ++ (if rowidLast then rowid else [])

/-- How the uniqueness checks of a row came out: the row may be written, is skipped, or was
settled by an upsert's update (with the row as updated, if it was). -/
inductive Settled where
  | clear
  | skipped
  | upserted (row : Option StoredRow)
  deriving Inhabited

/-- The columns an index reads: of its key, of its expressions and of its condition. -/
def Index.readNames (i : Index) : List String :=
  i.columns.flatMap (·.expr.readNames) ++ (i.filter.map Expr.readNames).getD []

/-- A view's frame, for its triggers and for a change through it. -/
def viewShape (fuel : Nat) (env : Env) (v : View) : Frame :=
  (namedFrames fuel env (some (if v.temporary then "temp" else "main")) v.name none).headD
    { label := v.name, fields := [] }

/-- The conjuncts of a filter that read no column of the statement's own scope, which are tested
once before any row, and the rest. -/
def splitFilter (fuel : Nat) (env : Env) (filter : Option Expr) : List Expr × List Expr :=
  let conds := (filter.map (Expr.conjuncts 1000)).getD []
  conds.partition fun c => !readsScope fuel env 0 c

mutual

/-- Inserts one row into a table: `values` has a value for every column (generated ones are
computed), `rowidIn` is the row id given, null when none is. Gives the row as written, or none
when it was skipped or settled by an upsert; with `RETURNING`, the row an upsert updated. -/
def insertOne (fuel : Nat) (s : Session) (t0 : Table) (label : String) (override : Option Conflict)
    (orconf : Option Conflict) (upserts : List Upsert) (single : Bool) (values0 : List SqlValue)
    (rowidIn : SqlValue) : Except SqlError (Session × Option StoredRow × Option StoredRow) :=
  match fuel with
  | 0 => .error (SqlError.plain "too many levels of trigger recursion")
  | fuel + 1 => do
    let t := s.current t0
    let base := s.env [] []
    let values := (t.columns.zip values0).map fun (c, v) => v.withAffinity c.affinity
    let given ← if rowidIn.isNull then pure none
      else match rowidIn.withAffinity .numeric with
        | .integer n => pure (some n)
        | _ => throw (SqlError.plain "datatype mismatch")
    let withRowid (values : List SqlValue) (id : Option Int) : List SqlValue :=
      match t.rowidColumn with
      | some i => values.set i (match id with
        | some n => .integer n
        | none => .null)
      | none => values
    let values := withRowid values given
    let values ← computeGenerated fuel base t values (.integer (given.getD (-1)))
    let before := s.objects.firing t.name t.temporary .insert .before
    let (s, skip) ← if before.isEmpty then pure (s, false)
      else (fireTriggers fuel s before
        (triggerScope (t.frame t.name) none (some (values, .integer (given.getD (-1))))) orconf)
    if skip then return (s, none, none)
    let t := s.current t
    let rowid ← match given with
      | some n => pure n
      | none =>
        if t.withoutRowid then pure ((t.maxRowid.getD 0) + 1) else t.newRowid
    let t := if t.autoincrement then { t with sequence := max t.sequence rowid } else t
    let s := s.setTable t
    let base := s.env [] []
    let values := withRowid values (some rowid)
    let values ← computeGenerated fuel base t values (.integer rowid)
    let some values ← checkNotNull fuel base t override (fun _ => true) values (.integer rowid)
      | return (s, none, none)
    let values ← strictValues t values
    if !(← checkChecks fuel base t override none values (.integer rowid)) then
      return (s, none, none)
    let indexes := s.objects.indexesOf t
    let order := uniqueOrder t indexes override upserts
    let (s, settled) ← uniqueness fuel s t label override orconf upserts indexes order values rowid
      none (fun _ => true)
    match settled with
    | .skipped => return (s, none, none)
    | .upserted row => return (s, none, row)
    | .clear => pure ()
    let t := s.current t
    let raiseNow := single && s.running.isEmpty
    let s ← childChecks s t values rowid 1 (fun _ => true) raiseNow
    let s ← parentChecks s t values rowid (-1) (fun _ => true) (single && s.running.isEmpty)
    let t := s.current t
    let row : StoredRow := { rowid, values }
    let s := s.setTable (t.insertRow row)
    let s := if t.hasRowid then { s with lastInsertRowid := rowid } else s
    let after := s.objects.firing t.name t.temporary .insert .after
    let (s, _) ← if after.isEmpty then pure (s, false)
      else (fireTriggers fuel s after (triggerScope (t.frame t.name) none (some (values, .integer rowid)))
        orconf)
    pure (s, some row, some row)

/-- The uniqueness checks of a row, in order: each conflict is resolved by its action. `exclude`
is the row being updated, which never conflicts with itself; `affected` picks the indexes an
update can change. -/
def uniqueness (fuel : Nat) (s : Session) (t : Table) (label : String) (override : Option Conflict)
    (orconf : Option Conflict) (upserts : List Upsert) (indexes : List Index)
    (order : List UniqueCheck) (values : List SqlValue) (rowid : Int) (exclude : Option Int)
    (affected : Index → Bool) : Except SqlError (Session × Settled) :=
  match fuel with
  | 0 => .error (SqlError.plain "too many levels of trigger recursion")
  | fuel + 1 =>
    match order with
    | [] => .ok (s, .clear)
    | check :: rest => do
      let cur := s.current t
      let base := s.env [] []
      let other ← match check with
        | .rowid =>
          if exclude == some rowid then pure none else pure (cur.row? rowid)
        | .index i =>
          if !affected i then pure none
          else do
            match ← rowKey fuel base cur i values (.integer rowid) with
            | some key => findConflict fuel base cur i key exclude
            | none => pure none
      match other with
      | none => uniqueness fuel s t label override orconf upserts indexes rest values rowid exclude affected
      | some other =>
        match conflictAction cur indexes override upserts check with
        | .act .ignore => pure (s, .skipped)
        | .act .replace =>
          let s ← deleteOne fuel s cur other orconf true
          uniqueness fuel s t label override orconf upserts indexes rest values rowid exclude affected
        | .act _ => throw (uniqueFailure cur check)
        | .update sets filter => do
          let excluded : Frame :=
            { (cur.frame "excluded") with qualifiedOnly := true, schema := none, values,
                                          rowidValue := .integer rowid
                                          fields := (cur.frame "excluded").fields.map
                                            fun f => { f with affinity := none } }
          let target := cur.rowFrame label other
          let env := s.env [] [{ frames := [target, excluded] }]
          let go ← match filter with
            | some f => evalTest fuel env f true false
            | none => pure true
          if !go then return (s, .upserted none)
          let (assigned, newRowid, names) ← assignedValues fuel env cur sets
          let (s, row) ← updateOne fuel s cur label none orconf other assigned newRowid names
          pure (s, .upserted row)

/-- The values an update's assignments give, evaluated against the old row: the columns with
their new values (a later assignment of a column wins), the new row id if one is set, and the
names set. -/
def assignedValues (fuel : Nat) (env : Env) (t : Table) (sets : List Assignment) :
    Except SqlError (List (Nat × SqlValue) × Option SqlValue × List String) :=
  match fuel with
  | 0 => .error (SqlError.plain "expression too deep")
  | fuel + 1 =>
    sets.foldlM (fun (acc : List (Nat × SqlValue) × Option SqlValue × List String) a => do
      let vs ← if a.columns.length == 1 then do
          let o ← evalExpr fuel env a.value
          pure [o.value]
        else (·.map (·.value)) <$> evalVector fuel env a.value
      pure ((a.columns.zip vs).foldl (fun (assigned, rowid, names) (n, v) =>
        match t.columnIndex? n with
        | some i =>
          ((assigned.filter (·.1 != i)) ++ [(i, v)],
            (if t.rowidColumn == some i then some v else rowid), names ++ [n])
        | none => (assigned, (if isRowidName n then some v else rowid), names ++ [n])) acc))
      ([], none, [])

/-- Updates one row: `assigned` gives the new values of the columns set, `newRowidIn` the new
row id if it is set. Gives the row as written, or none when it was skipped. -/
def updateOne (fuel : Nat) (s : Session) (t0 : Table) (label : String) (override : Option Conflict)
    (orconf : Option Conflict) (old : StoredRow) (assigned : List (Nat × SqlValue))
    (newRowidIn : Option SqlValue) (names : List String) : Except SqlError (Session × Option StoredRow) :=
  match fuel with
  | 0 => .error (SqlError.plain "too many levels of trigger recursion")
  | fuel + 1 => do
    let t := s.current t0
    let base := s.env [] []
    let isAssigned (i : Nat) : Bool := assigned.any (·.1 == i)
    let setValues (from_ : List SqlValue) : List SqlValue :=
      (t.columns.zipIdx.zip from_).map fun ((c, i), v) =>
        match assigned.find? (·.1 == i) with
        | some (_, nv) => nv.withAffinity c.affinity
        | none => v
    let rowid ← match newRowidIn with
      | some v => match v.withAffinity .numeric with
        | .integer n => pure n
        | _ => throw (SqlError.plain "datatype mismatch")
      | none => pure old.rowid
    let withRowid (values : List SqlValue) : List SqlValue :=
      match t.rowidColumn with
      | some i => values.set i (.integer rowid)
      | none => values
    let values := withRowid (setValues old.values)
    let values ← computeGenerated fuel base t values (.integer rowid)
    let event := TriggerEvent.update names
    let before := s.objects.firing t.name t.temporary event .before
    let oldRow := (old.values, SqlValue.integer old.rowid)
    let (s, skip) ← if before.isEmpty then pure (s, false)
      else (fireTriggers fuel s before (triggerScope (t.frame t.name) (some oldRow)
        (some (values, .integer rowid))) orconf)
    if skip then return (s, none)
    let t := s.current t
    let some cur := t.row? old.rowid | return (s, none)
    let values := if before.isEmpty then values
      else withRowid ((t.columns.zipIdx.zip (values.zip cur.values)).map fun ((_, i), (nv, cv)) =>
        if isAssigned i then nv else cv)
    let base := s.env [] []
    let values ← computeGenerated fuel base t values (.integer rowid)
    let rowidChanged := rowid != old.rowid
    let changedNames := names ++ (if rowidChanged then
        match t.rowidColumn with
        | some i => [(t.columns.getD i default).name]
        | none => ["rowid"]
      else [])
    let changed (i : Nat) : Bool :=
      isAssigned i || (t.columns.getD i default).generated.isSome
    let some values ← checkNotNull fuel base t override changed values (.integer rowid)
      | return (s, none)
    let values ← strictValues t values
    if !(← checkChecks fuel base t override (some changedNames) values (.integer rowid)) then
      return (s, none)
    let indexes := s.objects.indexesOf t
    let affected (i : Index) : Bool :=
      rowidChanged || i.readNames.any fun n => changedNames.any (sameName n ·) ||
        t.columns.zipIdx.any fun (c, j) => c.generated.isSome && sameName c.name n && changed j
    let order := uniqueOrder t indexes override []
    let (s, settled) ← uniqueness fuel s t label override orconf [] indexes order values rowid
      (some old.rowid) affected
    match settled with
    | .skipped | .upserted _ => return (s, none)
    | .clear => pure ()
    let t := s.current t
    let childModified (fk : ForeignKey) : Bool :=
      sameName fk.parent t.name || fk.columns.any fun n => changedNames.any (sameName n ·)
    let parentModified (fk : ForeignKey) : Bool :=
      if fk.parentColumns.isEmpty then
        t.columns.zipIdx.any fun (c, j) =>
          (c.inPrimaryKey || t.rowidColumn == some j) &&
            (isAssigned j || (rowidChanged && t.rowidColumn == some j))
      else fk.parentColumns.any fun n => changedNames.any (sameName n ·)
    let s ← childChecks s t old.values old.rowid (-1) childModified false
    let s ← parentChecks s t old.values old.rowid 1 parentModified false
    let t := s.current t
    let s := s.setTable (t.removeRow old.rowid)
    let t := s.current t
    let s ← childChecks s t values rowid 1 childModified false
    let s ← parentChecks s t values rowid (-1) parentModified false
    let t := s.current t
    let row : StoredRow := { rowid, values }
    let s := s.setTable (t.insertRow row)
    let s ← parentActions fuel s t old (some row) orconf
    let t := s.current t
    let after := s.objects.firing t.name t.temporary event .after
    let (s, _) ← if after.isEmpty then pure (s, false)
      else (fireTriggers fuel s after (triggerScope (t.frame t.name) (some oldRow)
        (some (values, .integer rowid))) orconf)
    pure (s, some row)

/-- Deletes one row, with its triggers (for a row a `REPLACE` removes, only when recursive
triggers are on), its foreign key checks and actions. -/
def deleteOne (fuel : Nat) (s : Session) (t0 : Table) (row : StoredRow) (orconf : Option Conflict)
    (replaced : Bool) : Except SqlError Session :=
  match fuel with
  | 0 => .error (SqlError.plain "too many levels of trigger recursion")
  | fuel + 1 => do
    let t := s.current t0
    let withTriggers := !replaced || s.settings.recursiveTriggers
    let oldRow := (row.values, SqlValue.integer row.rowid)
    let before := if withTriggers then s.objects.firing t.name t.temporary .delete .before else []
    let (s, skip) ← if before.isEmpty then pure (s, false)
      else fireTriggers fuel s before (triggerScope (t.frame t.name) (some oldRow) none) orconf
    if skip then return s
    let t := s.current t
    let some cur := t.row? row.rowid | return s
    let s ← childChecks s t cur.values cur.rowid (-1) (fun _ => true) false
    let s ← parentChecks s t cur.values cur.rowid 1 (fun _ => true) false
    let t := s.current t
    let s := s.setTable (t.removeRow cur.rowid)
    let s ← parentActions fuel s t cur none orconf
    let t := s.current t
    let after := if withTriggers then s.objects.firing t.name t.temporary .delete .after else []
    let (s, _) ← if after.isEmpty then pure (s, false)
      else (fireTriggers fuel s after (triggerScope (t.frame t.name) (some (cur.values, .integer cur.rowid))
        none) orconf)
    pure s

/-- The foreign key actions on the child rows of a parent row that was deleted (`new` none) or
updated with a changed key. -/
def parentActions (fuel : Nat) (s : Session) (t : Table) (old : StoredRow) (new : Option StoredRow)
    (orconf : Option Conflict) : Except SqlError Session :=
  match fuel with
  | 0 => .error (SqlError.plain "too many levels of trigger recursion")
  | fuel + 1 =>
    if !s.settings.foreignKeys then .ok s
    else
      (s.objects.referencing t).foldlM (fun s (c, fk) => do
        let action := if new.isSome then fk.onUpdate else fk.onDelete
        if action == .noAction then return s
        let child := s.current c
        let parent := s.current t
        let link ← locateParentKey s.objects child parent fk
        let unchanged := match new with
          | some n => link.pairs.all fun (_, p, _) =>
            sameForIs (.plain (Link.parentValue old.values old.rowid p))
              (.plain (Link.parentValue n.values n.rowid p))
          | none => false
        if unchanged then return s
        let hits := child.rows.filter (link.actsOn parent old.values old.rowid)
        match action with
        | .restrict =>
          if (child.rows.filter (link.refersTo parent old.values old.rowid)).isEmpty then pure s
          else throw (SqlError.plain "FOREIGN KEY constraint failed")
        | .cascade =>
          match new with
          | none => hits.foldlM (fun s r => deleteOne fuel s child r orconf false) s
          | some n =>
            hits.foldlM (fun s r => do
              let cur := s.current child
              let some r := cur.row? r.rowid | return s
              let assigned := link.pairs.map fun (cp, p, _) => (cp, Link.parentValue n.values n.rowid p)
              let names := link.pairs.map fun (cp, _, _) => (child.columns.getD cp default).name
              let (s, _) ← updateOne fuel s cur cur.name none orconf r assigned none names
              pure s) s
        | .setNull | .setDefault =>
          hits.foldlM (fun s r => do
            let cur := s.current child
            let some r := cur.row? r.rowid | return s
            let assigned ← link.pairs.mapM fun (cp, _, _) => do
              if action == .setNull then pure (cp, SqlValue.null)
              else do
                let v ← defaultValue fuel (s.env [] []) (cur.columns.getD cp default)
                pure (cp, v)
            let names := link.pairs.map fun (cp, _, _) => (child.columns.getD cp default).name
            let (s, _) ← updateOne fuel s cur cur.name none orconf r assigned none names
            pure s) s
        | .noAction => pure s) s

/-- Fires triggers for one row with its `NEW` and `OLD` frames: each whose condition holds runs
its statements. Gives whether `RAISE(IGNORE)` ended the row's change. -/
def fireTriggers (fuel : Nat) (s : Session) (triggers : List Trigger) (scope : Scope)
    (orconf : Option Conflict) : Except SqlError (Session × Bool) :=
  match fuel with
  | 0 => .error (SqlError.plain "too many levels of trigger recursion")
  | fuel + 1 =>
    match triggers with
    | [] => .ok (s, false)
    | tr :: rest => do
      let key := (tr.temporary, tr.name)
      if !s.settings.recursiveTriggers && s.running.contains key then
        return ← fireTriggers fuel s rest scope orconf
      if s.running.length ≥ 1000 then
        throw (SqlError.plain "too many levels of trigger recursion")
      let env := s.env [] [scope]
      let go := match tr.condition with
        | some c => evalTest fuel env c true false
        | none => .ok true
      match go with
      | .error e => if e.skipRow then return (s, true) else throw e
      | .ok false => fireTriggers fuel s rest scope orconf
      | .ok true =>
        let inner := { s with running := key :: s.running }
        let home := some tr.temporary
        let (done, skipped) ← tr.body.foldlM (fun (acc : Session × Bool) step =>
          if acc.2 then .ok acc
          else match runStep fuel acc.1 scope home orconf step with
            | .ok s => .ok (s, false)
            | .error e => if e.skipRow then .ok (acc.1, true) else .error e) (inner, false)
        let s := { done with running := s.running, lastInsertRowid := s.lastInsertRowid,
                             changes := s.changes }
        if skipped then return (s, true)
        fireTriggers fuel s rest scope orconf

/-- Runs one statement of a trigger's body with the trigger's frames in scope. -/
def runStep (fuel : Nat) (s : Session) (scope : Scope) (home : Option Bool)
    (orconf : Option Conflict) (step : Statement) : Except SqlError Session :=
  match fuel with
  | 0 => .error (SqlError.plain "too many levels of trigger recursion")
  | fuel + 1 =>
    match step with
    | .insert _ ctes table conflict columns source upserts returning =>
      insertStatement fuel s [scope] home orconf true ctes table conflict columns source upserts
        returning
    | .update _ ctes table conflict sets source filter returning =>
      updateStatement fuel s [scope] home orconf ctes table conflict sets source filter returning
    | .delete _ ctes table filter returning =>
      deleteStatement fuel s [scope] home orconf ctes table filter returning
    | .select q => do
      let r ← evalQuery fuel (s.env [] [scope]) q
      let _ ← r.rows.toExcept
      pure s
    | _ => .ok s

/-- Runs an insert: evaluates its rows, then inserts them one by one; into a view, fires its
`INSTEAD OF` triggers for each. -/
def insertStatement (fuel : Nat) (s : Session) (outer : List Scope) (home : Option Bool)
    (orconf : Option Conflict) (inTrigger : Bool) (ctes : List CommonTable) (target : TableName)
    (conflict : Conflict) (columns : Option (List String)) (source : InsertSource)
    (upserts : List Upsert) (returning : List Projection) : Except SqlError Session :=
  match fuel with
  | 0 => .error (SqlError.plain "too many levels of trigger recursion")
  | fuel + 1 => do
    let override := match orconf with
      | some c => some c
      | none => if conflict == .abort then none else some conflict
    let blocks := if ctes.isEmpty then [] else [{ tables := ctes : WithBlock }]
    let env := s.env blocks outer
    let rows : Partial (List SqlValue) ← match source with
      | .defaults => pure (Partial.ofList [[]])
      | .query q => do
        let r ← evalQuery fuel env q
        pure r.rows
    let single := !inTrigger && match source with
      | .defaults => true
      | .query (.mk _ [] (.single (.values [_])) [] none none) => true
      | _ => false
    match s.objects.table? home target.name with
    | some t =>
      let positions : List (Option Nat) := match columns with
        | none => ((List.range t.columns.length).filter fun i =>
            (t.columns.getD i default).generated.isNone).map some
        | some names => names.map t.columnIndex?
      let single := single && !replaces t (s.objects.indexesOf t) override upserts columns &&
        (s.objects.firing t.name t.temporary .insert .before).isEmpty &&
        (s.objects.firing t.name t.temporary .insert .after).isEmpty
      let label := target.label.getD t.name
      let (s, count) ← rows.items.foldlM (fun (s, count) row => do
        let valueFor (i : Nat) : Option SqlValue :=
          ((positions.zip row).find? (·.1 == some i)).map (·.2)
        let rowidIn := match t.rowidColumn with
          | some ipk => (valueFor ipk).getD .null
          | none => (((positions.zip row).reverse.find? (·.1.isNone)).map (·.2)).getD .null
        let values ← t.columns.zipIdx.mapM fun (c, i) =>
          if c.generated.isSome || t.rowidColumn == some i then pure SqlValue.null
          else match valueFor i with
            | some v => pure v
            | none => defaultValue fuel (s.env [] []) c
        let (s, inserted, shown) ← insertOne fuel s t label override orconf upserts single values rowidIn
        let s ← match shown with
          | some r => returnRow fuel s ((s.current t).rowFrame label r) returning
          | none => pure s
        pure (s, if inserted.isSome || shown.isSome then count + 1 else count)) (s, (0 : Int))
      match rows.failure with
      | some e => throw e
      | none => pure (s.counted count)
    | none =>
      match s.objects.view? home target.name with
      | some v => do
        let shape := viewShape fuel env v
        let triggers := s.objects.firing v.name v.temporary .insert .insteadOf
        let positions : List (Option Nat) := match columns with
          | none => (List.range shape.fields.length).map some
          | some names => names.map fun n => shape.fields.findIdx? (sameName ·.name n)
        let s ← rows.items.foldlM (fun s row => do
          let values := (List.range shape.fields.length).map fun i =>
            (((positions.zip row).find? (·.1 == some i)).map (·.2)).getD .null
          let (s, _) ← fireTriggers fuel s triggers (triggerScope shape none (some (values, .null)))
            orconf
          pure s) s
        match rows.failure with
        | some e => throw e
        | none => pure s
      | none => throw (SqlError.plain ("no such table: " ++ target.shown))

/-- Evaluates the `RETURNING` columns of a changed row, for their failures. -/
def returnRow (fuel : Nat) (s : Session) (frame : Frame) (returning : List Projection) :
    Except SqlError Session :=
  match fuel with
  | 0 => .error (SqlError.plain "expression too deep")
  | fuel + 1 =>
    if returning.isEmpty then .ok s
    else do
      let env := s.env [] [{ frames := [frame] }]
      let _ ← (expandProjections [frame] returning).mapM fun o => evalExpr fuel env o.expr
      pure s

/-- Runs an update: finds the rows its filter accepts, then updates them one by one, each
current row read again; through a view, fires its `INSTEAD OF` triggers for each. -/
def updateStatement (fuel : Nat) (s : Session) (outer : List Scope) (home : Option Bool)
    (orconf : Option Conflict) (ctes : List CommonTable) (target : TableName) (conflict : Conflict)
    (sets : List Assignment) (source : Option Source) (filter : Option Expr)
    (returning : List Projection) : Except SqlError Session :=
  match fuel with
  | 0 => .error (SqlError.plain "too many levels of trigger recursion")
  | fuel + 1 => do
    let override := match orconf with
      | some c => some c
      | none => if conflict == .abort then none else some conflict
    let blocks := if ctes.isEmpty then [] else [{ tables := ctes : WithBlock }]
    let env := s.env blocks outer
    let reverse := s.settings.reverseUnorderedSelects
    let extra ← match source with
      | some src => do
        let p ← evalSource fuel env src reverse
        p.toExcept
      | none => pure [[]]
    let extraShape := match source with
      | some src => labelSubqueries (sourceFrames fuel env src)
      | none => []
    match s.objects.table? home target.name with
    | some t =>
      let label := target.label.getD t.name
      let shape := t.frame label
      let (once, perRow) := splitFilter fuel (env.push { frames := shape :: extraShape }) filter
      let pass ← once.allM fun c => evalTest fuel (env.push { frames := shape :: extraShape }) c true false
      let candidates := if pass then (t.scanRows reverse).flatMap fun r => extra.map (r, ·) else []
      let chosen ← candidates.foldlM (fun (acc : List (StoredRow × List Frame)) (r, ex) => do
        if acc.any (·.1.rowid == r.rowid) then return acc
        let renv := env.push { frames := t.rowFrame label r :: ex }
        let ok ← perRow.allM fun c => evalTest fuel renv c true false
        pure (if ok then acc ++ [(r, ex)] else acc)) []
      let (s, count) ← chosen.foldlM (fun (s, count) (r, ex) => do
        let cur := s.current t
        let some r := cur.row? r.rowid | return (s, count)
        let renv := (s.env blocks outer).push { frames := cur.rowFrame label r :: ex }
        let (assigned, newRowid, names) ← assignedValues fuel renv cur sets
        let (s, row) ← updateOne fuel s cur label override orconf r assigned newRowid names
        match row with
        | some row =>
          let s ← returnRow fuel s ((s.current t).rowFrame label row) returning
          pure (s, count + 1)
        | none => pure (s, count)) (s, (0 : Int))
      pure (s.counted count)
    | none =>
      match s.objects.view? home target.name with
      | some v => do
        let shape := { viewShape fuel env v with label := target.label.getD v.name }
        let triggers := s.objects.firing v.name v.temporary (.update (sets.flatMap (·.columns)))
          .insteadOf
        let rows ← (← evalNamed fuel env (some (if v.temporary then "temp" else "main")) v.name
          target.label false).toExcept
        rows.foldlM (fun s frames => do
          let f := (frames.headD shape)
          let renv := (s.env blocks outer).push { frames := [f] }
          let ok ← match filter with
            | some c => evalTest fuel renv c true false
            | none => pure true
          if !ok then return s
          let (assigned, _, _) ← assignedValues fuel renv
            { name := v.name, columns := shape.fields.map fun fl => { name := fl.name } } sets
          let newValues := f.values.zipIdx.map fun (val, i) =>
            ((assigned.find? (·.1 == i)).map (·.2)).getD val
          let (s, _) ← fireTriggers fuel s triggers
            (triggerScope shape (some (f.values, .null)) (some (newValues, .null))) orconf
          pure s) s
      | none => throw (SqlError.plain ("no such table: " ++ target.shown))

/-- Runs a delete: finds the rows its filter accepts, then deletes them one by one; through a
view, fires its `INSTEAD OF` triggers for each. -/
def deleteStatement (fuel : Nat) (s : Session) (outer : List Scope) (home : Option Bool)
    (orconf : Option Conflict) (ctes : List CommonTable) (target : TableName) (filter : Option Expr)
    (returning : List Projection) : Except SqlError Session :=
  match fuel with
  | 0 => .error (SqlError.plain "too many levels of trigger recursion")
  | fuel + 1 => do
    let blocks := if ctes.isEmpty then [] else [{ tables := ctes : WithBlock }]
    let env := s.env blocks outer
    let reverse := s.settings.reverseUnorderedSelects
    match s.objects.table? home target.name with
    | some t =>
      let label := target.label.getD t.name
      let shape := t.frame label
      let (once, perRow) := splitFilter fuel (env.push { frames := [shape] }) filter
      let pass ← once.allM fun c => evalTest fuel (env.push { frames := [shape] }) c true false
      let candidates := if pass then t.scanRows reverse else []
      let chosen ← candidates.filterM fun r =>
        perRow.allM fun c => evalTest fuel (env.push { frames := [t.rowFrame label r] }) c true false
      let (s, count) ← chosen.foldlM (fun (s, count) r => do
        let cur := s.current t
        let some r := cur.row? r.rowid | return (s, count)
        let s ← deleteOne fuel s cur r orconf false
        let s ← returnRow fuel s (cur.rowFrame label r) returning
        pure (s, count + 1)) (s, (0 : Int))
      pure (s.counted count)
    | none =>
      match s.objects.view? home target.name with
      | some v => do
        let shape := { viewShape fuel env v with label := target.label.getD v.name }
        let triggers := s.objects.firing v.name v.temporary .delete .insteadOf
        let rows ← (← evalNamed fuel env (some (if v.temporary then "temp" else "main")) v.name
          target.label false).toExcept
        rows.foldlM (fun s frames => do
          let f := frames.headD shape
          let ok ← match filter with
            | some c => evalTest fuel ((s.env blocks outer).push { frames := [f] }) c true false
            | none => pure true
          if !ok then return s
          let (s, _) ← fireTriggers fuel s triggers (triggerScope shape (some (f.values, .null)) none)
            orconf
          pure s) s
      | none => throw (SqlError.plain ("no such table: " ++ target.shown))

end

end Schedule.Sql
