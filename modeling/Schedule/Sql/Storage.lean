import Schedule.Sql.Evaluate

/-!
# Rows of tables and keys of indexes

A table keeps its rows in scan order: by row id, or, for a table without row ids, by its primary
key under the key's collations and directions. A table without row ids still gives each row a
number of its own (`StoredRow.rowid`), which no query can read; it only tells rows apart.

A new row id is one more than the largest in the table (1 for an empty table). A counting
(`AUTOINCREMENT`) table never gives out a row id it gave out before, and reports a full database
when it has reached the largest 64-bit integer; another table then takes the least positive row
id not in use.

An index gives each row a key: the values of its columns or expressions, each compared under
the index's collation for it (the one it names, else the column's, else binary). A partial
index leaves out the rows its condition does not accept. Two rows break a unique index when
their keys are equal and hold no null.

## Main definitions

* `Table.insertRow`, `Table.removeRow`, `Table.row?`, `Table.newRowid`.
* `rowKey`, `findConflict` — keys of indexes and rows with equal keys.
-/

namespace Schedule.Sql

namespace Table

/-- The row of a row id. -/
def row? (t : Table) (id : Int) : Option StoredRow := t.rows.find? (·.rowid == id)

/-- The frame of a row of the table under a label. -/
def rowFrame (t : Table) (label : String) (row : StoredRow) : Frame :=
  (t.frame label).withRow row.values (if t.hasRowid then .integer row.rowid else .null)

/-- The keys that order the rows of a table without row ids: its primary key's values. -/
def primaryKeyOf (t : Table) (values : List SqlValue) : List SortKey :=
  t.primaryKey.map fun k =>
    let c := t.columns.getD k.position default
    { value := values.getD k.position .null
      collation := (k.collation.bind Collation.ofName?).getD c.collation
      descending := k.descending
      nullsFirst := !k.descending }

/-- Whether row `a` comes before row `b` in the table's scan order. -/
def before (t : Table) (a b : StoredRow) : Bool :=
  if t.withoutRowid then compareKeyLists (t.primaryKeyOf a.values) (t.primaryKeyOf b.values) == .lt
  else a.rowid < b.rowid

/-- The table with a row added in its place. -/
def insertRow (t : Table) (row : StoredRow) : Table :=
  let (front, back) := t.rows.span fun r => t.before r row
  { t with rows := front ++ row :: back }

/-- The table without the row of a row id. -/
def removeRow (t : Table) (id : Int) : Table := { t with rows := t.rows.filter (·.rowid != id) }

/-- The largest row id of the table's rows. -/
def maxRowid (t : Table) : Option Int :=
  t.rows.foldl (fun m r => some (match m with
    | some x => max x r.rowid
    | none => r.rowid)) none

/-- The least positive row id no row has, searching from `n` up. -/
def freeRowid (t : Table) : Nat → Int → Int
  | 0, n => n
  | fuel + 1, n => if (t.row? n).isSome then freeRowid t fuel (n + 1) else n

/-- The row id a new row takes when none is given. -/
def newRowid (t : Table) : Except SqlError Int :=
  let next := match t.maxRowid with
    | some m => if m < int64Max then some (m + 1) else none
    | none => some 1
  if t.autoincrement then
    match next with
    | some n =>
      if t.sequence == int64Max then .error (SqlError.plain "database or disk is full")
      else .ok (max n (t.sequence + 1))
    | none => .error (SqlError.plain "database or disk is full")
  else
    match next with
    | some n => .ok n
    | none => .ok (t.freeRowid (t.rows.length + 1) 1)

end Table

/-- The collation an index compares a column of its key with. -/
def Index.collationAt (t : Table) (c : IndexedColumn) : Collation :=
  match c.collation.bind Collation.ofName? with
  | some k => k
  | none =>
    match c.name? with
    | some n => match t.columnIndex? n with
      | some i => (t.columns.getD i default).collation
      | none => .binary
    | none => .binary

/-- The environment that reads one row of a table, for defaults, checks and index
expressions. -/
def rowEnv (base : Env) (t : Table) (values : List SqlValue) (rowid : SqlValue) : Env :=
  { base with scopes := [{ frames := [(t.frame t.name).withRow values rowid] }], group := none,
              ctes := [] }

/-- The key an index gives a row of its table, each value with its collation; none when the
index is partial and leaves the row out. -/
def rowKey (fuel : Nat) (base : Env) (t : Table) (i : Index) (values : List SqlValue)
    (rowid : SqlValue) : Except SqlError (Option (List (SqlValue × Collation))) := do
  let env := rowEnv base t values rowid
  let kept ← match i.filter with
    | some f => evalTest fuel env f true false
    | none => pure true
  if !kept then return none
  let key ← i.columns.mapM fun c => do
    let o ← evalExpr fuel env c.expr
    pure (o.value, Index.collationAt t c)
  pure (some key)

/-- Whether two keys are equal, each value under its collation. -/
def keysEqual (a b : List (SqlValue × Collation)) : Bool :=
  a.length == b.length && (a.zip b).all fun ((x, c), (y, _)) => x.compareWith c y == .eq

/-- A row other than `exclude` whose key in a unique index equals `key`; none when the key
holds a null. -/
def findConflict (fuel : Nat) (base : Env) (t : Table) (i : Index)
    (key : List (SqlValue × Collation)) (exclude : Option Int) : Except SqlError (Option StoredRow) :=
  if key.any (·.1.isNull) then .ok none
  else
    t.rows.findM? fun r => do
      if exclude == some r.rowid then return false
      match ← rowKey fuel base t i r.values (.integer r.rowid) with
      | some k => pure (keysEqual key k)
      | none => pure false

end Schedule.Sql
