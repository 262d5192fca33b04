import Schedule.Sql.Compare
import Schedule.Sql.Parser.Core

/-!
# What a database holds

Tables, indexes, views and triggers, each in the main schema or in the temporary one, and the
rows of the tables.

A table's rows are kept in the order a scan reads them: by row id, or for a table without row
ids by its primary key. A table whose primary key is a single column declared `INTEGER` keeps
that column's value as the row id (`rowidColumn`). Every other primary key and every unique
constraint is a unique index of the table, as is every index made by `CREATE UNIQUE INDEX`.

A database also keeps the state of its last commit, which another connection to the same file
sees, the state to return to when an open transaction is rolled back, its savepoints, and the
settings of its connection.

## Main definitions

* `StoredColumn`, `StoredRow`, `Table`, `Index`, `View`, `Trigger`.
* `Objects` — everything the schemas hold.
* `Database` — the objects, the committed state, the transaction and the settings.
-/

namespace Schedule.Sql

/-- A column of a table as stored: its name and declared type, the affinity and collation they
give it, its constraints, and its default or generating expression. -/
structure StoredColumn where
  name : String
  typeName : String := ""
  affinity : Affinity := .blob
  collation : Collation := .binary
  notNull : Bool := false
  notNullConflict : Option Conflict := none
  default : Option Expr := none
  generated : Option (Expr × Bool) := none
  inPrimaryKey : Bool := false
  deriving Inhabited

/-- A row of a table: its row id and its values, one for each column. -/
structure StoredRow where
  rowid : Int
  values : List SqlValue
  deriving Inhabited

/-- A table: its name as created, its schema, columns and constraints, and its rows in scan
order. `sequence` is the largest row id a counting (`AUTOINCREMENT`) table has given out. -/
structure Table where
  name : String
  temporary : Bool := false
  columns : List StoredColumn
  rowidColumn : Option Nat := none
  rowidConflict : Option Conflict := none
  autoincrement : Bool := false
  withoutRowid : Bool := false
  /-- The primary key's columns, for the order of a table without row ids. -/
  primaryKey : List KeyColumn := []
  checks : List CheckClause := []
  foreignKeys : List ForeignKey := []
  strict : Bool := false
  rows : List StoredRow := []
  sequence : Int := 0
  deriving Inhabited

/-- An index: its name, schema and table, whether it is unique, its columns, the condition of a
partial index, its conflict action (none when it names none), whether it is the primary key, and
whether a table's constraint made it. -/
structure Index where
  name : String
  temporary : Bool := false
  table : String
  unique : Bool := false
  columns : List IndexedColumn
  filter : Option Expr := none
  conflict : Option Conflict := none
  primary : Bool := false
  fromConstraint : Bool := false
  deriving Inhabited

/-- A view: its name, schema, the names given to its columns, and its query. -/
structure View where
  name : String
  temporary : Bool := false
  columns : List String := []
  query : Query
  deriving Inhabited

/-- A trigger: its name, schema and table, when it fires and on what, its condition, and the
statements it runs. -/
structure Trigger where
  name : String
  temporary : Bool := false
  table : String
  /-- Whether the trigger's table is a temporary one. -/
  onTemporary : Bool := false
  time : TriggerTime
  event : TriggerEvent
  condition : Option Expr := none
  body : List Statement
  deriving Inhabited

/-- Everything the two schemas hold, each kind of object in the order it was made. -/
structure Objects where
  tables : List Table := []
  indexes : List Index := []
  views : List View := []
  triggers : List Trigger := []
  deriving Inhabited

/-- The settings of a connection that statements can change. -/
structure Settings where
  foreignKeys : Bool := true
  reverseUnorderedSelects : Bool := false
  caseSensitiveLike : Bool := false
  ignoreCheckConstraints : Bool := false
  recursiveTriggers : Bool := false
  deriving Inhabited

/-- An open transaction: the objects to return to on `ROLLBACK`, the savepoints from the newest,
each with the objects to return to, and whether the transaction was opened by a savepoint (so
that releasing that savepoint commits). -/
structure Transaction where
  start : Objects
  savepoints : List (String × Objects) := []
  bySavepoint : Bool := false
  deriving Inhabited

/-- A database: its objects, its objects as last committed, its open transaction if any, and
its connection's settings. -/
structure Database where
  objects : Objects := {}
  committed : Objects := {}
  transaction : Option Transaction := none
  settings : Settings := {}
  /-- Foreign key violations a deferred key has left, to be settled by commit. -/
  deferredViolations : Int := 0
  /-- What `last_insert_rowid`, `changes` and `total_changes` report. -/
  lastInsertRowid : Int := 0
  changes : Int := 0
  totalChanges : Int := 0
  deriving Inhabited

/-- Whether a qualified name's schema is the schema of an object. -/
def schemaMatches (schema : Option String) (temporary : Bool) : Bool :=
  match schema with
  | some s => if temporary then sameName s "temp" else sameName s "main"
  | none => true

namespace Objects

/-- The table a name refers to in a schema (`some temporary`), or in either, the temporary one
first. -/
def table? (o : Objects) (schema : Option Bool) (name : String) : Option Table :=
  let inSchema (tmp : Bool) := o.tables.find? fun t => t.temporary == tmp && sameName t.name name
  match schema with
  | some tmp => inSchema tmp
  | none => (inSchema true).or (inSchema false)

/-- The view a name refers to, like `table?`. -/
def view? (o : Objects) (schema : Option Bool) (name : String) : Option View :=
  let inSchema (tmp : Bool) := o.views.find? fun v => v.temporary == tmp && sameName v.name name
  match schema with
  | some tmp => inSchema tmp
  | none => (inSchema true).or (inSchema false)

/-- Replaces a table, found by its schema and name. -/
def setTable (o : Objects) (t : Table) : Objects :=
  { o with tables := o.tables.map fun u =>
      if u.temporary == t.temporary && sameName u.name t.name then t else u }

/-- The indexes of a table in the order its constraints are checked: the newest first, those
that replace conflicting rows after the others. -/
def indexesOf (o : Objects) (t : Table) : List Index :=
  let mine := (o.indexes.filter fun i => i.temporary == t.temporary && sameName i.table t.name).reverse
  mine.filter (·.conflict != some .replace) ++ mine.filter (·.conflict == some .replace)

/-- The triggers on a table or view, in the order they were made. -/
def triggersOf (o : Objects) (name : String) (temporary : Bool) : List Trigger :=
  o.triggers.filter fun tr => sameName tr.table name && tr.onTemporary == temporary

/-- The names parsing consults. -/
def catalog (o : Objects) : Catalog :=
  { tables := o.tables.map fun t => (t.temporary, t.name, t.columns.map (·.name))
    indexes := o.indexes.map fun i => (i.temporary, i.name)
    views := o.views.map fun v => (v.temporary, v.name)
    triggers := o.triggers.map fun t => (t.temporary, t.name) }

/-- The objects of the main schema alone. -/
def mainOnly (o : Objects) : Objects :=
  { tables := o.tables.filter (!·.temporary)
    indexes := o.indexes.filter (!·.temporary)
    views := o.views.filter (!·.temporary)
    triggers := o.triggers.filter (!·.temporary) }

end Objects

namespace Table

/-- The place of the column of a name. -/
def columnIndex? (t : Table) (name : String) : Option Nat :=
  t.columns.findIdx? (sameName ·.name name)

/-- Whether a table has row ids a query can name. -/
def hasRowid (t : Table) : Bool := !t.withoutRowid

end Table

end Schedule.Sql
