import Schedule.Sql.Change
import Schedule.Sql.Rename

/-!
# Defining and changing the schema

`CREATE TABLE`, `CREATE TABLE … AS`, `CREATE INDEX`, `CREATE VIEW`, `CREATE TRIGGER`, the
`DROP` statements and `ALTER TABLE`, each with the checks the database makes, in its order.

* A table's keys become unique indexes named `sqlite_autoindex_T_N`, numbered in the order the
  constraints were written. A table made from a query declares each column's type from its
  affinity (`TEXT`, `NUM`, `INT`, `REAL`, or none) and keeps its collation.
* A unique index made on a table that holds equal keys fails as an insert would.
* Dropping a table that other tables' foreign keys refer to first deletes its rows (with no
  trigger and no action), and fails when that leaves child rows without their parent.
* Renaming a table renames it in its indexes and triggers, in the foreign keys that refer to
  it, and in the views and trigger bodies that read it. Renaming a column does the same for the
  column.
* Adding a column to a table that holds rows refuses a `NOT NULL` column without a default, a
  default that is not a literal, a foreign key with a default, and a stored generated column;
  the rows then take the column's default, and must still pass the table's checks.
* Dropping a column refuses a column of a key and a table's last column, and one that an
  index, a table check or a foreign key still reads.

## Main definitions

* `TableDef.build` — a table and its key indexes from a definition.
* `createTable`, `createTableAs`, `createIndex`, `createView`, `createTrigger`.
* `dropTable`, `dropIndex`, `dropView`, `dropTrigger`.
* `renameTable`, `renameColumn`, `addColumn`, `dropColumn`.
-/

namespace Schedule.Sql

/-- The type a table made from a query declares for a column of an affinity. -/
def Affinity.declaredType : Option Affinity → String
  | some .text => "TEXT"
  | some .numeric => "NUM"
  | some .integer => "INT"
  | some .real => "REAL"
  | _ => ""

/-- A stored column from its definition. -/
def ColumnDef.stored (c : ColumnDef) : StoredColumn :=
  { name := c.name, typeName := c.typeName, affinity := Affinity.ofType c.typeName
    collation := (c.collation.bind Collation.ofName?).getD .binary
    notNull := c.notNull, notNullConflict := c.notNullConflict, default := c.default
    generated := c.generated, inPrimaryKey := c.inPrimaryKey }

/-- The name of a table's `n`-th key index. -/
def autoindexName (table : String) (n : Nat) : String :=
  "sqlite_autoindex_" ++ table ++ "_" ++ toString n

/-- A table built from its definition, with its key indexes in the order they were written. A
primary key of a table without row ids makes its columns `NOT NULL`. -/
def TableDef.build (d : TableDef) (name : String) (temporary : Bool) : Table × List Index :=
  let primary := d.keys.find? (·.primary)
  let pkPositions := (primary.map fun k => k.columns.map (·.position)).getD []
  let columns := d.columns.zipIdx.map fun (c, i) =>
    let sc := c.stored
    let sc := if d.strict && sameName c.typeName "any" then { sc with affinity := .blob } else sc
    if d.withoutRowid && pkPositions.contains i then { sc with notNull := true } else sc
  let table : Table :=
    { name, temporary, columns
      rowidColumn := d.rowidColumn.map (·.1)
      rowidConflict := d.rowidColumn.bind (·.2.1)
      autoincrement := (d.rowidColumn.map (·.2.2)).getD false
      withoutRowid := d.withoutRowid
      primaryKey := (primary.map (·.columns)).getD []
      checks := d.checks, foreignKeys := d.foreignKeys, strict := d.strict }
  let indexes := d.keys.reverse.zipIdx.map fun (k, n) =>
    { name := autoindexName name (n + 1), temporary, table := name, unique := true
      columns := k.columns.map fun kc =>
        { expr := .column none none (d.columns.getD kc.position default).name 0 false
          collation := kc.collation, descending := kc.descending }
      conflict := k.conflict, primary := k.primary, fromConstraint := true : Index }
  (table, indexes)

/-- The first column reference of an expression, outside subqueries, that names no column of
the table: a qualifier other than the table's name, or a name that is neither a column, nor the
row id, nor a double-quoted text, nor `TRUE` or `FALSE`. -/
def firstUnknown (t : Table) : Nat → Expr → Option (Option String × String × Nat)
  | 0, _ => none
  | fuel + 1, e =>
    match e with
    | .column _ q n off dq =>
      let qualifierOk := q.all fun q => sameName q t.name
      let known := (t.columnIndex? n).isSome || (t.hasRowid && isRowidName n)
      if qualifierOk && known then none
      else if q.isNone && (dq || sameName n "true" || sameName n "false") then none
      else some (q, n, off)
    | e => e.children.findSome? (firstUnknown t fuel)

/-- The failure of an expression of a table's definition that names an unknown column. -/
def unknownColumnFailure (t : Table) (e : Expr) : Option SqlError :=
  (firstUnknown t 10000 e).map fun (q, n, off) =>
    { message := "no such column: " ++ (match q with
        | some q => q ++ "."
        | none => "") ++ n, offset := some off }

/-- The schema a statement's qualified name picks, or the failure of an unknown one. -/
def schemaChoiceOf (t : TableName) : Except SqlError (Option Bool) :=
  match t.schemaChoice, t.schema with
  | none, some (s, token) =>
    .error { message := "unknown database " ++ s, offset := some token.offset }
  | some c, _ => .ok c
  | none, none => .ok none

/-- Creates a table from its definition, after the checks made once the definition is read. -/
def createTable (s : Session) (name : TableName) (temporary : Bool) (d : TableDef) :
    Except SqlError Session := do
  let (t, indexes) := d.build name.name temporary
  if d.strict then
    for c in d.columns do
      if !(["INT", "INTEGER", "REAL", "TEXT", "BLOB", "ANY"].contains (c.typeName.map Char.toUpper)) then
        if c.typeName.isEmpty then
          throw (SqlError.plain ("missing datatype for " ++ name.name ++ "." ++ c.name))
        else
          throw (SqlError.plain ("unknown datatype for " ++ name.name ++ "." ++ c.name ++ ": \"" ++
            c.typeName ++ "\""))
  if d.withoutRowid && !d.hasPrimaryKey then
    throw (SqlError.plain ("PRIMARY KEY missing on table " ++ name.name))
  if d.withoutRowid && t.autoincrement then
    throw (SqlError.plain "AUTOINCREMENT not allowed on WITHOUT ROWID tables")
  for c in d.checks do
    if let some e := unknownColumnFailure t c.expr then throw e
  for c in t.columns do
    if let some (e, _) := c.generated then
      if let some err := unknownColumnFailure t e then throw err
  if t.columns.all (·.generated.isSome) then
    throw (SqlError.plain "must have at least one non-generated column")
  pure { s with objects := { s.objects with
    tables := s.objects.tables ++ [t], indexes := s.objects.indexes ++ indexes } }

/-- Creates a table from a query: its columns named and typed from the query's result, its rows
the query's rows. -/
def createTableAs (fuel : Nat) (s : Session) (name : TableName) (temporary : Bool) (q : Query) :
    Except SqlError Session := do
  let r ← evalQuery fuel (s.env [] []) q
  let rows ← r.rows.toExcept
  let names := makeUnique (r.columns.map (·.declared))
  let columns := (r.columns.zip names).map fun (c, n) =>
    let typeName := Affinity.declaredType c.affinity
    ({ name := n, typeName, affinity := Affinity.ofType typeName
       collation := c.collation.getD .binary } : StoredColumn)
  let stored := rows.zipIdx.map fun (values, i) =>
    ({ rowid := i + 1
       values := (columns.zip values).map fun (c, v) => v.withAffinity c.affinity } : StoredRow)
  let t : Table := { name := name.name, temporary, columns, rows := stored }
  pure { s with objects := { s.objects with tables := s.objects.tables ++ [t] } }

/-- Creates an index: the table is found in the index's schema, may be indexed, the name is
free, the condition and the columns read columns of the table with known collations; a unique
index must find no two rows with equal keys. -/
def createIndex (fuel : Nat) (s : Session) (index : TableName) (unique ifNotExists : Bool)
    (table : String) (columns : List IndexedColumn) (filter : Option Expr) :
    Except SqlError Session := do
  let choice ← schemaChoiceOf index
  let found := match choice with
    | some tmp => s.objects.table? (some tmp) table
    | none => s.objects.table? none table
  let viewFound := match choice with
    | some tmp => s.objects.view? (some tmp) table
    | none => s.objects.view? none table
  let schemaName := if choice == some true then "temp" else "main"
  let t ← match found, viewFound with
    | some t, _ => pure t
    | none, some _ =>
      if reservedTableName table then
        throw (SqlError.plain ("table " ++ table ++ " may not be indexed"))
      else throw (SqlError.plain "views may not be indexed")
    | none, none => throw (SqlError.plain ("no such table: " ++ schemaName ++ "." ++ table))
  if reservedTableName t.name then throw (SqlError.plain ("table " ++ t.name ++ " may not be indexed"))
  let temporary := t.temporary
  if reservedTableName index.name then
    throw (SqlError.plain ("object name reserved for internal use: " ++ index.name))
  if (s.objects.table? (some temporary) index.name).isSome ||
      (s.objects.view? (some temporary) index.name).isSome then
    throw (SqlError.plain ("there is already a table named " ++ index.name))
  if s.objects.indexes.any fun i => i.temporary == temporary && sameName i.name index.name then
    if ifNotExists then return s
    throw (SqlError.plain ("index " ++ index.name ++ " already exists"))
  if let some f := filter then
    if let some e := unknownColumnFailure t f then throw e
  for c in columns do
    if let some e := unknownColumnFailure t c.expr then throw e
    if let some name := c.collation then
      if (Collation.ofName? name).isNone then
        throw (SqlError.plain ("no such collation sequence: " ++ name))
  let i : Index := { name := index.name, temporary, table := t.name, unique, columns, filter }
  if unique then
    let base := s.env [] []
    let _ ← t.rows.foldlM (fun (seen : List (List (SqlValue × Collation))) r => do
      match ← rowKey fuel base t i r.values (.integer r.rowid) with
      | some key =>
        if key.any (·.1.isNull) then return seen
        if seen.any (keysEqual key) then throw (uniqueFailure t (.index i))
        pure (key :: seen)
      | none => pure seen) []
  pure { s with objects := { s.objects with indexes := s.objects.indexes ++ [i] } }
where
  /-- Whether a name is one of the database's own. -/
  reservedTableName (n : String) : Bool := sameName (String.ofList (n.toList.take 7)) "sqlite_"

/-- Creates a view, after checking that its name is free in its schema. -/
def createView (s : Session) (view : TableName) (temporary ifNotExists : Bool)
    (columns : List String) (q : Query) : Except SqlError Session := do
  let choice ← schemaChoiceOf view
  if temporary && choice == some false then
    throw (SqlError.plain "temporary view name must be unqualified")
  let inTemporary := temporary || choice == some true
  if sameName (String.ofList (view.name.toList.take 7)) "sqlite_" then
    throw (SqlError.plain ("object name reserved for internal use: " ++ view.name))
  let isTable := (s.objects.table? (some inTemporary) view.name).isSome
  if isTable || (s.objects.view? (some inTemporary) view.name).isSome then
    if ifNotExists then return s
    throw { message := (if isTable then "table " else "view ") ++ view.token.written ++
      " already exists", offset := some view.token.offset }
  if s.objects.indexes.any fun i => i.temporary == inTemporary && sameName i.name view.name then
    throw (SqlError.plain ("there is already an index named " ++ view.name))
  pure { s with objects := { s.objects with views := s.objects.views ++
    [{ name := view.name, temporary := inTemporary, columns, query := q }] } }

/-- Creates a trigger; its checks were made as it was read. It goes to the temporary schema when
made `TEMP`, named in it, or on a temporary table with an unqualified name. -/
def createTrigger (s : Session) (trigger : TableName) (temporary : Bool) (time : TriggerTime)
    (event : TriggerEvent) (table : TableName) (condition : Option Expr) (body : List Statement) :
    Session :=
  let inSchema (tmp : Bool) :=
    (s.objects.table? (some tmp) table.name).isSome || (s.objects.view? (some tmp) table.name).isSome
  let triggerSchema := trigger.schemaChoice.getD none
  let tableTemporary := match table.schemaChoice with
    | some (some tmp) => tmp
    | _ =>
      if temporary then inSchema true
      else match triggerSchema with
        | some tmp => tmp
        | none => inSchema true
  let inTemporary := temporary || triggerSchema == some true ||
    (trigger.schema.isNone && tableTemporary)
  let name := match s.objects.table? (some tableTemporary) table.name with
    | some t => t.name
    | none => ((s.objects.view? (some tableTemporary) table.name).map (·.name)).getD table.name
  { s with objects := { s.objects with triggers := s.objects.triggers ++
    [{ name := trigger.name, temporary := inTemporary, table := name, onTemporary := tableTemporary
       time, event, condition, body }] } }

/-- The table or view a name refers to in the schema it picks. -/
def Objects.relation? (o : Objects) (t : TableName) : Option (Sum Table View) :=
  match t.schemaChoice with
  | none => none
  | some choice =>
    match o.table? choice t.name with
    | some tbl => some (.inl tbl)
    | none => (o.view? choice t.name).map .inr

/-- Drops a table, its indexes and its triggers. With foreign keys on, a table other tables
refer to first has its rows deleted, and fails when child rows are left without a parent. -/
def dropTable (s : Session) (table : TableName) (ifExists : Bool) : Except SqlError Session := do
  match s.objects.relation? table with
  | none =>
    if ifExists then pure s else throw (SqlError.plain ("no such table: " ++ table.shown))
  | some (.inr v) => throw (SqlError.plain ("use DROP VIEW to delete view " ++ v.name))
  | some (.inl t) =>
    if sameName (String.ofList (t.name.toList.take 7)) "sqlite_" then
      throw (SqlError.plain ("table " ++ t.name ++ " may not be dropped"))
    let s ← if s.settings.foreignKeys && !(s.objects.referencing t).isEmpty then do
        let start := { s with immediate := 0 }
        let after ← t.rows.foldlM (fun s r =>
          parentChecks s t r.values r.rowid 1 (fun _ => true) false) start
        if after.immediate > 0 then throw (SqlError.plain "FOREIGN KEY constraint failed")
        pure { after with immediate := s.immediate }
      else pure s
    let o := s.objects
    let mine (tmp : Bool) (n : String) : Bool := tmp == t.temporary && sameName n t.name
    pure { s with objects := { o with
      tables := o.tables.filter fun u => !mine u.temporary u.name
      indexes := o.indexes.filter fun i => !mine i.temporary i.table
      triggers := o.triggers.filter fun tr => !mine tr.onTemporary tr.table } }

/-- Drops a view and its triggers. -/
def dropView (s : Session) (view : TableName) (ifExists : Bool) : Except SqlError Session := do
  match s.objects.relation? view with
  | none => if ifExists then pure s else throw (SqlError.plain ("no such view: " ++ view.shown))
  | some (.inl t) => throw (SqlError.plain ("use DROP TABLE to delete table " ++ t.name))
  | some (.inr v) =>
    let o := s.objects
    pure { s with objects := { o with
      views := o.views.filter fun u => !(u.temporary == v.temporary && sameName u.name v.name)
      triggers := o.triggers.filter fun tr =>
        !(tr.onTemporary == v.temporary && sameName tr.table v.name) } }

/-- Drops an index that no constraint made. -/
def dropIndex (s : Session) (index : TableName) (ifExists : Bool) : Except SqlError Session := do
  let fits (i : Index) : Bool :=
    sameName i.name index.name && match index.schemaChoice with
      | some (some tmp) => i.temporary == tmp
      | some none => true
      | none => false
  let ordered := s.objects.indexes.filter (·.temporary) ++ s.objects.indexes.filter (!·.temporary)
  match ordered.find? fits with
  | none => if ifExists then pure s else throw (SqlError.plain ("no such index: " ++ index.shown))
  | some i =>
    if i.fromConstraint then
      throw (SqlError.plain "index associated with UNIQUE or PRIMARY KEY constraint cannot be dropped")
    pure { s with objects := { s.objects with indexes := s.objects.indexes.filter fun j =>
      !(j.temporary == i.temporary && sameName j.name i.name) } }

/-- Drops a trigger. -/
def dropTrigger (s : Session) (trigger : TableName) (ifExists : Bool) : Except SqlError Session := do
  let fits (tr : Trigger) : Bool :=
    sameName tr.name trigger.name && match trigger.schemaChoice with
      | some (some tmp) => tr.temporary == tmp
      | some none => true
      | none => false
  let ordered := s.objects.triggers.filter (·.temporary) ++ s.objects.triggers.filter (!·.temporary)
  match ordered.find? fits with
  | none =>
    if ifExists then pure s else throw (SqlError.plain ("no such trigger: " ++ trigger.shown))
  | some tr =>
    pure { s with objects := { s.objects with triggers := s.objects.triggers.filter fun u =>
      !(u.temporary == tr.temporary && sameName u.name tr.name) } }

/-- The table `ALTER TABLE` works on: it exists and is not one of the database's own. -/
def alteredTable (s : Session) (table : TableName) (what : String) : Except SqlError Table := do
  match s.objects.relation? table with
  | none => throw (SqlError.plain ("no such table: " ++ table.shown))
  | some (.inr v) => throw (SqlError.plain (what ++ " \"" ++ v.name ++ "\""))
  | some (.inl t) =>
    if sameName (String.ofList (t.name.toList.take 7)) "sqlite_" then
      throw (SqlError.plain ("table " ++ t.name ++ " may not be altered"))
    pure t

/-- Renames a table everywhere it is named: its own name, its indexes and triggers, the foreign
keys that refer to it, and the views and trigger bodies that read it. -/
def renameTable (s : Session) (table : TableName) (newName : String) : Except SqlError Session := do
  let t ← match s.objects.relation? table with
    | none => throw (SqlError.plain ("no such table: " ++ table.shown))
    | some (.inr v) =>
      if (s.objects.table? (some v.temporary) newName).isSome ||
          (s.objects.view? (some v.temporary) newName).isSome ||
          s.objects.indexes.any (fun i => i.temporary == v.temporary && sameName i.name newName) then
        throw (SqlError.plain ("there is already another table or index with this name: " ++ newName))
      throw (SqlError.plain ("view " ++ v.name ++ " may not be altered"))
    | some (.inl t) => pure t
  let tmp := t.temporary
  if (s.objects.table? (some tmp) newName).isSome || (s.objects.view? (some tmp) newName).isSome ||
      s.objects.indexes.any (fun i => i.temporary == tmp && sameName i.name newName) then
    throw (SqlError.plain ("there is already another table or index with this name: " ++ newName))
  if sameName (String.ofList (t.name.toList.take 7)) "sqlite_" then
    throw (SqlError.plain ("table " ++ t.name ++ " may not be altered"))
  if sameName (String.ofList (newName.toList.take 7)) "sqlite_" then
    throw (SqlError.plain ("object name reserved for internal use: " ++ newName))
  let old := t.name
  let r : Renaming :=
    { table := fun _ n => if sameName n old then newName else n
      column := fun _ q n => (q.map fun q => if sameName q old then newName else q, n) }
  let o := s.objects
  let sameSchema (x : Bool) := x == tmp
  pure { s with objects := { o with
    tables := o.tables.map fun u =>
      let u := if sameSchema u.temporary && sameName u.name old then { u with name := newName } else u
      if sameSchema u.temporary then
        { u with foreignKeys := u.foreignKeys.map fun fk =>
          if sameName fk.parent old then { fk with parent := newName } else fk }
      else u
    indexes := o.indexes.map fun i =>
      if sameSchema i.temporary && sameName i.table old then { i with table := newName } else i
    views := o.views.map fun v => { v with query := renameQuery 10000 r v.query }
    triggers := o.triggers.map fun tr =>
      let tr := if sameSchema tr.onTemporary && sameName tr.table old then
          { tr with table := newName } else tr
      { tr with condition := tr.condition.map (renameExpr 10000 r)
                body := tr.body.map (renameStatement 10000 r) } } }

/-- Renames a column of a table: in the table, its checks, generated columns and indexes, the
foreign keys of and to the table, and the views and triggers that read it. -/
def renameColumn (s : Session) (table : TableName) (old new : String) (oldToken : Token) :
    Except SqlError Session := do
  let t ← alteredTable s table "cannot rename columns of view"
  let some i := t.columnIndex? old
    | throw { message := "no such column: \"" ++ oldToken.written ++ "\"", offset := some oldToken.offset }
  if t.columns.any fun c => sameName c.name new then
    throw (SqlError.plain ("error in table " ++ t.name ++ " after rename: duplicate column name: " ++ new))
  let oldName := (t.columns.getD i default).name
  let tname := t.name
  let own : Renaming :=
    { table := fun _ n => n
      column := fun _ q n =>
        if sameName n oldName && q.all (fun q => sameName q tname) then (q, new) else (q, n) }
  let inTrigger : Renaming :=
    { table := fun _ n => n
      column := fun _ q n =>
        if sameName n oldName && q.all (fun q =>
          sameName q tname || sameName q "new" || sameName q "old") then (q, new) else (q, n) }
  let renameName (n : String) : String := if sameName n oldName then new else n
  let tmp := t.temporary
  let isMine (x : Bool) (n : String) : Bool := x == tmp && sameName n tname
  let o := s.objects
  pure { s with objects := { o with
    tables := o.tables.map fun u =>
      let u := if isMine u.temporary u.name then
        { u with
          columns := u.columns.map fun c =>
            let c := { c with generated := c.generated.map fun (e, st) => (renameExpr 10000 own e, st)
                              default := c.default }
            if sameName c.name oldName then { c with name := new } else c
          checks := u.checks.map fun c => { c with expr := renameExpr 10000 own c.expr }
          foreignKeys := u.foreignKeys.map fun fk => { fk with columns := fk.columns.map renameName } }
        else u
      if u.temporary == tmp then
        { u with foreignKeys := u.foreignKeys.map fun fk =>
          if sameName fk.parent tname then { fk with parentColumns := fk.parentColumns.map renameName }
          else fk }
      else u
    indexes := o.indexes.map fun ix =>
      if isMine ix.temporary ix.table then
        { ix with columns := ix.columns.map fun c => { c with expr := renameExpr 10000 own c.expr }
                  filter := ix.filter.map (renameExpr 10000 own) }
      else ix
    views := o.views.map fun v => { v with query := renameQuery 10000 own v.query }
    triggers := o.triggers.map fun tr =>
      if isMine tr.onTemporary tr.table then
        { tr with
          event := match tr.event with
            | .update cols => .update (cols.map renameName)
            | e => e
          condition := tr.condition.map (renameExpr 10000 inTrigger)
          body := tr.body.map (renameStatement 10000 inTrigger) }
      else tr } }

/-- Whether a default is a literal the database can store for existing rows: a literal, signed
or cast, `TRUE` or `FALSE`. -/
def literalDefault : Nat → Expr → Bool
  | 0, _ => false
  | fuel + 1, e =>
    match e with
    | .literal _ | .negatedInteger _ => true
    | .neg a | .pos a | .cast a _ | .collate a _ => literalDefault fuel a
    | .column none none n _ _ => sameName n "true" || sameName n "false"
    | _ => false

/-- Adds a column to a table, after the checks that concern the table's rows; the rows take the
column's default, or its generated value, and must still pass the table's checks. -/
def addColumn (fuel : Nat) (s : Session) (table : TableName) (d : TableDef) :
    Except SqlError Session := do
  let t ← alteredTable s table "Cannot add a column to a view"
  let some cd := d.columns.head? | pure s
  if cd.inPrimaryKey || d.rowidColumn.isSome then
    throw (SqlError.plain "Cannot add a PRIMARY KEY column")
  if !d.keys.isEmpty then throw (SqlError.plain "Cannot add a UNIQUE column")
  let hasRows := !t.rows.isEmpty
  let default := cd.default.filter fun e => !(e matches .literal .null)
  match cd.generated with
  | none =>
    if s.settings.foreignKeys && !d.foreignKeys.isEmpty && default.isSome && hasRows then
      throw (SqlError.plain "Cannot add a REFERENCES column with non-NULL default value")
    if cd.notNull && default.isNone && hasRows then
      throw (SqlError.plain "Cannot add a NOT NULL column with default value NULL")
    if (default.any fun e => !literalDefault 100 e) && hasRows then
      throw (SqlError.plain "Cannot add a column with non-constant default")
  | some (_, stored) =>
    if stored && hasRows then throw (SqlError.plain "cannot add a STORED column")
  let column := cd.stored
  let base := s.env [] []
  let value ← defaultValue fuel base column
  let widened : Table :=
    { t with columns := t.columns ++ [column], checks := t.checks ++ d.checks
             foreignKeys := t.foreignKeys ++ d.foreignKeys
             rows := t.rows.map fun r => { r with values := r.values ++ [value] } }
  let rows ← widened.rows.mapM fun r => do
    let values ← computeGenerated fuel base widened r.values (.integer r.rowid)
    pure { r with values }
  let widened := { widened with rows }
  if !widened.checks.isEmpty || (cd.notNull && cd.generated.isSome) then
    for r in widened.rows do
      if !(← checkChecks fuel base widened none none r.values (.integer r.rowid)) then
        throw (SqlError.plain "CHECK constraint failed")
      if cd.notNull && (r.values.getD (widened.columns.length - 1) .null).isNull then
        throw (SqlError.plain "NOT NULL constraint failed")
  pure (s.setTable widened)

/-- Drops a column of a table: not one of a key, nor the last, nor one an index, a table check
or a foreign key of the table still reads. -/
def dropColumn (s : Session) (table : TableName) (column : String) (token : Token) :
    Except SqlError Session := do
  let t ← alteredTable s table "cannot drop column from view"
  let some i := t.columnIndex? column
    | throw { message := "no such column: \"" ++ token.written ++ "\"", offset := some token.offset }
  let c := t.columns.getD i default
  let indexes := s.objects.indexesOf t
  if c.inPrimaryKey || t.rowidColumn == some i then
    throw (SqlError.plain ("cannot drop PRIMARY KEY column: \"" ++ c.name ++ "\""))
  if indexes.any fun ix => ix.fromConstraint && ix.readNames.any (sameName · c.name) then
    throw (SqlError.plain ("cannot drop UNIQUE column: \"" ++ c.name ++ "\""))
  if t.columns.length ≤ 1 then
    throw (SqlError.plain ("cannot drop column \"" ++ c.name ++ "\": no other columns exist"))
  let reads (e : Expr) : Bool := e.readNames.any (sameName · c.name)
  let ownCheck (ch : CheckClause) : Bool := ch.expr.readNames.all (sameName · c.name)
  let madeOrder := (s.objects.indexes.filter fun ix =>
    ix.temporary == t.temporary && sameName ix.table t.name && !ix.fromConstraint)
  if let some ix := madeOrder.find? fun ix => ix.readNames.any (sameName · c.name) then
    throw (SqlError.plain ("error in index " ++ ix.name ++ " after drop column: no such column: " ++
      c.name))
  if t.checks.any fun ch => reads ch.expr && !ownCheck ch then
    throw (SqlError.plain ("error in table " ++ t.name ++ " after drop column: no such column: " ++
      c.name))
  if t.columns.any fun g => match g.generated with
      | some (e, _) => reads e
      | none => false then
    throw (SqlError.plain ("error in table " ++ t.name ++ " after drop column: no such column: " ++
      c.name))
  if t.foreignKeys.any fun fk => fk.columns.length > 1 && fk.columns.any (sameName · c.name) then
    throw (SqlError.plain ("error in table " ++ t.name ++ " after drop column: unknown column \"" ++
      c.name ++ "\" in foreign key definition"))
  let keep (xs : List SqlValue) : List SqlValue := (xs.zipIdx.filter (·.2 != i)).map (·.1)
  let shift (p : Nat) : Nat := if p > i then p - 1 else p
  let narrowed : Table :=
    { t with
      columns := (t.columns.zipIdx.filter (·.2 != i)).map (·.1)
      rowidColumn := t.rowidColumn.map shift
      primaryKey := t.primaryKey.map fun k => { k with position := shift k.position }
      checks := t.checks.filter fun ch => !reads ch.expr
      foreignKeys := t.foreignKeys.filter fun fk => !fk.columns.any (sameName · c.name)
      rows := t.rows.map fun r => { r with values := keep r.values } }
  pure (s.setTable narrowed)

end Schedule.Sql
