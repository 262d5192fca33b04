import Schedule.Sql.Parser.Expr

/-!
# Reading table definitions

The columns and constraints of `CREATE TABLE` and of `ALTER TABLE … ADD COLUMN`, read into a
`TableDef`. The database checks a definition while it reads it, each check at the point where
the clause it concerns is complete, so that a fault there is reported before any syntax error
further on:

* a column is added once a token that may follow its type is seen, and its name must be new;
* a primary key is the table's only one, its columns are not generated, and `AUTOINCREMENT`
  stands only on an `INTEGER PRIMARY KEY`;
* the columns of a key are columns of the table, not expressions, and their collations exist;
* two keys over the same columns are one key, and may not name two different conflict
  actions;
* a default value is constant (calls of functions allowed), a generated column has no default,
  and a collation named on a column exists;
* a foreign key refers to as many columns as it has, each a column of the table;
* table options are `WITHOUT ROWID` and `STRICT`.

When a `CREATE TABLE … IF NOT EXISTS` names a table that exists, nothing of its definition is
checked.

## Main definitions

* `TableBuilder` — a definition being read.
* `Parser.tableBody` — the columns and constraints of `CREATE TABLE`, after the parenthesis.
* `Parser.addedColumn` — the column of `ALTER TABLE … ADD COLUMN`.
-/

namespace Schedule.Sql

/-- Whether the database knows a collation: `BINARY`, `NOCASE` and `RTRIM`, in any case. -/
def knownCollation (name : String) : Bool :=
  ["BINARY", "NOCASE", "RTRIM"].contains (name.map Char.toUpper)

mutual

/-- The column references of an expression outside its subqueries, in the order written: each
with its table qualifier, name and offset. -/
def Expr.references : Expr → List (Option String × String × Nat)
  | .column _ t n off _ => [(t, n, off)]
  | .neg e | .pos e | .not e | .bitNot e | .isNull e _ | .truthTest e _ _ | .collate e _
  | .cast e _ | .inQuery e _ _ => e.references
  | .binary _ a b => a.references ++ b.references
  | .between e l h _ => e.references ++ l.references ++ h.references
  | .inList e items _ => e.references ++ Expr.referencesOf items
  | .pattern _ e p esc _ => e.references ++ p.references ++ Expr.referencesOpt esc
  | .caseOf op cs rs o =>
    Expr.referencesOpt op ++ Expr.referencesOf cs ++ Expr.referencesOf rs ++
      Expr.referencesOpt o
  | .call _ args _ _ _ => Expr.referencesOf args
  | .vector items => Expr.referencesOf items
  | _ => []

/-- The column references of a list of expressions. -/
def Expr.referencesOf : List Expr → List (Option String × String × Nat)
  | [] => []
  | e :: es => e.references ++ Expr.referencesOf es

/-- The column references of an optional expression. -/
def Expr.referencesOpt : Option Expr → List (Option String × String × Nat)
  | none => []
  | some e => e.references

end

mutual

/-- Whether an expression is made of literals, operators and function calls only: no column,
parameter or subquery. `TRUE` and `FALSE` count as literals. -/
def Expr.isConstantOrCall : Expr → Bool
  | .literal _ | .negatedInteger _ | .invalid _ _ | .raise _ _ => true
  | .column none none n _ _ => sameName n "true" || sameName n "false"
  | .column _ _ _ _ _ | .param _ | .scalar _ | .exists _ | .inQuery _ _ _ => false
  | .neg e | .pos e | .not e | .bitNot e | .isNull e _ | .truthTest e _ _ | .collate e _
  | .cast e _ => e.isConstantOrCall
  | .binary _ a b => a.isConstantOrCall && b.isConstantOrCall
  | .between e l h _ => e.isConstantOrCall && l.isConstantOrCall && h.isConstantOrCall
  | .inList e items _ => e.isConstantOrCall && Expr.allConstantOrCall items
  | .pattern _ e p esc _ =>
    e.isConstantOrCall && p.isConstantOrCall && Expr.optConstantOrCall esc
  | .caseOf op cs rs o =>
    Expr.optConstantOrCall op && Expr.allConstantOrCall cs &&
      Expr.allConstantOrCall rs && Expr.optConstantOrCall o
  | .call _ args _ _ _ => Expr.allConstantOrCall args
  | .vector items => Expr.allConstantOrCall items

/-- Whether every expression of a list is made of literals, operators and calls only. -/
def Expr.allConstantOrCall : List Expr → Bool
  | [] => true
  | e :: es => e.isConstantOrCall && Expr.allConstantOrCall es

/-- Whether an optional expression is made of literals, operators and calls only. -/
def Expr.optConstantOrCall : Option Expr → Bool
  | none => true
  | some e => e.isConstantOrCall

end

/-- The expression under any `COLLATE`s, with the outermost collation named. -/
def Expr.collationSplit : Expr → Expr × Option String
  | .collate e name =>
    match e.collationSplit with
    | (inner, _) => (inner, some name)
  | e => (e, none)

/-- A table definition being read: the table's name, whether its definition is checked, the
definition so far, and the name the next constraint takes (`CONSTRAINT name`). -/
structure TableBuilder where
  table : String
  checked : Bool := true
  definition : TableDef := {}
  constraintName : Option String := none
  deriving Inhabited

namespace TableBuilder

/-- The place of the last column. -/
def lastPosition (b : TableBuilder) : Nat := b.definition.columns.length - 1

/-- Changes the last column. -/
def updateLast (b : TableBuilder) (f : ColumnDef → ColumnDef) : TableBuilder :=
  let cols := b.definition.columns
  { b with definition := { b.definition with
      columns := cols.take (cols.length - 1) ++ (cols.drop (cols.length - 1)).map f } }

/-- The last column. -/
def last (b : TableBuilder) : ColumnDef := b.definition.columns.getLast?.getD default

/-- The place of the column of a name. -/
def position? (b : TableBuilder) (name : String) : Option Nat :=
  b.definition.columns.findIdx? (sameName ·.name name)

/-- Whether two key columns are the same column under the same collation. -/
def sameKeyColumn (b : TableBuilder) (x y : KeyColumn) : Bool :=
  let collationOf (c : KeyColumn) := c.collation.getD
    (((b.definition.columns[c.position]?).bind (·.collation)).getD "BINARY")
  x.position == y.position && sameName (collationOf x) (collationOf y)

end TableBuilder

/-- Whether a token may follow a column's name and type: a constraint, or the end of the column
(`endings`). -/
def Token.followsColumnType (endings : List String) (t : Token) : Bool :=
  endings.any t.isPunct ||
    (t.keyword?.map fun kw => ["CONSTRAINT", "DEFAULT", "NULL", "NOT", "PRIMARY", "UNIQUE",
      "CHECK", "REFERENCES", "COLLATE", "GENERATED", "AS", "DEFERRABLE"].contains kw).getD false

/-- Whether a token starts a table constraint. -/
def Token.startsTableConstraint (t : Token) : Bool :=
  (t.keyword?.map fun kw => ["CONSTRAINT", "PRIMARY", "UNIQUE", "CHECK", "FOREIGN"].contains kw).getD
    false

namespace Parser

/-- An optional `ON CONFLICT` clause. -/
def conflictClause : Parser (Option Conflict) := do
  if ← eatKeyword "ON" then
    expectKeyword "CONFLICT"
    if ← eatKeyword "ROLLBACK" then pure (some .rollback)
    else if ← eatKeyword "ABORT" then pure (some .abort)
    else if ← eatKeyword "FAIL" then pure (some .fail)
    else if ← eatKeyword "IGNORE" then pure (some .ignore)
    else if ← eatKeyword "REPLACE" then pure (some .replace)
    else fail
  else pure none

/-- An optional `ASC` or `DESC`: whether descending. -/
def sortOrder : Parser Bool := do
  if ← eatKeyword "DESC" then pure true
  else
    let _ ← eatKeyword "ASC"
    pure false

/-- Adds the column just read, once a token that may follow its type is seen; its name must not
repeat an earlier column's. -/
def addColumn (b : TableBuilder) (name typeName : String) : Parser TableBuilder := do
  if b.checked && b.definition.columns.any (sameName ·.name name) then
    refuse ("duplicate column name: " ++ name)
  pure { b with
    definition := { b.definition with columns := b.definition.columns ++ [{ name, typeName }] }
    constraintName := none }

/-- Marks columns as part of the primary key; a generated column may not be. -/
def markPrimary (b : TableBuilder) (positions : List Nat) : Parser TableBuilder := do
  let cols := b.definition.columns
  if positions.any fun i => ((cols[i]?).bind (·.generated)).isSome then
    refuse "generated columns cannot be part of the PRIMARY KEY"
  let cols := cols.mapIdx fun i c => if positions.contains i then { c with inPrimaryKey := true }
    else c
  pure { b with definition := { b.definition with columns := cols } }

/-- The columns of a key as written: each must be a column of the table (a text names one), not
an expression, and its collation must exist. -/
def keyColumns (b : TableBuilder) : List (Expr × Bool) → Parser (List KeyColumn)
  | [] => pure []
  | (e, descending) :: rest => do
    let (inner, collation) := e.collationSplit
    let inner := match inner with
      | .literal (.text s) => Expr.column none none s 0 false
      | other => other
    for (qualifier, name, offset) in inner.references do
      let known := (b.position? name).isSome &&
        (qualifier.map (sameName · b.table)).getD true
      if !known then
        let shown := match qualifier with
          | some q => q ++ "." ++ name
          | none => name
        refuse ("no such column: " ++ shown) (some offset)
    let position ← match inner with
      | .column _ _ name _ _ =>
        match b.position? name with
        | some i => pure i
        | none => refuse "expressions prohibited in PRIMARY KEY and UNIQUE constraints"
      | _ => refuse "expressions prohibited in PRIMARY KEY and UNIQUE constraints"
    let effective := collation.getD
      (((b.definition.columns[position]?).bind (·.collation)).getD "BINARY")
    if !knownCollation effective then refuse ("no such collation sequence: " ++ effective)
    let tail ← keyColumns b rest
    pure ({ position, collation, descending } :: tail)

/-- Adds a key. A key over the same columns as an earlier one is that key: it takes the
conflict action of whichever names one, and two that name different actions are refused. -/
def addKey (b : TableBuilder) (key : KeyDef) : Parser TableBuilder := do
  let same (k : KeyDef) := k.columns.length == key.columns.length &&
    (k.columns.zip key.columns).all fun (x, y) => b.sameKeyColumn x y
  match b.definition.keys.find? same with
  | some earlier =>
    match earlier.conflict, key.conflict with
    | some x, some y =>
      if x != y then refuse "conflicting ON CONFLICT clauses specified"
    | _, _ => pure ()
    let merged : KeyDef := { earlier with
      conflict := earlier.conflict.or key.conflict
      primary := earlier.primary || key.primary }
    let keys := b.definition.keys.map fun k => if same k then merged else k
    pure { b with definition := { b.definition with keys } }
  | none => pure { b with definition := { b.definition with keys := key :: b.definition.keys } }

/-- Declares the primary key: over the last column (`none`) or over the columns listed. A single
column declared `INTEGER` and not descending becomes the row id; otherwise the key is a unique
key, and `AUTOINCREMENT` is refused. -/
def addPrimaryKey (b : TableBuilder) (listed : Option (List (Expr × Bool)))
    (conflict : Option Conflict) (autoincrement descending : Bool) : Parser TableBuilder := do
  if !b.checked then return b
  if b.definition.hasPrimaryKey then
    refuse ("table \"" ++ b.table ++ "\" has more than one primary key")
  let b := { b with definition := { b.definition with hasPrimaryKey := true } }
  let named : List Nat := match listed with
    | none => [b.lastPosition]
    | some items => items.filterMap fun (e, _) =>
      match e.collationSplit.1 with
      | .column none none n _ _ => b.position? n
      | .literal (.text n) => b.position? n
      | _ => none
  let b ← markPrimary b named
  let terms := match listed with
    | none => 1
    | some items => items.length
  let single : Option Nat := if terms == 1 then named.head? else none
  let integerColumn := match single with
    | some i => ((b.definition.columns[i]?).map (sameName "INTEGER" ·.typeName)).getD false
    | none => false
  if integerColumn && !descending then
    pure { b with definition := { b.definition with
      rowidColumn := single.map fun i => (i, conflict, autoincrement) } }
  else if autoincrement then
    refuse "AUTOINCREMENT is only allowed on an INTEGER PRIMARY KEY"
  else
    let columns ← match listed with
      | none => pure [{ position := b.lastPosition, descending }]
      | some items => keyColumns b items
    addKey b { columns, conflict, primary := true }

/-- Declares a unique key: over the last column (`none`) or over the columns listed. -/
def addUnique (b : TableBuilder) (listed : Option (List (Expr × Bool)))
    (conflict : Option Conflict) : Parser TableBuilder := do
  if !b.checked then return b
  let columns ← match listed with
    | none => pure [{ position := b.lastPosition }]
    | some items => keyColumns b items
  let b := match listed with
    | none => b.updateLast fun c => { c with unique := true }
    | some _ => b
  addKey b { columns, conflict }

/-- Adds a `CHECK` constraint, named by a pending `CONSTRAINT` name or else by its text. -/
def addCheck (b : TableBuilder) (e : Expr) (text : String) : TableBuilder :=
  if !b.checked then b
  else { b with definition := { b.definition with
    checks := b.definition.checks ++ [{ name := b.constraintName, expr := e, text }] } }

/-- Reads the items of a key, `expr [COLLATE name] [ASC|DESC]`, up to the closing parenthesis. -/
def keyItems : Nat → Parser (List (Expr × Bool))
  | 0 => throw .exhausted
  | fuel + 1 => do
    let e ← expr fuel
    let descending ← sortOrder
    if ← eatKeyword "NULLS" then
      if !(← eatKeyword "FIRST") then expectKeyword "LAST"
    if ← eatPunct "," then
      let rest ← keyItems fuel
      pure ((e, descending) :: rest)
    else pure [(e, descending)]

/-- A foreign key action after `ON DELETE` or `ON UPDATE`. -/
def foreignKeyAction : Parser ForeignKeyAction := do
  if ← eatKeyword "SET" then
    if ← eatKeyword "NULL" then pure .setNull
    else
      expectKeyword "DEFAULT"
      pure .setDefault
  else if ← eatKeyword "CASCADE" then pure .cascade
  else if ← eatKeyword "RESTRICT" then pure .restrict
  else
    expectKeyword "NO"
    expectKeyword "ACTION"
    pure .noAction

/-- The clauses after a foreign key's parent: `MATCH name`, `ON INSERT|DELETE|UPDATE action`. -/
def foreignKeyClauses : Nat → ForeignKey → Parser ForeignKey
  | 0, _ => throw .exhausted
  | fuel + 1, fk => do
    if ← eatKeyword "MATCH" then
      let _ ← nm
      foreignKeyClauses fuel fk
    else if ← eatKeyword "ON" then
      if ← eatKeyword "INSERT" then
        let _ ← foreignKeyAction
        foreignKeyClauses fuel fk
      else if ← eatKeyword "DELETE" then
        let a ← foreignKeyAction
        foreignKeyClauses fuel { fk with onDelete := a }
      else
        expectKeyword "UPDATE"
        let a ← foreignKeyAction
        foreignKeyClauses fuel { fk with onUpdate := a }
    else pure fk

/-- An optional `INITIALLY DEFERRED|IMMEDIATE`: whether deferred. -/
def initially : Parser Bool := do
  if ← eatKeyword "INITIALLY" then
    if ← eatKeyword "DEFERRED" then pure true
    else
      expectKeyword "IMMEDIATE"
      pure false
  else pure false

/-- Marks the newest foreign key deferred or not. -/
def deferLast (b : TableBuilder) (deferred : Bool) : TableBuilder :=
  let fks := b.definition.foreignKeys
  { b with definition := { b.definition with
      foreignKeys := fks.take (fks.length - 1) ++
        (fks.drop (fks.length - 1)).map fun fk => { fk with deferred } } }

/-- The parent of a foreign key and its clauses, after `REFERENCES`: with the parent's token. -/
def reference (fuel : Nat) : Parser (ForeignKey × Token) := do
  let (parent, token) ← nameBy Token.nmName?
  let parentColumns ← if ← eatPunct "(" then columnNames fuel else pure []
  let fk ← foreignKeyClauses fuel { columns := [], parent, parentColumns }
  pure (fk, token)

/-- The default value after `DEFAULT`: a literal, a signed literal, a name (read as text) or an
expression in parentheses. -/
def defaultValue (fuel : Nat) : Parser Expr := do
  let some t ← peek | throw .incomplete
  let literal : Parser Expr := do
    let some u ← peek | throw .incomplete
    match u.kind with
    | .integer _ | .hex _ | .real _ | .string _ | .blob _ => operand fuel
    | .word w =>
      match keywordOf? w with
      | some "NULL" | some "CURRENT_TIME" | some "CURRENT_DATE" | some "CURRENT_TIMESTAMP" =>
        operand fuel
      | _ => fail
    | _ => fail
  if t.isPunct "(" then
    advance
    let e ← expr fuel
    expectPunct ")"
    pure e
  else if t.isPunct "+" then
    advance
    literal
  else if t.isPunct "-" then
    match ← peekSecond with
    | some u =>
      match u.kind with
      | .integer _ | .hex _ | .real _ => operand fuel
      | _ =>
        advance
        .neg <$> literal
    | none =>
      advance
      throw .incomplete
  else
    match t.kind with
    | .word w =>
      match keywordOf? w with
      | some "NULL" | some "CURRENT_TIME" | some "CURRENT_DATE" | some "CURRENT_TIMESTAMP" =>
        literal
      | _ =>
        match t.idName? with
        | some n =>
          advance
          if sameName n "true" then pure (.literal (.integer 1))
          else if sameName n "false" then pure (.literal (.integer 0))
          else pure (.literal (.text n))
        | none => fail
    | .quotedName n _ =>
      advance
      pure (.literal (.text n))
    | _ => literal

/-- The constraints of the column just added. -/
def columnConstraints : Nat → TableBuilder → Parser TableBuilder
  | 0, _ => throw .exhausted
  | fuel + 1, b => do
    let some t ← peek | pure b
    match t.keyword? with
    | some "CONSTRAINT" =>
      advance
      let name ← nm
      columnConstraints fuel { b with constraintName := some name }
    | some "DEFAULT" =>
      advance
      let e ← defaultValue fuel
      let col := b.last
      if b.checked then
        if !e.isConstantOrCall then
          refuse ("default value of column [" ++ col.name ++ "] is not constant")
        if col.generated.isSome then refuse "cannot use DEFAULT on a generated column"
      columnConstraints fuel (b.updateLast fun c => { c with default := some e })
    | some "NULL" =>
      advance
      let _ ← conflictClause
      columnConstraints fuel b
    | some "NOT" =>
      advance
      if ← eatKeyword "NULL" then
        let conflict ← conflictClause
        columnConstraints fuel
          (b.updateLast fun c => { c with notNull := true, notNullConflict := conflict })
      else
        expectKeyword "DEFERRABLE"
        let _ ← initially
        columnConstraints fuel (deferLast b false)
    | some "DEFERRABLE" =>
      advance
      let deferred ← initially
      columnConstraints fuel (deferLast b deferred)
    | some "PRIMARY" =>
      advance
      expectKeyword "KEY"
      let descending ← sortOrder
      let conflict ← conflictClause
      let autoincrement ← eatKeyword "AUTOINCREMENT"
      let b ← addPrimaryKey b none conflict autoincrement descending
      columnConstraints fuel b
    | some "UNIQUE" =>
      advance
      let conflict ← conflictClause
      let b ← addUnique b none conflict
      columnConstraints fuel b
    | some "CHECK" =>
      advance
      let open_ ← next
      if !open_.isPunct "(" then throw (failAt [open_])
      let e ← expr fuel
      let stop ← position
      expectPunct ")"
      let text ← textBetween (open_.offset + 1) stop
      columnConstraints fuel (addCheck b e text)
    | some "REFERENCES" =>
      advance
      let (fk, parentToken) ← reference fuel
      let col := b.last
      if b.checked && fk.parentColumns.length > 1 then
        refuse ("foreign key on " ++ col.name ++ " should reference only one column of table " ++
          parentToken.written) (some parentToken.offset)
      let b := if b.checked then { b with definition := { b.definition with
          foreignKeys := b.definition.foreignKeys ++ [{ fk with columns := [col.name] }] } }
        else b
      columnConstraints fuel b
    | some "COLLATE" =>
      advance
      let name ← ids
      if b.checked && !knownCollation name then refuse ("no such collation sequence: " ++ name)
      columnConstraints fuel (b.updateLast fun c => { c with collation := some name })
    | some "GENERATED" | some "AS" =>
      if t.isKeyword "GENERATED" then
        advance
        expectKeyword "ALWAYS"
      expectKeyword "AS"
      expectPunct "("
      let e ← expr fuel
      expectPunct ")"
      let kind ← match ← peek with
        | some u =>
          match u.idName? with
          | some w =>
            advance
            pure (some w)
          | none => pure none
        | none => pure none
      let col := b.last
      let stored := (kind.map (sameName "stored")).getD false
      if b.checked then
        let known := (kind.map fun w => sameName w "stored" || sameName w "virtual").getD true
        if col.default.isSome || !known then
          refuse ("error in generated column \"" ++ col.name ++ "\"")
        if col.inPrimaryKey then refuse "generated columns cannot be part of the PRIMARY KEY"
      columnConstraints fuel (b.updateLast fun c => { c with generated := some (e, stored) })
    | _ => pure b

/-- A column definition: its name, its type and its constraints. The column is added once the
token after its type may follow it (`endings`, or a constraint); a statement that ends there
adds it when `atEnd`. -/
def columnDef (fuel : Nat) (b : TableBuilder) (endings : List String) (atEnd : Bool) :
    Parser TableBuilder := do
  let name ← nm
  let typeName ← typeName fuel
  let follows ← match ← peek with
    | some t => pure (t.followsColumnType endings || (atEnd && t.isSemicolon))
    | none => pure atEnd
  if !follows then fail
  let b ← addColumn b name typeName
  columnConstraints fuel b

/-- One table constraint. -/
def tableConstraint (fuel : Nat) (b : TableBuilder) : Parser TableBuilder := do
  let t ← next
  match t.keyword? with
  | some "CONSTRAINT" =>
    let name ← nm
    pure { b with constraintName := some name }
  | some "PRIMARY" =>
    expectKeyword "KEY"
    expectPunct "("
    let items ← keyItems fuel
    let autoincrement ← eatKeyword "AUTOINCREMENT"
    expectPunct ")"
    let conflict ← conflictClause
    addPrimaryKey b (some items) conflict autoincrement false
  | some "UNIQUE" =>
    expectPunct "("
    let items ← keyItems fuel
    expectPunct ")"
    let conflict ← conflictClause
    addUnique b (some items) conflict
  | some "CHECK" =>
    let open_ ← next
    if !open_.isPunct "(" then throw (failAt [open_])
    let e ← expr fuel
    let stop ← position
    expectPunct ")"
    let text ← textBetween (open_.offset + 1) stop
    let _ ← conflictClause
    pure (addCheck b e text)
  | some "FOREIGN" =>
    expectKeyword "KEY"
    expectPunct "("
    let columns ← columnNames fuel
    expectKeyword "REFERENCES"
    let (fk, _) ← reference fuel
    let deferred ← if ← eatKeyword "DEFERRABLE" then initially
      else if ← atKeyword "NOT" then
        advance
        expectKeyword "DEFERRABLE"
        let _ ← initially
        pure false
      else pure false
    if !b.checked then return b
    if !fk.parentColumns.isEmpty && fk.parentColumns.length != columns.length then
      refuse ("number of columns in foreign key does not match the number of columns in the " ++
        "referenced table")
    match columns.find? fun c => (b.position? c).isNone with
    | some c => refuse ("unknown column \"" ++ c ++ "\" in foreign key definition")
    | none => pure ()
    pure { b with definition := { b.definition with
      foreignKeys := b.definition.foreignKeys ++ [{ fk with columns, deferred }] } }
  | _ => throw (failAt [t])

/-- Table constraints up to the closing parenthesis; a comma between two is optional, and ends
the reach of a `CONSTRAINT` name. -/
def tableConstraints : Nat → TableBuilder → Parser TableBuilder
  | 0, _ => throw .exhausted
  | fuel + 1, b => do
    let b ← tableConstraint fuel b
    if ← eatPunct ")" then pure b
    else if ← eatPunct "," then tableConstraints fuel { b with constraintName := none }
    else
      match ← peek with
      | some t => if t.startsTableConstraint then tableConstraints fuel b else fail
      | none => throw .incomplete

/-- Column definitions, then table constraints, up to the closing parenthesis. -/
def tableColumns : Nat → TableBuilder → Parser TableBuilder
  | 0, _ => throw .exhausted
  | fuel + 1, b => do
    let b ← columnDef fuel b [",", ")"] false
    if ← eatPunct ")" then pure b
    else
      expectPunct ","
      match ← peek with
      | some t =>
        if t.startsTableConstraint then tableConstraints fuel { b with constraintName := none }
        else tableColumns fuel b
      | none => throw .incomplete

/-- One table option: `WITHOUT ROWID` or `STRICT`; an unknown one is refused. -/
def tableOption (b : TableBuilder) : Parser TableBuilder := do
  if ← eatKeyword "WITHOUT" then
    let (_, u) ← nameBy Token.nmName?
    if b.checked && !sameName u.written "rowid" then
      refuse ("unknown table option: " ++ u.written)
    pure { b with definition := { b.definition with withoutRowid := true } }
  else
    let (_, t) ← nameBy Token.nmName?
    if b.checked && !sameName t.written "strict" then
      refuse ("unknown table option: " ++ t.written)
    pure { b with definition := { b.definition with strict := true } }

/-- The options after a table's definition, separated by commas. -/
def tableOptions : Nat → TableBuilder → Parser TableBuilder
  | 0, _ => throw .exhausted
  | fuel + 1, b => do
    let some t ← peek | pure b
    if t.isKeyword "WITHOUT" || t.nmName?.isSome then
      let b ← tableOption b
      if ← eatPunct "," then tableOptions fuel b
      else pure b
    else pure b

/-- The body of `CREATE TABLE` after its opening parenthesis: columns, constraints and options. -/
def tableBody (fuel : Nat) (b : TableBuilder) : Parser TableDef := do
  let b ← tableColumns fuel b
  let b ← tableOptions fuel b
  pure b.definition

/-- The column of `ALTER TABLE … ADD [COLUMN]`, checked against the table's columns: the column
with the keys, checks and foreign keys its constraints declare. -/
def addedColumn (fuel : Nat) (table : String) (existing : List String) : Parser TableDef := do
  let b : TableBuilder := { table, definition := { columns := existing.map fun name => { name } } }
  let b ← columnDef fuel b [] true
  let d := b.definition
  pure { d with columns := d.columns.drop existing.length }

end Parser

end Schedule.Sql
