import Schedule.Sql.Parser.Table

/-!
# Reading statements

One statement of a script: its kind from its first words, then its clauses. Besides the checks
made while a table definition is read (`Schedule.Sql.Parser.Table`), three statements consult
the database while they are read:

* `CREATE TABLE` checks its name once the parenthesis or `AS` after it is seen: the schema is
  known, a temporary table is not put in another schema, the name is not reserved, and no
  table, view or index of the schema has it;
* `CREATE TRIGGER` checks its table and name once `BEGIN` is seen;
* `ALTER TABLE … ADD` checks its table once `ADD` is seen.

Every other check waits until the statement is read whole.

## Main definitions

* `Parser.statement` — one statement.
* `parseStatement` — one statement from the front of a token list, with the tokens after it.
-/

namespace Schedule.Sql

namespace Parser

/-- An optional `IF NOT EXISTS`. -/
def ifNotExists : Parser Bool := do
  if ← eatKeyword "IF" then
    expectKeyword "NOT"
    expectKeyword "EXISTS"
    pure true
  else pure false

/-- An optional `IF EXISTS`. -/
def ifExists : Parser Bool := do
  if ← eatKeyword "IF" then
    expectKeyword "EXISTS"
    pure true
  else pure false

/-- The schema a new object goes to: temporary or not. Refuses an unknown schema, at its name. -/
def schemaOf (t : TableName) : Parser (Option Bool) := do
  match t.schemaChoice, t.schema with
  | none, some (_, token) => refuse ("unknown database " ++ token.written) (some token.offset)
  | some (some temporary), _ => pure (some temporary)
  | _, _ => pure none

/-- Whether a name is reserved for the database's own objects. -/
def reservedName (name : String) : Bool :=
  sameName (String.ofList (name.toList.take 7)) "sqlite_"

/-- The checks once `CREATE TABLE` has named its table. Gives whether the table is to be made,
which it is not when it exists and the statement says `IF NOT EXISTS`. -/
def checkNewTable (t : TableName) (temporary ifNotExists : Bool) : Parser Bool := do
  let schema ← schemaOf t
  if temporary && schema == some false then refuse "temporary table name must be unqualified"
  let inTemporary := temporary || schema == some true
  if reservedName t.name then refuse ("object name reserved for internal use: " ++ t.name)
  let catalog := (← get).catalog
  let isTable := catalog.hasTable inTemporary t.name
  if isTable || catalog.hasView inTemporary t.name then
    if ifNotExists then return false
    refuse ((if isTable then "table " else "view ") ++ t.token.written ++ " already exists")
      (some t.token.offset)
  if catalog.hasIndex inTemporary t.name then
    refuse ("there is already an index named " ++ t.name)
  pure true

/-- `CREATE [TEMP] TABLE`, after `TABLE`. -/
def createTable (fuel : Nat) (temporary : Bool) : Parser Statement := do
  let ifNotExists ← ifNotExists
  let table ← tableName
  let made ← if (← atPunct "(") || (← atKeyword "AS") then checkNewTable table temporary ifNotExists
    else pure true
  let inTemporary := temporary || table.schemaChoice == some (some true)
  if ← eatKeyword "AS" then
    let q ← query fuel
    pure (if made then .createTableAs table inTemporary ifNotExists q else .noEffect)
  else
    expectPunct "("
    let definition ← tableBody fuel { table := table.name, checked := made }
    pure (if made then .createTable table inTemporary ifNotExists definition else .noEffect)

/-- The columns of an index, `expr [COLLATE name] [ASC|DESC]`, up to the closing parenthesis. -/
def indexColumns (fuel : Nat) : Parser (List IndexedColumn) := do
  let items ← keyItems fuel
  expectPunct ")"
  pure (items.map fun (e, descending) =>
    let (inner, collation) := e.collationSplit
    { expr := inner, collation, descending })

/-- `CREATE [UNIQUE] INDEX`, after `INDEX`. -/
def createIndex (fuel : Nat) (unique : Bool) : Parser Statement := do
  let ifNotExists ← ifNotExists
  let index ← tableName
  expectKeyword "ON"
  let (table, tableToken) ← nameBy Token.nmName?
  expectPunct "("
  let columns ← indexColumns fuel
  let filter ← if ← eatKeyword "WHERE" then some <$> expr fuel else pure none
  pure (.createIndex index unique ifNotExists table tableToken columns filter)

/-- `CREATE [TEMP] VIEW`, after `VIEW`. -/
def createView (fuel : Nat) (temporary : Bool) : Parser Statement := do
  let ifNotExists ← ifNotExists
  let view ← tableName
  let columns ← if ← eatPunct "(" then columnNames fuel else pure []
  expectKeyword "AS"
  let q ← query fuel
  pure (.createView view temporary ifNotExists columns q)

/-- An optional `OR <conflict action>` after `INSERT` or `UPDATE`. -/
def orConflict : Parser (Option Conflict) := do
  if ← eatKeyword "OR" then
    if ← eatKeyword "ROLLBACK" then pure (some .rollback)
    else if ← eatKeyword "ABORT" then pure (some .abort)
    else if ← eatKeyword "REPLACE" then pure (some .replace)
    else if ← eatKeyword "FAIL" then pure (some .fail)
    else if ← eatKeyword "IGNORE" then pure (some .ignore)
    else fail
  else pure none

/-- The table an insert, update or delete changes, with an optional alias. -/
def targetTable : Parser TableName := do
  let t ← tableName
  if ← eatKeyword "AS" then
    let label ← nm
    pure { t with label := some label }
  else pure t

/-- The assignments of `SET`: `name = expr` or `(names) = expr`, separated by commas. -/
def assignments : Nat → Parser (List Assignment)
  | 0 => throw .exhausted
  | fuel + 1 => do
    let columns ← if ← eatPunct "(" then nameList fuel else (fun n => [n]) <$> nm
    expectPunct "="
    let value ← expr fuel
    let a : Assignment := { columns, value }
    if ← eatPunct "," then
      let rest ← assignments fuel
      pure (a :: rest)
    else pure [a]

/-- An optional `RETURNING` clause. -/
def returning (fuel : Nat) : Parser (List Projection) := do
  if ← eatKeyword "RETURNING" then projections fuel else pure []

/-- The `ON CONFLICT` clauses of an insert, and its `RETURNING` clause. -/
def upserts : Nat → Parser (List Upsert × List Projection)
  | 0 => throw .exhausted
  | fuel + 1 => do
    if ← eatKeyword "ON" then
      expectKeyword "CONFLICT"
      let target ← if ← eatPunct "(" then
          let items ← keyItems fuel
          expectPunct ")"
          let filter ← if ← eatKeyword "WHERE" then some <$> expr fuel else pure none
          let columns := items.map fun (e, descending) =>
            let (inner, collation) := e.collationSplit
            ({ expr := inner, collation, descending } : IndexedColumn)
          pure (some (columns, filter))
        else pure none
      expectKeyword "DO"
      let action ← if ← eatKeyword "NOTHING" then pure UpsertAction.nothing
        else
          expectKeyword "UPDATE"
          expectKeyword "SET"
          let sets ← assignments fuel
          let filter ← if ← eatKeyword "WHERE" then some <$> expr fuel else pure none
          pure (UpsertAction.update sets filter)
      let u : Upsert := { target, action }
      if target.isSome then
        let (rest, ret) ← upserts fuel
        pure (u :: rest, ret)
      else
        let ret ← returning fuel
        pure ([u], ret)
    else
      let ret ← returning fuel
      pure ([], ret)

/-- An insert after its `INSERT [OR …]` or `REPLACE`; in a trigger (`inTrigger`) the table may
not be qualified and there is neither `DEFAULT VALUES` nor `RETURNING`. -/
def insertRest (fuel : Nat) (recursive : Bool) (ctes : List CommonTable) (conflict : Conflict)
    (inTrigger : Bool) : Parser Statement := do
  expectKeyword "INTO"
  let table ← if inTrigger then tableName else targetTable
  let columns ← if ← eatPunct "(" then some <$> nameList fuel else pure none
  if !inTrigger && (← eatKeyword "DEFAULT") then
    expectKeyword "VALUES"
    let ret ← returning fuel
    pure (.insert recursive ctes table conflict columns .defaults [] ret)
  else
    let q ← query fuel
    let (ups, ret) ← upserts fuel
    if inTrigger then
      if table.schema.isSome then
        refuse ("qualified table names are not allowed on INSERT, UPDATE, and DELETE " ++
          "statements within triggers")
      if !ret.isEmpty then refuse "cannot use RETURNING in a trigger"
    pure (.insert recursive ctes table conflict columns (.query q) ups ret)

/-- An optional `INDEXED BY name` or `NOT INDEXED` after a table; refused in a trigger. -/
def indexedBy (inTrigger : Bool) : Parser Unit := do
  if ← eatKeyword "INDEXED" then
    expectKeyword "BY"
    let _ ← nm
    if inTrigger then
      refuse "the INDEXED BY clause is not allowed on UPDATE or DELETE statements within triggers"
  else if ← atKeyword "NOT" then
    advance
    expectKeyword "INDEXED"
    if inTrigger then
      refuse "the NOT INDEXED clause is not allowed on UPDATE or DELETE statements within triggers"

/-- Refuses a qualified table in a trigger's statement. -/
def unqualifiedInTrigger (inTrigger : Bool) (t : TableName) : Parser Unit := do
  if inTrigger && t.schema.isSome then
    refuse ("qualified table names are not allowed on INSERT, UPDATE, and DELETE " ++
      "statements within triggers")

/-- An update after `UPDATE`. -/
def updateRest (fuel : Nat) (recursive : Bool) (ctes : List CommonTable) (inTrigger : Bool) :
    Parser Statement := do
  let conflict ← orConflict
  let table ← if inTrigger then tableName else targetTable
  unqualifiedInTrigger inTrigger table
  indexedBy inTrigger
  expectKeyword "SET"
  let sets ← assignments fuel
  let source ← if ← eatKeyword "FROM" then some <$> Parser.source fuel else pure none
  let filter ← if ← eatKeyword "WHERE" then some <$> expr fuel else pure none
  let ret ← if inTrigger then pure [] else returning fuel
  pure (.update recursive ctes table (conflict.getD .abort) sets source filter ret)

/-- A delete after `DELETE`. -/
def deleteRest (fuel : Nat) (recursive : Bool) (ctes : List CommonTable) (inTrigger : Bool) :
    Parser Statement := do
  expectKeyword "FROM"
  let table ← if inTrigger then tableName else targetTable
  unqualifiedInTrigger inTrigger table
  indexedBy inTrigger
  let filter ← if ← eatKeyword "WHERE" then some <$> expr fuel else pure none
  let ret ← if inTrigger then pure [] else returning fuel
  pure (.delete recursive ctes table filter ret)

/-- The statements of a trigger's body, each ended by a semicolon, up to `END`. -/
def triggerBody : Nat → Parser (List Statement)
  | 0 => throw .exhausted
  | fuel + 1 => do
    let some t ← peek | throw .incomplete
    let s ← match t.keyword? with
      | some "UPDATE" =>
        advance
        updateRest fuel false [] true
      | some "DELETE" =>
        advance
        deleteRest fuel false [] true
      | some "INSERT" =>
        advance
        let conflict ← orConflict
        insertRest fuel false [] (conflict.getD .abort) true
      | some "REPLACE" =>
        advance
        insertRest fuel false [] .replace true
      | _ => .select <$> query fuel
    let some u ← peek | throw .incomplete
    if !u.isSemicolon then fail
    advance
    if ← eatKeyword "END" then pure [s]
    else
      let rest ← triggerBody fuel
      pure (s :: rest)

/-- The checks once `CREATE TRIGGER` reaches `BEGIN`: the schema, the table, the name, and that
the time suits a table or a view. Gives whether the trigger is to be made. -/
def checkNewTrigger (trigger table : TableName) (temporary ifNotExists : Bool)
    (time : TriggerTime) : Parser Bool := do
  if temporary && trigger.schema.isSome then
    refuse "temporary trigger may not have qualified name"
  let schema ← schemaOf trigger
  let catalog := (← get).catalog
  let inSchema (tmp : Bool) := catalog.hasTable tmp table.name || catalog.hasView tmp table.name
  let tableSchema : Option Bool := match table.schemaChoice with
    | some (some tmp) => if inSchema tmp then some tmp else none
    | some none =>
      if temporary then
        if inSchema true then some true else if inSchema false then some false else none
      else
        match schema with
        | some tmp => if inSchema tmp then some tmp else none
        | none => if inSchema true then some true else if inSchema false then some false else none
    | none => none
  let some tableTemporary := tableSchema
    | refuse ("no such table: " ++ (if temporary then "" else
        (match table.schema with
          | some (s, _) => s
          | none => if schema == some true then "temp" else "main") ++ ".") ++ table.name)
  let inTemporary := temporary || schema == some true ||
    (trigger.schema.isNone && tableTemporary)
  if reservedName trigger.name then
    refuse ("object name reserved for internal use: " ++ trigger.name)
  if catalog.hasTrigger inTemporary trigger.name then
    if ifNotExists then return false
    refuse ("trigger " ++ trigger.token.written ++ " already exists") (some trigger.token.offset)
  if reservedName table.name then refuse "cannot create trigger on system table"
  let isView := catalog.hasView tableTemporary table.name
  if isView && time != .insteadOf then
    refuse ("cannot create " ++ (if time == .before then "BEFORE" else "AFTER") ++
      " trigger on view: " ++ table.shown)
  if !isView && time == .insteadOf then
    refuse ("cannot create INSTEAD OF trigger on table: " ++ table.shown)
  pure true

/-- `CREATE [TEMP] TRIGGER`, after `TRIGGER`. -/
def createTrigger (fuel : Nat) (temporary : Bool) : Parser Statement := do
  let ifNotExists ← ifNotExists
  let trigger ← tableName
  let time ← if ← eatKeyword "BEFORE" then pure TriggerTime.before
    else if ← eatKeyword "AFTER" then pure .after
    else if ← eatKeyword "INSTEAD" then
      expectKeyword "OF"
      pure .insteadOf
    else pure .before
  let event ← if ← eatKeyword "INSERT" then pure TriggerEvent.insert
    else if ← eatKeyword "DELETE" then pure .delete
    else
      expectKeyword "UPDATE"
      if ← eatKeyword "OF" then .update <$> nameList' fuel else pure (.update [])
  expectKeyword "ON"
  let table ← tableName
  if ← eatKeyword "FOR" then
    expectKeyword "EACH"
    expectKeyword "ROW"
  let condition ← if ← eatKeyword "WHEN" then some <$> expr fuel else pure none
  let some b ← peek | throw .incomplete
  if !b.isKeyword "BEGIN" then fail
  let made ← checkNewTrigger trigger table temporary ifNotExists time
  advance
  let body ← triggerBody fuel
  if made then pure (.createTrigger trigger temporary ifNotExists time event table condition body)
  else pure .noEffect
where
  /-- Names separated by commas, with no parentheses around them. -/
  nameList' : Nat → Parser (List String)
    | 0 => throw .exhausted
    | fuel + 1 => do
      let n ← nm
      if ← eatPunct "," then
        let rest ← nameList' fuel
        pure (n :: rest)
      else pure [n]

/-- The checks once `ALTER TABLE … ADD` is reached: the table exists, is not a view and is not
one of the database's own. Gives the table's columns. -/
def checkAlteredTable (t : TableName) : Parser (List String) := do
  let catalog := (← get).catalog
  match catalog.columns? t with
  | some cols =>
    if reservedName t.name then refuse ("table " ++ t.name ++ " may not be altered")
    pure cols
  | none =>
    let isView := match t.schemaChoice with
      | some none => catalog.hasView true t.name || catalog.hasView false t.name
      | some (some tmp) => catalog.hasView tmp t.name
      | none => false
    if isView then refuse "Cannot add a column to a view"
    refuse ("no such table: " ++ t.shown)

/-- `ALTER TABLE`, after `TABLE`. -/
def alterTable (fuel : Nat) : Parser Statement := do
  let table ← tableName
  if ← eatKeyword "RENAME" then
    if ← eatKeyword "TO" then
      let newName ← nm
      pure (.renameTable table newName)
    else
      let _ ← eatKeyword "COLUMN"
      let (old, oldToken) ← nameBy Token.nmName?
      expectKeyword "TO"
      let new ← nm
      pure (.renameColumn table old new oldToken)
  else if ← atKeyword "ADD" then
    let existing ← checkAlteredTable table
    advance
    let _ ← eatKeyword "COLUMN"
    let definition ← addedColumn fuel table.name existing
    pure (.addColumn table definition)
  else
    expectKeyword "DROP"
    let _ ← eatKeyword "COLUMN"
    let (column, token) ← nameBy Token.nmName?
    pure (.dropColumn table column token)

/-- A pragma's value: a signed number, a name, a text, or `ON`, `DELETE` or `DEFAULT`. -/
def pragmaValue : Parser PragmaValue := do
  let negative ← if ← eatPunct "-" then pure true
    else
      let _ ← eatPunct "+"
      pure false
  let some t ← peek | throw .incomplete
  match t.kind with
  | .integer _ | .hex _ | .real _ =>
    advance
    pure (.number negative t.written)
  | _ =>
    if negative then fail
    else if t.isKeyword "ON" || t.isKeyword "DELETE" || t.isKeyword "DEFAULT" then
      advance
      pure (.name t.written)
    else
      match t.nmName? with
      | some n =>
        advance
        pure (.name n)
      | none => fail

/-- `PRAGMA`, after the word. -/
def pragma : Parser Statement := do
  let t ← tableName
  if ← eatPunct "=" then
    let v ← pragmaValue
    pure (.pragma t.name (some v))
  else if ← eatPunct "(" then
    let v ← pragmaValue
    expectPunct ")"
    pure (.pragma t.name (some v))
  else pure (.pragma t.name none)

/-- An optional `TRANSACTION [name]`. -/
def transactionWord : Parser Unit := do
  if ← eatKeyword "TRANSACTION" then
    match ← peek with
    | some t =>
      if t.nmName?.isSome then advance
    | none => pure ()

/-- An optional `[schema.]name` after `ANALYZE` or `REINDEX`. -/
def optionalTarget : Parser (Option TableName) := do
  match ← peek with
  | some t => if t.nmName?.isSome then some <$> tableName else pure none
  | none => pure none

/-- A statement that may start with a `WITH` clause. -/
def withStatement (fuel : Nat) : Parser Statement := do
  let saved ← get
  advance
  let recursive ← eatKeyword "RECURSIVE"
  let ctes ← commonTables fuel
  if ← eatKeyword "INSERT" then
    let conflict ← orConflict
    insertRest fuel recursive ctes (conflict.getD .abort) false
  else if ← eatKeyword "REPLACE" then insertRest fuel recursive ctes .replace false
  else if ← eatKeyword "UPDATE" then updateRest fuel recursive ctes false
  else if ← eatKeyword "DELETE" then deleteRest fuel recursive ctes false
  else
    set saved
    .select <$> query fuel

/-- A statement, without `EXPLAIN`. -/
def command (fuel : Nat) : Parser Statement := do
  let some t ← peek | throw .incomplete
  match t.keyword? with
  | some "SELECT" | some "VALUES" => .select <$> query fuel
  | some "WITH" => withStatement fuel
  | some "CREATE" =>
    advance
    let temporary ← eatKeyword "TEMP" <||> eatKeyword "TEMPORARY"
    if ← eatKeyword "TABLE" then createTable fuel temporary
    else if ← eatKeyword "VIEW" then createView fuel temporary
    else if ← eatKeyword "TRIGGER" then createTrigger fuel temporary
    else if temporary then fail
    else if ← eatKeyword "INDEX" then createIndex fuel false
    else if ← eatKeyword "UNIQUE" then
      expectKeyword "INDEX"
      createIndex fuel true
    else fail
  | some "INSERT" =>
    advance
    let conflict ← orConflict
    insertRest fuel false [] (conflict.getD .abort) false
  | some "REPLACE" =>
    advance
    insertRest fuel false [] .replace false
  | some "UPDATE" =>
    advance
    updateRest fuel false [] false
  | some "DELETE" =>
    advance
    deleteRest fuel false [] false
  | some "DROP" =>
    advance
    if ← eatKeyword "TABLE" then
      let e ← ifExists
      (Statement.dropTable · e) <$> tableName
    else if ← eatKeyword "VIEW" then
      let e ← ifExists
      (Statement.dropView · e) <$> tableName
    else if ← eatKeyword "INDEX" then
      let e ← ifExists
      (Statement.dropIndex · e) <$> tableName
    else
      expectKeyword "TRIGGER"
      let e ← ifExists
      (Statement.dropTrigger · e) <$> tableName
  | some "ALTER" =>
    advance
    expectKeyword "TABLE"
    alterTable fuel
  | some "BEGIN" =>
    advance
    let _ ← eatKeyword "DEFERRED" <||> eatKeyword "IMMEDIATE" <||> eatKeyword "EXCLUSIVE"
    transactionWord
    pure .begin
  | some "COMMIT" | some "END" =>
    advance
    transactionWord
    pure .commit
  | some "ROLLBACK" =>
    advance
    transactionWord
    if ← eatKeyword "TO" then
      let _ ← eatKeyword "SAVEPOINT"
      .rollbackTo <$> nm
    else pure .rollback
  | some "SAVEPOINT" =>
    advance
    .savepoint <$> nm
  | some "RELEASE" =>
    advance
    let _ ← eatKeyword "SAVEPOINT"
    .release <$> nm
  | some "PRAGMA" =>
    advance
    pragma
  | some "VACUUM" =>
    advance
    let schema ← match ← peek with
      | some u =>
        if u.nmName?.isSome && !u.isKeyword "INTO" then
          advance
          pure (some u)
        else pure none
      | none => pure none
    if ← eatKeyword "INTO" then
      let _ ← expr fuel
    pure (.vacuum schema)
  | some "ANALYZE" =>
    advance
    .analyze <$> optionalTarget
  | some "REINDEX" =>
    advance
    .reindex <$> optionalTarget
  | some "ATTACH" =>
    advance
    let _ ← eatKeyword "DATABASE"
    let _ ← expr fuel
    expectKeyword "AS"
    let _ ← expr fuel
    if ← eatKeyword "KEY" then
      let _ ← expr fuel
    pure .noEffect
  | some "DETACH" =>
    advance
    let _ ← eatKeyword "DATABASE"
    let e ← expr fuel
    match e with
    | .column none none n _ _ => pure (.detach n)
    | .literal (.text n) => pure (.detach n)
    | _ => pure (.detach "")
  | _ => fail

/-- A statement, possibly under `EXPLAIN [QUERY PLAN]`. -/
def statement (fuel : Nat) : Parser Statement := do
  if ← eatKeyword "EXPLAIN" then
    if ← eatKeyword "QUERY" then expectKeyword "PLAN"
    .explain <$> command fuel
  else command fuel

end Parser

/-- One statement from the front of a token list, read against a catalog, and the tokens after
its semicolon; none for an empty statement. The statement must end at a semicolon or at the
end of the tokens. Every token allows a bounded number of parser steps, so fuel proportional to
the number of tokens suffices. -/
def parseStatement (catalog : Catalog) (source : List Char) (ts : List Token) :
    Except ParseError (Option Statement × List Token) :=
  match ts with
  | [] => .ok (none, [])
  | t :: rest =>
    match t.kind with
    | .semicolon => .ok (none, rest)
    | .illegal => .error (.unrecognized t)
    | _ => do
      let (s, state) ← (Parser.statement (10 * ts.length + 10)).run
        { tokens := ts, source, catalog }
      match state.tokens with
      | [] => .ok (some s, [])
      | u :: more =>
        match u.kind with
        | .semicolon => .ok (some s, more)
        | _ => .error (failAt state.tokens)

end Schedule.Sql
