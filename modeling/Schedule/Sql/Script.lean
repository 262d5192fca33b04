import Schedule.Sql.Define
import Schedule.Sql.Resolve
import Schedule.Sql.Parser.Statement

/-!
# Running scripts

A script runs statement by statement and stops at the first that fails. Outside a transaction
every statement commits on its own; `BEGIN` opens a transaction that `COMMIT` ends and
`ROLLBACK` undoes, and savepoints nest within it (a `SAVEPOINT` outside a transaction opens
one, which releasing that savepoint commits).

A change statement fails at its end when it leaves immediate foreign keys violated; deferred
violations must be gone when the transaction commits (at the statement's end outside a
transaction). Pragmas set the connection's settings; `foreign_keys` cannot change inside a
transaction.

A query in a script is run for its first row only: it fails only when that row cannot be made.

## Main definitions

* `Database.execute` — one statement.
* `Database.runScript` — a script, or the message of its first failure.
* `Database.query` — the columns and rows of one query with parameters.
* `Database.tableExists` — whether the main schema has a table of exactly that name.
-/

namespace Schedule.Sql

namespace Database

/-- The session a statement of the database runs in. -/
def session (db : Database) (params : List SqlValue) : Session :=
  { objects := db.objects, settings := db.settings, params, deferred := db.deferredViolations
    lastInsertRowid := db.lastInsertRowid, changes := db.changes, totalChanges := db.totalChanges }

/-- The database after a statement's session: outside a transaction the change is committed. -/
def absorb (db : Database) (s : Session) : Database :=
  let db := { db with objects := s.objects, deferredViolations := s.deferred
                      lastInsertRowid := s.lastInsertRowid, changes := s.changes
                      totalChanges := s.totalChanges }
  match db.transaction with
  | some _ => db
  | none => { db with committed := db.objects }

/-- The truth a pragma's value gives a flag: a number other than zero, or `ON`, `YES`, `TRUE`,
`FULL` or `EXTRA`. -/
def pragmaFlag : PragmaValue → Bool
  | .number _ text =>
    match textNumber text with
    | .integer n => n != 0
    | .real x => x != 0
    | _ => false
  | .name text =>
    let t := text.map Char.toLower
    ["on", "yes", "true", "full", "extra"].contains t ||
      (!t.isEmpty && t.toList.all Char.isDigit && t.toList.any (· != '0'))

/-- Sets a connection setting from a pragma; other pragmas change nothing here. -/
def pragma (db : Database) (name : String) (value : Option PragmaValue) : Database :=
  match value with
  | none => db
  | some v =>
    let on := pragmaFlag v
    let st := db.settings
    match name.map Char.toLower with
    | "foreign_keys" =>
      if db.transaction.isSome then db else { db with settings := { st with foreignKeys := on } }
    | "reverse_unordered_selects" => { db with settings := { st with reverseUnorderedSelects := on } }
    | "case_sensitive_like" => { db with settings := { st with caseSensitiveLike := on } }
    | "ignore_check_constraints" => { db with settings := { st with ignoreCheckConstraints := on } }
    | "recursive_triggers" => { db with settings := { st with recursiveTriggers := on } }
    | _ => db

/-- Commits the open transaction, unless deferred foreign keys are still violated. -/
def commitNow (db : Database) : Except SqlError Database :=
  if db.deferredViolations > 0 then .error (SqlError.plain "FOREIGN KEY constraint failed")
  else .ok { db with committed := db.objects, transaction := none }

/-- Runs a transaction statement. -/
def transact (db : Database) : Statement → Except SqlError Database
  | .begin =>
    match db.transaction with
    | some _ => .error (SqlError.plain "cannot start a transaction within a transaction")
    | none => .ok { db with transaction := some { start := db.objects } }
  | .commit =>
    match db.transaction with
    | none => .error (SqlError.plain "cannot commit - no transaction is active")
    | some _ => db.commitNow
  | .rollback =>
    match db.transaction with
    | none => .error (SqlError.plain "cannot rollback - no transaction is active")
    | some tx => .ok { db with objects := tx.start, transaction := none, deferredViolations := 0 }
  | .savepoint name =>
    match db.transaction with
    | none =>
      .ok { db with transaction := some { start := db.objects, savepoints := [(name, db.objects)],
                                          bySavepoint := true } }
    | some tx => .ok { db with transaction := some { tx with
        savepoints := (name, db.objects) :: tx.savepoints } }
  | .release name =>
    match db.transaction with
    | none => .error (SqlError.plain ("no such savepoint: " ++ name))
    | some tx =>
      match tx.savepoints.findIdx? (sameName ·.1 name) with
      | none => .error (SqlError.plain ("no such savepoint: " ++ name))
      | some i =>
        let rest := tx.savepoints.drop (i + 1)
        if rest.isEmpty && tx.bySavepoint then db.commitNow
        else .ok { db with transaction := some { tx with savepoints := rest } }
  | .rollbackTo name =>
    match db.transaction with
    | none => .error (SqlError.plain ("no such savepoint: " ++ name))
    | some tx =>
      match tx.savepoints.findIdx? (sameName ·.1 name) with
      | none => .error (SqlError.plain ("no such savepoint: " ++ name))
      | some i =>
        let kept := tx.savepoints.drop i
        let state := ((kept.head?.map (·.2)).getD db.objects)
        .ok { db with objects := state, transaction := some { tx with savepoints := kept } }
  | _ => .ok db

/-- The fuel a statement runs with: enough for any nesting of queries and triggers a script
can reach. -/
def statementFuel : Nat := 100000

/-- The end of a change statement: immediate foreign keys must hold, and outside a transaction
deferred ones too. -/
def finishChange (db : Database) (s : Session) : Except SqlError Database :=
  if s.immediate > 0 then .error (SqlError.plain "FOREIGN KEY constraint failed")
  else if db.transaction.isNone && s.deferred > 0 then
    .error (SqlError.plain "FOREIGN KEY constraint failed")
  else .ok (db.absorb { s with immediate := 0 })

/-- The schema a statement's target name picks for lookups, or its failure. -/
def homeOf (t : TableName) : Except SqlError (Option Bool) := schemaChoiceOf t

/-- Runs one statement that has passed the checks made before it runs. -/
def perform (db : Database) (stmt : Statement) : Except SqlError Database :=
  let fuel := statementFuel
  let s := db.session []
  match stmt with
  | .noEffect | .explain _ => .ok db
  | .begin | .commit | .rollback | .savepoint _ | .release _ | .rollbackTo _ => db.transact stmt
  | .pragma name value => .ok (db.pragma name value)
  | .vacuum _ =>
    if db.transaction.isSome then .error (SqlError.plain "cannot VACUUM from within a transaction")
    else .ok db
  | .analyze _ | .reindex _ => .ok db
  | .detach name =>
    if sameName name "main" || sameName name "temp" then
      .error (SqlError.plain ("cannot detach database " ++ name))
    else .error (SqlError.plain ("no such database: " ++ name))
  | .select q => do
    let r ← evalQuery fuel (s.env [] []) q
    let _ ← (r.rows.take 1).first?
    pure db
  | .insert _ ctes table conflict columns source upserts returning => do
    let home ← homeOf table
    let s ← insertStatement fuel s [] home none false ctes table conflict columns source upserts
      returning
    db.finishChange s
  | .update _ ctes table conflict sets source filter returning => do
    let home ← homeOf table
    let s ← updateStatement fuel s [] home none ctes table conflict sets source filter returning
    db.finishChange s
  | .delete _ ctes table filter returning => do
    let home ← homeOf table
    let s ← deleteStatement fuel s [] home none ctes table filter returning
    db.finishChange s
  | .createTable table temporary _ d => do
    let s ← createTable s table temporary d
    pure (db.absorb s)
  | .createTableAs table temporary _ q => do
    let s ← createTableAs fuel s table temporary q
    pure (db.absorb s)
  | .createIndex index unique ifNotExists table _ columns filter => do
    let s ← createIndex fuel s index unique ifNotExists table columns filter
    pure (db.absorb s)
  | .createView view temporary ifNotExists columns q => do
    let s ← createView s view temporary ifNotExists columns q
    pure (db.absorb s)
  | .createTrigger trigger temporary _ time event table condition body =>
    .ok (db.absorb (createTrigger s trigger temporary time event table condition body))
  | .dropTable table ifExists => do
    let s ← dropTable s table ifExists
    pure (db.absorb s)
  | .dropView view ifExists => do
    let s ← dropView s view ifExists
    pure (db.absorb s)
  | .dropIndex index ifExists => do
    let s ← dropIndex s index ifExists
    pure (db.absorb s)
  | .dropTrigger trigger ifExists => do
    let s ← dropTrigger s trigger ifExists
    pure (db.absorb s)
  | .renameTable table newName => do
    let s ← renameTable s table newName
    pure (db.absorb s)
  | .renameColumn table old new token => do
    let s ← renameColumn s table old new token
    pure (db.absorb s)
  | .addColumn table d => do
    let s ← addColumn fuel s table d
    pure (db.absorb s)
  | .dropColumn table column token => do
    let s ← dropColumn s table column token
    pure (db.absorb s)

/-- Runs one statement, once it has passed the checks made before it runs. -/
def execute (db : Database) (stmt : Statement) : Except SqlError Database :=
  match prepareFailure db.objects db.settings stmt with
  | some e => .error e
  | none => db.perform stmt

/-- Runs the statements of a token list; `start` is where the current statement's text begins. -/
def runTokens (script : String) (source : List Char) :
    Nat → Database → Nat → List Token → Except String Database
  | 0, db, _, _ => .ok db
  | fuel + 1, db, start, ts =>
    match ts with
    | [] => .ok db
    | _ =>
      match parseStatement db.objects.catalog source ts with
      | .error e => .error (failureText script start e.toSqlError)
      | .ok (none, rest) =>
        let next := match (ts.take (ts.length - rest.length)).getLast? with
          | some t => t.offset + t.written.utf8ByteSize
          | none => start
        runTokens script source fuel db next rest
      | .ok (some s, rest) =>
        match db.execute s with
        | .error e => .error (failureText script start e)
        | .ok db =>
          -- The next statement's text begins right after this one's semicolon.
          let next := match (ts.take (ts.length - rest.length)).getLast? with
            | some t => t.offset + t.written.utf8ByteSize
            | none => start
          runTokens script source fuel db next rest

/-- Runs a script on a database, or gives the message of its first failure. -/
def runScript (db : Database) (script : String) : Except String Database :=
  let ts := tokenize script
  runTokens script script.toList (ts.length + 1) db 0 ts

/-- The result of one query with parameters: the names of its columns and its rows. -/
def query (db : Database) (sql : String) (params : List SqlValue) :
    Except SqlError (List String × List (List SqlValue)) := do
  let ts := tokenize sql
  match parseStatement db.objects.catalog sql.toList ts with
  | .error e => throw e.toSqlError
  | .ok (some (.select q), _) =>
    if let some e := queryFailure db.objects db.settings q then throw e
    let r ← evalQuery statementFuel ((db.session params).env [] []) q
    let rows ← r.rows.toExcept
    pure (r.columns.map (·.name), rows)
  | .ok _ => pure ([], [])

/-- Whether the main schema has a table of exactly the name, as the schema table lists it. -/
def tableExists (db : Database) (name : String) : Bool :=
  db.objects.tables.any fun t => !t.temporary && t.name == name

/-- The database as another connection opens it from its file: the committed objects of the
main schema, with the default settings. -/
def reopened (db : Database) : Database :=
  { objects := db.committed.mainOnly, committed := db.committed.mainOnly }

end Database

end Schedule.Sql
