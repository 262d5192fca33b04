import Schedule.Sql.Lexer

/-!
# Statements of the database language

The syntax trees of statements: table, index, view and trigger definitions, queries, inserts,
updates, deletes, schema changes, transaction control and pragmas.

Expressions are literals, parameters, column references, prefix and binary operators, `BETWEEN`,
`IN` lists and subqueries, pattern matches (`LIKE`, `GLOB`, `REGEXP`, `MATCH`), `COLLATE`,
`CAST`, `CASE`, function calls, scalar and `EXISTS` subqueries, row values and `RAISE`. A
column reference and a function call keep the offset of their first token, for messages, and
so does a literal that cannot be evaluated.

A query is a compound of select cores (`SELECT …` or `VALUES …`) joined by set operators, with
common tables before it and ordering and limits after it. A select core reads a source: tables,
subqueries and joins of them.

A table may be named with its schema (`main.t`, `temp.t`); messages about a table quote it the
way it was named (`TableName.shown`).

## Main definitions

* `Expr`, `Query` — expressions and queries, defined together.
* `TableDef` — the columns and constraints of a table definition.
* `Statement` — statements.
-/

namespace Schedule.Sql

/-- The binary operators. -/
inductive BinOp where
  | or
  | and
  | eq
  | ne
  | is
  | isNot
  | lt
  | le
  | gt
  | ge
  | bitAnd
  | bitOr
  | shiftLeft
  | shiftRight
  | add
  | sub
  | mul
  | div
  | rem
  | concat
  /-- `->`: the part of a JSON text a path selects, as JSON. -/
  | extract
  /-- `->>`: the part of a JSON text a path selects, as a value. -/
  | extractValue
  deriving Repr, Inhabited, DecidableEq

/-- The pattern operators. -/
inductive PatternOp where
  | like
  | glob
  | regexp
  | match
  deriving Repr, Inhabited, DecidableEq

/-- What `RAISE` does: ignore the row, or fail with one of the ways of failing. -/
inductive RaiseAction where
  | ignore
  | rollback
  | abort
  | fail
  deriving Repr, Inhabited, DecidableEq

/-- The set operators of a compound query. -/
inductive SetOp where
  | union
  | unionAll
  | intersect
  | except
  deriving Repr, Inhabited, DecidableEq

/-- The name of a set operator in messages. -/
def SetOp.shown : SetOp → String
  | .union => "UNION"
  | .unionAll => "UNION ALL"
  | .intersect => "INTERSECT"
  | .except => "EXCEPT"

/-- The kinds of join. A comma is an inner join. -/
inductive JoinKind where
  | inner
  | left
  | right
  | full
  | cross
  deriving Repr, Inhabited, DecidableEq

mutual

/-- An expression. -/
inductive Expr where
  | literal (v : SqlValue)
  /-- A negated integer literal, kept whole so that the least 64-bit integer can be written. -/
  | negatedInteger (digits : String)
  /-- A parameter, by its number. -/
  | param (index : Nat)
  /-- A column, possibly qualified by its table and schema. A double-quoted name that names no
  column is read as text. -/
  | column (schema table : Option String) (name : String) (offset : Nat) (doubleQuoted : Bool)
  | neg (e : Expr)
  | pos (e : Expr)
  | not (e : Expr)
  | bitNot (e : Expr)
  | isNull (e : Expr) (negated : Bool)
  /-- `e IS [NOT] TRUE` or `e IS [NOT] FALSE`: whether `e` has that truth value, null having
  neither. -/
  | truthTest (e : Expr) (value negated : Bool)
  | binary (op : BinOp) (a b : Expr)
  /-- `e BETWEEN low AND high`, or its negation. -/
  | between (e low high : Expr) (negated : Bool)
  /-- `e IN (items)`, or its negation. -/
  | inList (e : Expr) (items : List Expr) (negated : Bool)
  /-- `e IN (query)`, or its negation. -/
  | inQuery (e : Expr) (q : Query) (negated : Bool)
  /-- `e LIKE pattern [ESCAPE escape]` and the other pattern operators, or their negation. -/
  | pattern (op : PatternOp) (e pattern : Expr) (escape : Option Expr) (negated : Bool)
  | collate (e : Expr) (name : String)
  | cast (e : Expr) (typeName : String)
  /-- `CASE [operand] WHEN … THEN … ELSE … END`, the conditions and results side by side. -/
  | caseOf (operand : Option Expr) (conditions results : List Expr) (otherwise : Option Expr)
  /-- A function call, with `DISTINCT` and `*` marks and the offset of its name. -/
  | call (name : String) (args : List Expr) (distinct star : Bool) (offset : Nat)
  | scalar (q : Query)
  | exists (q : Query)
  /-- A row value `(a, b, …)` of two or more items. -/
  | vector (items : List Expr)
  | raise (action : RaiseAction) (message : String)
  /-- A literal the database refuses, such as a hexadecimal one beyond 64 bits, with the message
  and the offset it is reported at. -/
  | invalid (message : String) (offset : Nat)

/-- A query: common tables, a compound of select cores, the ordering and the limits. -/
inductive Query where
  | mk (recursive : Bool) (ctes : List CommonTable) (body : QueryBody) (orderBy : List OrderTerm)
      (limit offset : Option Expr)

/-- Select cores joined by set operators, grouped to the left. -/
inductive QueryBody where
  | single (core : SelectCore)
  | compound (left : QueryBody) (op : SetOp) (right : SelectCore)

/-- One `SELECT` or `VALUES`. -/
inductive SelectCore where
  | select (distinct : Bool) (columns : List Projection) (source : Option Source)
      (filter : Option Expr) (groupBy : List Expr) (having : Option Expr)
  | values (rows : List (List Expr))

/-- A result column: `*`, `t.*`, or an expression with an optional name and the text it was
written as, which names the column when no name is given. -/
inductive Projection where
  | star (offset : Nat)
  | tableStar (table : String) (offset : Nat)
  | expr (e : Expr) (label : Option String) (text : String)

/-- Where a select core reads its rows from. -/
inductive Source where
  | table (schema : Option String) (name : String) (label : Option String) (offset : Nat)
  | query (q : Query) (label : Option String)
  | join (left : Source) (kind : JoinKind) (natural : Bool) (right : Source)
      (on : Option Expr) (usingColumns : List String)

/-- A common table of a `WITH` clause: its name, its column names if given, and its query. -/
inductive CommonTable where
  | mk (name : String) (columns : List String) (q : Query)

/-- A term of `ORDER BY`: the expression, whether descending, and where nulls go when said. -/
inductive OrderTerm where
  | mk (e : Expr) (descending : Bool) (nullsFirst : Option Bool)

end

instance : Inhabited Expr := ⟨.literal .null⟩

instance : Inhabited SelectCore := ⟨.values []⟩

instance : Inhabited Query := ⟨.mk false [] (.single default) [] none none⟩

/-- The query `SELECT`s of a body, in order. -/
def QueryBody.cores : QueryBody → List SelectCore
  | .single c => [c]
  | .compound left _ right => left.cores ++ [right]

namespace Query

/-- The body of a query. -/
def body : Query → QueryBody
  | .mk _ _ b _ _ _ => b

/-- The common tables of a query. -/
def ctes : Query → List CommonTable
  | .mk _ cs _ _ _ _ => cs

/-- The ordering of a query. -/
def orderBy : Query → List OrderTerm
  | .mk _ _ _ o _ _ => o

end Query

/-- What a statement does with a row that breaks a constraint: fail and undo the statement
(`abort`, the default), fail keeping the rows already changed (`fail`), fail and end the
transaction (`rollback`), skip the row (`ignore`), or make room for the row (`replace`). -/
inductive Conflict where
  | abort
  | fail
  | rollback
  | ignore
  | replace
  deriving Repr, Inhabited, DecidableEq

/-- What a foreign key does to the rows that refer to a changed parent row. -/
inductive ForeignKeyAction where
  | noAction
  | restrict
  | setNull
  | setDefault
  | cascade
  deriving Repr, Inhabited, DecidableEq

/-- A foreign key: the referring columns, the parent table and its columns (none given means its
primary key), and the actions. -/
structure ForeignKey where
  columns : List String
  parent : String
  parentColumns : List String
  onDelete : ForeignKeyAction := .noAction
  onUpdate : ForeignKeyAction := .noAction
  /-- Whether the key is checked only when the transaction commits. -/
  deferred : Bool := false
  deriving Inhabited

/-- A `CHECK` constraint: its name if it has one, the expression and the expression's text. -/
structure CheckClause where
  name : Option String
  expr : Expr
  text : String
  deriving Inhabited

/-- A column of an index or a key: an expression (most often a column name), its collation and
whether it is descending. -/
structure IndexedColumn where
  expr : Expr
  collation : Option String := none
  descending : Bool := false
  deriving Inhabited

/-- The name an indexed column reads, when it is a plain column name. -/
def IndexedColumn.name? (c : IndexedColumn) : Option String :=
  match c.expr with
  | .column none none n _ _ => some n
  | _ => none

/-- A column of a table definition. A conflict action of a constraint is none when the
constraint names none; the statement's own action, or `abort`, then applies. -/
structure ColumnDef where
  name : String
  /-- The declared type as written, any size kept. -/
  typeName : String := ""
  default : Option Expr := none
  notNull : Bool := false
  notNullConflict : Option Conflict := none
  collation : Option String := none
  /-- The expression of a generated column and whether it is stored. -/
  generated : Option (Expr × Bool) := none
  /-- Whether the column is part of the primary key. -/
  inPrimaryKey : Bool := false
  /-- Whether the column has a column constraint `UNIQUE` or `PRIMARY KEY`. -/
  unique : Bool := false
  deriving Inhabited

/-- A column of a key: its place in the table, the collation the key gives it (none: the
column's own), and whether it is descending. -/
structure KeyColumn where
  position : Nat
  collation : Option String := none
  descending : Bool := false
  deriving Inhabited, DecidableEq

/-- A key the table keeps unique: its columns, its conflict action (none when it names none),
and whether it is the primary key. -/
structure KeyDef where
  columns : List KeyColumn
  conflict : Option Conflict := none
  primary : Bool := false
  deriving Inhabited

/-- A table definition: columns, then the table's keys (the `INTEGER PRIMARY KEY` apart), check
constraints and foreign keys, and its options. Keys are listed newest first, as the database
checks them. -/
structure TableDef where
  columns : List ColumnDef := []
  /-- The column that names the row id (an `INTEGER PRIMARY KEY`), its conflict action and
  whether it counts up (`AUTOINCREMENT`). -/
  rowidColumn : Option (Nat × Option Conflict × Bool) := none
  /-- Whether a primary key was declared. -/
  hasPrimaryKey : Bool := false
  keys : List KeyDef := []
  checks : List CheckClause := []
  foreignKeys : List ForeignKey := []
  withoutRowid : Bool := false
  strict : Bool := false
  deriving Inhabited

/-- A table as a statement names it: the schema it is qualified with, with that name's token,
and the table's name, with its token. -/
structure TableName where
  schema : Option (String × Token) := none
  name : String
  token : Token
  /-- The alias a statement gives the table (`INSERT INTO t AS x`). -/
  label : Option String := none
  deriving Inhabited

/-- The table's name as messages quote it: with its schema when it was named with one. -/
def TableName.shown (t : TableName) : String :=
  match t.schema with
  | some (s, _) => s ++ "." ++ t.name
  | none => t.name

/-- An assignment of an update: one column, or several from a row value. -/
structure Assignment where
  columns : List String
  value : Expr
  deriving Inhabited

/-- What an insert does when a row breaks a uniqueness constraint: nothing, or an update of the
row it conflicts with. -/
inductive UpsertAction where
  | nothing
  | update (sets : List Assignment) (filter : Option Expr)
  deriving Inhabited

/-- An `ON CONFLICT` clause: the key it is for (any, when none is given), with an optional
condition on it, and the action. -/
structure Upsert where
  target : Option (List IndexedColumn × Option Expr)
  action : UpsertAction
  deriving Inhabited

/-- Where the rows of an insert come from. -/
inductive InsertSource where
  | query (q : Query)
  | defaults
  deriving Inhabited

/-- When a trigger fires. -/
inductive TriggerTime where
  | before
  | after
  | insteadOf
  deriving Repr, Inhabited, DecidableEq

/-- What a trigger fires on; an update trigger may be limited to some columns. -/
inductive TriggerEvent where
  | insert
  | delete
  | update (columns : List String)
  deriving Inhabited

/-- The value of a pragma: a signed number, a name or a text. -/
inductive PragmaValue where
  | number (negative : Bool) (text : String)
  | name (text : String)
  deriving Inhabited

/-- A statement. -/
inductive Statement where
  | createTable (table : TableName) (temporary ifNotExists : Bool) (definition : TableDef)
  | createTableAs (table : TableName) (temporary ifNotExists : Bool) (q : Query)
  | createIndex (index : TableName) (unique ifNotExists : Bool) (table : String) (tableToken : Token)
      (columns : List IndexedColumn) (filter : Option Expr)
  /-- A view, with its column names if given, and its query. -/
  | createView (view : TableName) (temporary ifNotExists : Bool) (columns : List String)
      (q : Query)
  | createTrigger (trigger : TableName) (temporary ifNotExists : Bool) (time : TriggerTime)
      (event : TriggerEvent) (table : TableName) (condition : Option Expr)
      (body : List Statement)
  | insert (recursive : Bool) (ctes : List CommonTable) (table : TableName)
      (conflict : Conflict) (columns : Option (List String)) (source : InsertSource)
      (upserts : List Upsert) (returning : List Projection)
  | update (recursive : Bool) (ctes : List CommonTable) (table : TableName)
      (conflict : Conflict) (sets : List Assignment) (source : Option Source)
      (filter : Option Expr) (returning : List Projection)
  | delete (recursive : Bool) (ctes : List CommonTable) (table : TableName)
      (filter : Option Expr) (returning : List Projection)
  | select (q : Query)
  | dropTable (table : TableName) (ifExists : Bool)
  | dropIndex (index : TableName) (ifExists : Bool)
  | dropView (view : TableName) (ifExists : Bool)
  | dropTrigger (trigger : TableName) (ifExists : Bool)
  | renameTable (table : TableName) (newName : String)
  /-- `ALTER TABLE … RENAME COLUMN`, with the token of the old name. -/
  | renameColumn (table : TableName) (old new : String) (oldToken : Token)
  /-- `ALTER TABLE … ADD COLUMN`: the column with its keys, checks and foreign keys. -/
  | addColumn (table : TableName) (definition : TableDef)
  /-- `ALTER TABLE … DROP COLUMN`, with the token of the column's name. -/
  | dropColumn (table : TableName) (column : String) (token : Token)
  | begin
  | commit
  | rollback
  | savepoint (name : String)
  | release (name : String)
  | rollbackTo (name : String)
  | pragma (name : String) (value : Option PragmaValue)
  /-- `VACUUM`, of a schema when one is named. -/
  | vacuum (schema : Option Token)
  /-- `ANALYZE`, of a table or schema when one is named. -/
  | analyze (target : Option TableName)
  /-- `REINDEX`, of a collation, table or index when one is named. -/
  | reindex (target : Option TableName)
  /-- `DETACH` of a schema. -/
  | detach (name : String)
  /-- A statement that changes nothing the reader sees. -/
  | noEffect
  /-- `EXPLAIN` of a statement: prepared, not run. -/
  | explain (s : Statement)
  deriving Inhabited

end Schedule.Sql
