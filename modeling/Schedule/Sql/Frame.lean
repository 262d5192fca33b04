import Schedule.Sql.Schema
import Schedule.Sql.Convert

/-!
# Frames and the names of columns

A query reads rows from the tables, views and subqueries of its `FROM` clause. Each of them is a
`Frame`: the name that qualifies its columns (its alias, else its own name), its columns, and
the current row. A `Scope` is the frames of one query with the aliases of its result columns;
a subquery sees the scopes of the queries around it, innermost first.

A column reference finds its column by the rules of `lookupName`:

* in the innermost scope first, then in each enclosing one;
* within a scope, in every frame the qualifier fits: a name found in two frames is ambiguous,
  unless the later frame shares it with an earlier one by `USING` or `NATURAL`, when the
  earlier one is meant (the later one for a right join, the first that is not null for a full
  join);
* `rowid`, `oid` and `_rowid_` name the row id of a table that has one, when no column has that
  name;
* `NEW`, `OLD` and `excluded` are frames a name must be qualified with to reach;
* an unqualified name that no column has may be the alias of a result column;
* a double-quoted name that names nothing anywhere is text, and `TRUE` and `FALSE` are 1 and 0.

## Main definitions

* `Field`, `Frame`, `Scope`.
* `Reference` — what a column reference names.
* `lookupName` — the search.
-/

namespace Schedule.Sql

/-- A column a query can name: its name, and the affinity and collation comparisons of it use. -/
structure Field where
  name : String
  affinity : Option Affinity := none
  collation : Option Collation := none
  deriving Inhabited

/-- One source of rows under the name that qualifies its columns, with its current row. -/
structure Frame where
  label : String
  /-- The schema of a table or view, for names qualified with one: whether it is temporary. -/
  schema : Option Bool := none
  fields : List Field
  /-- Whether `rowid` names the frame's row id. -/
  rowid : Bool := false
  /-- The name a result column reading the row id is given: the integer primary key's. -/
  rowidName : String := "rowid"
  /-- The columns this frame shares with an earlier frame by `USING` or `NATURAL`. -/
  shared : List String := []
  /-- How this frame is joined to the frames before it. -/
  join : JoinKind := .inner
  /-- Whether a name reaches the frame only when qualified with its label (`NEW`, `OLD`). -/
  qualifiedOnly : Bool := false
  values : List SqlValue := []
  rowidValue : SqlValue := .null
  deriving Inhabited

/-- The frames of one query and the aliases of its result columns. -/
structure Scope where
  frames : List Frame := []
  aliases : List (String × Expr) := []
  deriving Inhabited

/-- Whether a name is one of the names of the row id. -/
def isRowidName (n : String) : Bool :=
  sameName n "rowid" || sameName n "oid" || sameName n "_rowid_"

namespace Frame

/-- The place of a column of the frame. -/
def fieldIndex? (f : Frame) (name : String) : Option Nat :=
  f.fields.findIdx? (sameName ·.name name)

/-- The value of a column of the frame's row, with its affinity and collation. -/
def operand (f : Frame) (i : Nat) : Operand :=
  let fld := f.fields.getD i default
  { value := f.values.getD i .null, affinity := fld.affinity, collation := fld.collation }

/-- The frame's row id, as an integer column. -/
def rowidOperand (f : Frame) : Operand := { value := f.rowidValue, affinity := some .integer }

/-- Whether a qualifier names the frame. The schema `*` stands for the schema of a frame that
has none, as the expansion of `*` qualifies a subquery's columns. -/
def answers (f : Frame) (schema : Option String) (table : String) : Bool :=
  sameName f.label table &&
    (match schema with
      | none => true
      | some s => match f.schema with
        | some tmp => schemaMatches schema tmp
        | none => s == "*")

/-- The frame with the row `values` and row id. -/
def withRow (f : Frame) (values : List SqlValue) (rowid : SqlValue) : Frame :=
  { f with values, rowidValue := rowid }

/-- The frame with every value null: the missing side of an outer join. -/
def nullRow (f : Frame) : Frame :=
  { f with values := f.fields.map fun _ => .null, rowidValue := .null }

end Frame

/-- What a column reference names. -/
inductive Reference where
  /-- A column or row id, found `depth` scopes out, with the column's declared name. -/
  | column (depth : Nat) (operand : Operand) (name : String)
  /-- The result column with this alias, of the scope `depth` levels out. -/
  | aliased (depth : Nat) (e : Expr)
  /-- A double-quoted name that names nothing: the text of the name. -/
  | text (s : String)
  /-- `TRUE` or `FALSE`. -/
  | truth (b : Bool)
  /-- A name found more than once. -/
  | ambiguous
  /-- A name found nowhere. -/
  | missing
  deriving Inhabited

/-- The search for a name through the frames of one scope: how many columns were found, the
columns found (several only for a full join's shared column), whether they are to be read as
the first of them that is not null, and the frames that have a row id the qualifier fits. -/
structure Matches where
  count : Nat := 0
  found : List (Operand × String) := []
  coalesce : Bool := false
  tables : Nat := 0
  rowidOf : Option Frame := none
  deriving Inhabited

/-- One frame of the search. -/
def Matches.step (schema table : Option String) (name : String) (m : Matches) (f : Frame) :
    Matches :=
  let fits := match table with
    | some t => f.answers schema t
    | none => true
  if f.qualifiedOnly || !fits then m
  else
    let m := match f.fieldIndex? name with
      | some j =>
        let op := (f.operand j, (f.fields.getD j default).name)
        if m.count > 0 then
          if !(f.shared.any (sameName · name)) then
            { m with count := m.count + 1, found := [op], coalesce := false }
          else
            match f.join with
            | .right => { m with count := 1, found := [op], coalesce := false }
            | .full => { m with count := m.count + 1, found := m.found ++ [op], coalesce := true }
            | _ => m
        else { m with count := 1, found := [op] }
      | none => m
    if m.count == 0 && f.rowid then { m with tables := m.tables + 1, rowidOf := some f } else m

/-- The search through a scope's frames that only a qualified name reaches. -/
def Matches.qualified (table : String) (name : String) (m : Matches) (f : Frame) : Matches :=
  if !f.qualifiedOnly || !sameName f.label table || m.count > 0 then m
  else
    let m := { m with tables := m.tables + 1 }
    match f.fieldIndex? name with
    | some j => { m with count := 1, found := [(f.operand j, (f.fields.getD j default).name)] }
    | none =>
      if isRowidName name && f.rowid then
        { m with count := 1, found := [(f.rowidOperand, f.rowidName)] }
      else m

/-- The matches of a name in one scope. -/
def Scope.matches (s : Scope) (schema table : Option String) (name : String) : Matches :=
  let m := s.frames.foldl (Matches.step schema table name) {}
  let m := match schema, table with
    | none, some t => if m.count == 0 then s.frames.foldl (Matches.qualified t name) m else m
    | _, _ => m
  if m.count == 0 && m.tables ≥ 1 && isRowidName name then
    match m.rowidOf with
    | some f => { m with count := m.tables, found := [(f.rowidOperand, f.rowidName)] }
    | none => m
  else m

/-- The first value of a list that is not null, as `coalesce` gives it. -/
def firstPresent (ops : List (Operand × String)) : Operand × String :=
  let name := (ops.head?.map (·.2)).getD ""
  match ops.find? (fun o => !o.1.value.isNull) with
  | some o => ({ o.1 with affinity := none }, name)
  | none => ({ value := .null }, name)

/-- What a column reference names, searched through the scopes from the innermost; `depth`
counts the scopes passed. -/
def lookupFrom (schema table : Option String) (name : String) (doubleQuoted : Bool) :
    Nat → List Scope → Reference
  | _, [] =>
    if table.isNone && doubleQuoted then .text name
    else if table.isNone && sameName name "true" then .truth true
    else if table.isNone && sameName name "false" then .truth false
    else .missing
  | depth, s :: outer =>
    let m := s.matches schema table name
    if m.count == 1 then
      match m.found with
      | [(o, n)] => .column depth o n
      | _ => let (o, n) := firstPresent m.found; .column depth o n
    else if m.count > 1 then
      if m.coalesce && m.found.length == m.count then
        let (o, n) := firstPresent m.found
        .column depth o n
      else .ambiguous
    else
      let aliased := if table.isNone then s.aliases.find? (sameName ·.1 name) else none
      match aliased with
      | some (_, e) => .aliased depth e
      | none => lookupFrom schema table name doubleQuoted (depth + 1) outer

/-- What a column reference names in the scopes, innermost first. -/
def lookupName (scopes : List Scope) (schema table : Option String) (name : String)
    (doubleQuoted : Bool) : Reference :=
  lookupFrom schema table name doubleQuoted 0 scopes

/-- How messages name a column reference. -/
def columnShown (schema table : Option String) (name : String) : String :=
  (match schema with
    | some s => s ++ "."
    | none => "") ++
  (match table with
    | some t => t ++ "."
    | none => "") ++ name

end Schedule.Sql
