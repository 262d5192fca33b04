/-!
# Keywords of the database language

A word token is a keyword when its upper-cased text is in `keywords`. Keywords come in three
kinds, which decide where a keyword may still stand for a name:

* most keywords may be used as a name wherever the keyword itself cannot stand; these are the
  `fallbackKeywords` (`KEY`, `REPLACE`, `TEMP`, `ROWID`-like words such as `ACTION`, …);
* the join keywords (`CROSS`, `FULL`, `INNER`, `LEFT`, `NATURAL`, `OUTER`, `RIGHT`) may be names
  of tables and columns, but not aliases written without `AS`;
* the others (`SELECT`, `FROM`, `ORDER`, `GROUP`, `WHERE`, …) are reserved: a statement that uses
  one as a name has a syntax error there.

`INDEXED` is a name where a plain or quoted name may stand (`id`), but not as an alias
written without `AS` or a type name. `TRUE` and `FALSE` are not keywords: they
are names that, when no column has them, stand for 1 and 0.

## Main definitions

* `keywordOf?` — the keyword a word is, if any.
* `KeywordKind`, `keywordKind` — the three kinds.
-/

namespace Schedule.Sql

/-- Every keyword, upper-cased. -/
def keywords : List String :=
  ["ABORT", "ACTION", "ADD", "AFTER", "ALL", "ALTER", "ALWAYS", "ANALYZE", "AND", "AS", "ASC",
   "ATTACH", "AUTOINCREMENT", "BEFORE", "BEGIN", "BETWEEN", "BY", "CASCADE", "CASE", "CAST",
   "CHECK", "COLLATE", "COLUMN", "COMMIT", "CONFLICT", "CONSTRAINT", "CREATE", "CROSS",
   "CURRENT", "CURRENT_DATE", "CURRENT_TIME", "CURRENT_TIMESTAMP", "DATABASE", "DEFAULT",
   "DEFERRABLE", "DEFERRED", "DELETE", "DESC", "DETACH", "DISTINCT", "DO", "DROP", "EACH",
   "ELSE", "END", "ESCAPE", "EXCEPT", "EXCLUDE", "EXCLUSIVE", "EXISTS", "EXPLAIN", "FAIL",
   "FILTER", "FIRST", "FOLLOWING", "FOR", "FOREIGN", "FROM", "FULL", "GENERATED", "GLOB",
   "GROUP", "GROUPS", "HAVING", "IF", "IGNORE", "IMMEDIATE", "IN", "INDEX", "INDEXED",
   "INITIALLY", "INNER", "INSERT", "INSTEAD", "INTERSECT", "INTO", "IS", "ISNULL", "JOIN", "KEY",
   "LAST", "LEFT", "LIKE", "LIMIT", "MATCH", "MATERIALIZED", "NATURAL", "NO", "NOT", "NOTHING",
   "NOTNULL", "NULL", "NULLS", "OF", "OFFSET", "ON", "OR", "ORDER", "OTHERS", "OUTER", "OVER",
   "PARTITION", "PLAN", "PRAGMA", "PRECEDING", "PRIMARY", "QUERY", "RAISE", "RANGE",
   "RECURSIVE", "REFERENCES", "REGEXP", "REINDEX", "RELEASE", "RENAME", "REPLACE", "RESTRICT",
   "RETURNING", "RIGHT", "ROLLBACK", "ROW", "ROWS", "SAVEPOINT", "SELECT", "SET", "TABLE",
   "TEMP", "TEMPORARY", "THEN", "TIES", "TO", "TRANSACTION", "TRIGGER", "UNBOUNDED", "UNION",
   "UNIQUE", "UPDATE", "USING", "VACUUM", "VALUES", "VIEW", "VIRTUAL", "WHEN", "WHERE",
   "WINDOW", "WITH", "WITHOUT"]

/-- The keywords that may stand for a name where the keyword itself cannot stand. `WINDOW`,
`OVER` and `FILTER` are names except right before the syntax they start. -/
def fallbackKeywords : List String :=
  ["ABORT", "ACTION", "AFTER", "ALWAYS", "ANALYZE", "ASC", "ATTACH", "BEFORE", "BEGIN", "BY",
   "CASCADE", "CAST", "COLUMN", "CONFLICT", "CURRENT", "CURRENT_DATE", "CURRENT_TIME",
   "CURRENT_TIMESTAMP", "DATABASE", "DEFERRED", "DESC", "DETACH", "DO", "EACH", "END",
   "EXCLUDE", "EXCLUSIVE", "EXPLAIN", "FAIL", "FILTER", "FIRST", "FOLLOWING", "FOR",
   "GENERATED", "GLOB", "GROUPS", "IF", "IGNORE", "IMMEDIATE", "INITIALLY",
   "INSTEAD", "KEY", "LAST", "LIKE", "MATCH", "MATERIALIZED", "NO", "NULLS", "OF", "OFFSET",
   "OTHERS", "OVER", "PARTITION", "PLAN", "PRAGMA", "PRECEDING", "QUERY", "RAISE", "RANGE",
   "RECURSIVE", "REGEXP", "REINDEX", "RELEASE", "RENAME", "REPLACE", "RESTRICT", "ROLLBACK",
   "ROW", "ROWS", "SAVEPOINT", "TEMP", "TEMPORARY", "TIES", "TRIGGER", "UNBOUNDED", "VACUUM",
   "VIEW", "VIRTUAL", "WINDOW", "WITH", "WITHOUT"]

/-- The join keywords. -/
def joinKeywords : List String := ["CROSS", "FULL", "INNER", "LEFT", "NATURAL", "OUTER", "RIGHT"]

/-- How a keyword may be used as a name. -/
inductive KeywordKind where
  /-- Usable as a name wherever the keyword cannot stand. -/
  | fallback
  /-- A join keyword: a name of a table or column, not an alias without `AS`. -/
  | join
  /-- Never a name. -/
  | reserved
  deriving Repr, DecidableEq, Inhabited

/-- The keyword a word is, upper-cased, if it is one. -/
def keywordOf? (word : String) : Option String :=
  let upper := word.map Char.toUpper
  if keywords.contains upper then some upper else none

/-- The kind of a keyword, given upper-cased. -/
def keywordKind (kw : String) : KeywordKind :=
  if fallbackKeywords.contains kw then .fallback
  else if joinKeywords.contains kw then .join
  else .reserved

end Schedule.Sql
