import Schedule.Sql.Parser.Core

/-!
# Failures of statements

A statement fails with a message and, when the message is about a token or an expression of the
statement, the byte offset of that token in the script. A script stops at its first failing
statement, and the failure is reported as `MSG in SQL at offset N`, where `SQL` is the text of
the script from the start of the failing statement and `N` is the offset counted from there;
a failure without an offset is its message alone.

## Main definitions

* `SqlError` — a failure.
* `ParseError.toSqlError` — the failure of a statement that does not parse.
* `failureText` — the text a script's failure is reported with.
-/

namespace Schedule.Sql

/-- A failure: the message and, when it points at a token, the token's byte offset in the
script. -/
structure SqlError where
  message : String
  offset : Option Nat := none
  /-- Whether this is `RAISE(IGNORE)`: no failure, but the end of the current row's change. -/
  skipRow : Bool := false
  deriving Inhabited

/-- A failure with a message and no offset. -/
def SqlError.plain (message : String) : SqlError := { message }

/-- The failure of a statement that does not parse. -/
def ParseError.toSqlError : ParseError → SqlError
  | .near t => { message := "near \"" ++ t.written ++ "\": syntax error", offset := some t.offset }
  | .incomplete => { message := "incomplete input" }
  | .unrecognized t =>
    { message := "unrecognized token: \"" ++ t.written ++ "\"", offset := some t.offset }
  | .refused message offset => { message, offset }
  | .exhausted => { message := "statement too complex" }

/-- The text of a script from a byte offset on. -/
def dropScriptBytes : List Char → Nat → List Char
  | [], _ => []
  | cs, 0 => cs
  | c :: rest, n => dropScriptBytes rest (n - min n c.utf8Size)

/-- The message of a failure at a statement that starts at byte `start` of the script. -/
def failureText (script : String) (start : Nat) (e : SqlError) : String :=
  match e.offset with
  | some off =>
    e.message ++ " in " ++ String.ofList (dropScriptBytes script.toList start) ++ " at offset " ++
      toString (off - start)
  | none => e.message

end Schedule.Sql
