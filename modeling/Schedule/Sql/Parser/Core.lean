import Schedule.Sql.Syntax
import Schedule.Sql.Keyword

/-!
# The parsing monad

Statements are parsed by recursive descent over their tokens. The parser's state holds the
tokens still to read, the text of the script (so that an expression's text can be cut out of
it, as the database names result columns and constraints by their text), and the numbers given
to parameters so far.

A parse fails at the first token that cannot continue the statement: the message names that
token (`near "X": syntax error`), or says the input ended too early, or names an unrecognized
token. Some checks the database makes while a statement is still being read fail with their
own message (`ParseError.refused`).

Words play three parts (see `Schedule.Sql.Keyword`): a reserved keyword is never a name, a join
keyword names tables and columns, and any other keyword is a name wherever the keyword itself
cannot stand. The helpers here read names in the database's three senses: `id` (a plain or
quoted name), `nm` (also a text literal or a join keyword) and `ids` (a plain name or a text
literal).

## Main definitions

* `Parser` — the parsing monad.
* `ParseError` — why a statement does not parse.
* `Catalog` — the names of the database that parsing consults.
-/

namespace Schedule.Sql

/-- Why a statement does not parse. -/
inductive ParseError where
  /-- The token cannot continue the statement. -/
  | near (t : Token)
  /-- The input ended inside the statement. -/
  | incomplete
  /-- A token is not a token of the language. -/
  | unrecognized (t : Token)
  /-- A check made while reading failed, with the message and, when it points at a token, the
  token's offset. -/
  | refused (message : String) (offset : Option Nat)
  /-- The parser ran out of fuel; cannot happen with the fuel the statement parser gives. -/
  | exhausted
  deriving Inhabited

/-- Whether two names are equal without regard to ASCII case. -/
def sameName (a b : String) : Bool := a.map Char.toLower == b.map Char.toLower

/-- The names in a database that parsing consults: every table with whether it is temporary and
its columns, every index, view and trigger with whether it is temporary. -/
structure Catalog where
  tables : List (Bool × String × List String) := []
  indexes : List (Bool × String) := []
  views : List (Bool × String) := []
  triggers : List (Bool × String) := []
  deriving Inhabited

namespace Catalog

/-- Whether a schema has a table of a name. -/
def hasTable (c : Catalog) (temporary : Bool) (name : String) : Bool :=
  c.tables.any fun (tmp, n, _) => tmp == temporary && sameName n name

/-- Whether a schema has a view of a name. -/
def hasView (c : Catalog) (temporary : Bool) (name : String) : Bool :=
  c.views.any fun (tmp, n) => tmp == temporary && sameName n name

/-- Whether a schema has an index of a name. -/
def hasIndex (c : Catalog) (temporary : Bool) (name : String) : Bool :=
  c.indexes.any fun (tmp, n) => tmp == temporary && sameName n name

/-- Whether a schema has a trigger of a name. -/
def hasTrigger (c : Catalog) (temporary : Bool) (name : String) : Bool :=
  c.triggers.any fun (tmp, n) => tmp == temporary && sameName n name

end Catalog

/-- The schemas a table name may refer to: `none` when it names an unknown schema, otherwise
`some none` for an unqualified name (the temporary schema first, then the main one) and
`some (some temporary)` for a qualified one. -/
def TableName.schemaChoice (t : TableName) : Option (Option Bool) :=
  match t.schema with
  | none => some none
  | some (s, _) =>
    if sameName s "main" then some (some false)
    else if sameName s "temp" then some (some true)
    else none

/-- The columns of the table a name refers to. -/
def Catalog.columns? (c : Catalog) (t : TableName) : Option (List String) :=
  let inSchema (temporary : Bool) :=
    (c.tables.find? fun (tmp, n, _) => tmp == temporary && sameName n t.name).map
      fun (_, _, cols) => cols
  match t.schemaChoice with
  | some none => (inSchema true).or (inSchema false)
  | some (some temporary) => inSchema temporary
  | none => none

/-- The state of a parse: the tokens left, the script's characters, and the parameter numbers
given so far (the largest, and the named parameters with theirs). -/
structure ParseState where
  tokens : List Token
  source : List Char
  catalog : Catalog := {}
  lastParam : Nat := 0
  named : List (String × Nat) := []

/-- The parsing monad. -/
abbrev Parser := StateT ParseState (Except ParseError)

/-- The failure at the front of a token list. -/
def failAt : List Token → ParseError
  | [] => .incomplete
  | t :: _ => match t.kind with
    | .illegal => .unrecognized t
    | _ => .near t

namespace Parser

/-- Fails at the current token. -/
def fail : Parser α := do
  throw (failAt (← get).tokens)

/-- Fails with a message of the database's own. -/
def refuse (message : String) (offset : Option Nat := none) : Parser α :=
  throw (.refused message offset)

/-- The current token. -/
def peek : Parser (Option Token) := do
  pure (← get).tokens.head?

/-- The token after the current one. -/
def peekSecond : Parser (Option Token) := do
  pure ((← get).tokens.drop 1).head?

/-- Steps past the current token. -/
def advance : Parser Unit :=
  modify fun s => { s with tokens := s.tokens.drop 1 }

/-- Reads the current token. -/
def next : Parser Token := do
  match (← get).tokens with
  | t :: rest =>
    modify fun s => { s with tokens := rest }
    pure t
  | [] => throw .incomplete

end Parser

/-- The keyword a token is, upper-cased. -/
def Token.keyword? (t : Token) : Option String :=
  match t.kind with
  | .word w => keywordOf? w
  | _ => none

/-- Whether a token is the keyword `kw` (given in upper case). -/
def Token.isKeyword (t : Token) (kw : String) : Bool := t.keyword? == some kw

/-- Whether a token is the punctuation `p`. -/
def Token.isPunct (t : Token) (p : String) : Bool :=
  match t.kind with
  | .punct q => q == p
  | _ => false

/-- Whether a token ends a statement. -/
def Token.isSemicolon (t : Token) : Bool :=
  match t.kind with
  | .semicolon => true
  | _ => false

/-- The name a token stands for as an `id`: a word that is no keyword, a keyword that may stand
for a name, or a quoted name. -/
def Token.idName? (t : Token) : Option String :=
  match t.kind with
  | .word w =>
    match keywordOf? w with
    | none => some w
    | some kw => if keywordKind kw == .fallback || kw == "INDEXED" then some w else none
  | .quotedName n _ => some n
  | _ => none

/-- The name a token stands for as an `nm`: an `id`, a text literal or a join keyword. -/
def Token.nmName? (t : Token) : Option String :=
  match t.kind with
  | .string s => some s
  | .word w =>
    match keywordOf? w with
    | some kw => if keywordKind kw == .join then some w else t.idName?
    | none => some w
  | _ => t.idName?

/-- The name a token stands for as an `ids`: a text literal, or an `id` other than `INDEXED`. -/
def Token.idsName? (t : Token) : Option String :=
  match t.kind with
  | .string s => some s
  | _ => if t.isKeyword "INDEXED" then none else t.idName?

namespace Parser

/-- Whether the current token is the keyword. -/
def atKeyword (kw : String) : Parser Bool := do
  pure (((← peek).map (·.isKeyword kw)).getD false)

/-- Whether the current token is the punctuation. -/
def atPunct (p : String) : Parser Bool := do
  pure (((← peek).map (·.isPunct p)).getD false)

/-- Consumes a keyword when it is there. -/
def eatKeyword (kw : String) : Parser Bool := do
  if ← atKeyword kw then
    advance
    pure true
  else pure false

/-- Consumes a punctuation token when it is there. -/
def eatPunct (p : String) : Parser Bool := do
  if ← atPunct p then
    advance
    pure true
  else pure false

/-- Consumes a keyword, or fails. -/
def expectKeyword (kw : String) : Parser Unit := do
  if !(← eatKeyword kw) then fail

/-- Consumes a punctuation token, or fails. -/
def expectPunct (p : String) : Parser Unit := do
  if !(← eatPunct p) then fail

/-- Reads a name in the sense `read` gives, with its token. -/
def nameBy (read : Token → Option String) : Parser (String × Token) := do
  match ← peek with
  | some t =>
    match read t with
    | some n =>
      advance
      pure (n, t)
    | none => fail
  | none => throw .incomplete

/-- Reads an `nm` name. -/
def nm : Parser String := do
  pure (← nameBy Token.nmName?).1

/-- Reads an `id` name. -/
def id : Parser String := do
  pure (← nameBy Token.idName?).1

/-- Reads an `ids` name. -/
def ids : Parser String := do
  pure (← nameBy Token.idsName?).1

/-- Reads a table name, possibly qualified by a schema. -/
def tableName : Parser TableName := do
  let (first, firstToken) ← nameBy Token.nmName?
  if ← eatPunct "." then
    let (name, token) ← nameBy Token.nmName?
    pure { schema := some (first, firstToken), name, token }
  else pure { name := first, token := firstToken }

/-- The byte offset where the current token starts, or the end of the script. -/
def position : Parser Nat := do
  match ← peek with
  | some t => pure t.offset
  | none => pure ((← get).source.foldl (fun n c => n + c.utf8Size) 0)

/-- The characters of the script from a byte offset on. -/
def dropBytes : List Char → Nat → List Char
  | [], _ => []
  | cs, 0 => cs
  | c :: rest, n => dropBytes rest (n - min n c.utf8Size)

/-- The characters of a list that fill a number of bytes. -/
def takeBytes : List Char → Nat → List Char
  | [], _ => []
  | _, 0 => []
  | c :: rest, n => c :: takeBytes rest (n - min n c.utf8Size)

/-- Whether a character is a blank the database trims from a text of the script. -/
def isTextBlank (c : Char) : Bool :=
  c = ' ' || c = '\t' || c = '\n' || c = '\r' || c = '\x0c' || c = '\x0b'

/-- The script's text between two byte offsets, without blanks at either end. -/
def textBetween (start stop : Nat) : Parser String := do
  let cs := takeBytes (dropBytes (← get).source start) (stop - start)
  let cs := (cs.dropWhile isTextBlank).reverse.dropWhile isTextBlank
  pure (String.ofList cs.reverse)

/-- The script's text of the tokens read since the token list was `before`: from the start of
the first to the end of the last. -/
def consumedText (before : List Token) : Parser String := do
  let consumed := before.take (before.length - (← get).tokens.length)
  match consumed.head?, consumed.getLast? with
  | some first, some last => textBetween first.offset (last.offset + last.written.utf8ByteSize)
  | _, _ => pure ""

/-- Gives a parameter its number: `?` the next number, `?NNN` that number, and a named one the
number it was first given. -/
def paramNumber (t : Token) : Parser Nat := do
  let s ← get
  let text := t.written
  match text.toList with
  | ['?'] =>
    set { s with lastParam := s.lastParam + 1 }
    pure (s.lastParam + 1)
  | '?' :: digits =>
    let n := Number.digitsValue digits
    if n = 0 || n > 32766 || digits.length > 9 then
      refuse "variable number must be between ?1 and ?32766" (some t.offset)
    else
      set { s with lastParam := max s.lastParam n }
      pure n
  | _ =>
    match s.named.find? (·.1 == text) with
    | some (_, n) => pure n
    | none =>
      set { s with lastParam := s.lastParam + 1, named := (text, s.lastParam + 1) :: s.named }
      pure (s.lastParam + 1)

end Parser

end Schedule.Sql
