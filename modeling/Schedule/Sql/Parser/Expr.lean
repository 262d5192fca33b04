import Schedule.Sql.Parser.Core

/-!
# Parsing expressions and queries

Expressions and queries are read together, since each may contain the other.

Operators bind, loosest first: `OR`; `AND`; prefix `NOT`; `=`, `==`, `!=`, `<>`, `IS [NOT]`,
`[NOT] BETWEEN`, `[NOT] IN`, `[NOT] LIKE` (and `GLOB`, `REGEXP`, `MATCH`), `ISNULL`, `NOTNULL`,
`NOT NULL`; `<`, `<=`, `>`, `>=`; `&`, `|`, `<<`, `>>`; `+`, `-`; `*`, `/`, `%`; `||`, `->`,
`->>`; postfix `COLLATE`; prefix `-`, `+` and `~`. Binary operators group to the left. A `NOT`
where an operand is expected negates everything that binds tighter than `NOT`. A postfix
operator (`ISNULL`, `IN (…)`) leaves an operand that tighter operators may still take.

A query is a compound of select cores. Each core may carry its own `ORDER BY` and `LIMIT`, but
only the last may: an earlier one that does is refused once the whole query is read.

Every function spends one unit of fuel per call; fuel proportional to the number of tokens
always suffices.

## Main definitions

* `Parser.expr`, `Parser.query` — an expression, a query.
* `Parser.typeName` — a declared type.
-/

namespace Schedule.Sql

/-- Whether a token starts a query. -/
def Token.startsQuery (t : Token) : Bool :=
  t.isKeyword "SELECT" || t.isKeyword "VALUES" || t.isKeyword "WITH"

namespace Parser

/-- The binary operator a token stands for at a precedence level. -/
def binaryAt (level : Nat) (t : Token) : Option BinOp :=
  match level, t.kind with
  | 0, .word _ => if t.isKeyword "OR" then some .or else none
  | 1, .word _ => if t.isKeyword "AND" then some .and else none
  | 3, .punct p =>
    if p == "=" || p == "==" then some .eq else if p == "!=" || p == "<>" then some .ne else none
  | 4, .punct p =>
    if p == "<" then some .lt else if p == "<=" then some .le
    else if p == ">" then some .gt else if p == ">=" then some .ge else none
  | 5, .punct p =>
    if p == "&" then some .bitAnd else if p == "|" then some .bitOr
    else if p == "<<" then some .shiftLeft else if p == ">>" then some .shiftRight else none
  | 6, .punct p => if p == "+" then some .add else if p == "-" then some .sub else none
  | 7, .punct p =>
    if p == "*" then some .mul else if p == "/" then some .div else if p == "%" then some .rem
    else none
  | 8, .punct p =>
    if p == "||" then some .concat else if p == "->" then some .extract
    else if p == "->>" then some .extractValue else none
  | _, _ => none

/-- The level of postfix `COLLATE`. -/
def collateLevel : Nat := 9

/-- The level of prefix operators and single operands. -/
def operandLevel : Nat := 10

/-- The pattern operator a token stands for. -/
def patternOp? (t : Token) : Option PatternOp :=
  match t.keyword? with
  | some "LIKE" => some .like
  | some "GLOB" => some .glob
  | some "REGEXP" => some .regexp
  | some "MATCH" => some .match
  | _ => none

/-- The value of an integer literal: a 64-bit integer, or a double beyond that range. -/
def integerLiteral (digits : String) : SqlValue :=
  let v : Int := Number.digitsValue digits.toList
  if v ≤ int64Max then .integer v
  else .real (readLeadingNumber digits).value

/-- A hexadecimal literal, possibly negated. Its bits are those of a 64-bit integer; more than
sixteen significant digits, or the negation of the least integer, are refused. -/
def hexLiteral (negative : Bool) (digits : String) (t : Token) : Expr :=
  let significant := digits.toList.dropWhile (· = '0')
  let bits := significant.foldl (fun acc c => acc * 16 + (hexDigitValue? c).getD 0) 0
  let v : Int := (BitVec.ofNat 64 bits).toInt
  let refused := Expr.invalid
    ("hex literal too big: " ++ (if negative then "-" else "") ++ t.written) t.offset
  if significant.length > 16 then refused
  else if negative then (if v = int64Min then refused else .literal (.integer (-v)))
  else .literal (.integer v)

/-- Whether the current token starts a query. -/
def atQuery : Parser Bool := do
  pure (((← peek).map Token.startsQuery).getD false)

/-- The set operator at the current token, consumed. -/
def setOp? : Parser (Option SetOp) := do
  if ← eatKeyword "UNION" then
    if ← eatKeyword "ALL" then pure (some .unionAll) else pure (some .union)
  else if ← eatKeyword "INTERSECT" then pure (some .intersect)
  else if ← eatKeyword "EXCEPT" then pure (some .except)
  else pure none

/-- A declared type as written, with a trailing `GENERATED ALWAYS` taken off: the words of a
generated column's constraint read as part of the type. -/
def trimGenerated (s : String) : String :=
  let cs := s.toList
  let lower := cs.map Char.toLower
  if cs.length ≥ 16 && lower.drop (cs.length - 6) == "always".toList then
    let cs := (cs.take (cs.length - 6)).reverse.dropWhile Parser.isTextBlank |>.reverse
    let lower := cs.map Char.toLower
    if cs.length ≥ 9 && lower.drop (cs.length - 9) == "generated".toList then
      String.ofList ((cs.take (cs.length - 9)).reverse.dropWhile Parser.isTextBlank).reverse
    else String.ofList cs
  else s

/-- Removes the quotes around a quoted text, a doubled quote standing for one. -/
def dequote (s : String) : String :=
  match s.toList with
  | q :: rest =>
    if q = '\'' || q = '"' || q = '\x60' || q = '[' then
      let close := if q = '[' then ']' else q
      let rec go : List Char → List Char → List Char
        | [], acc => acc.reverse
        | c :: more, acc =>
          if c = close then
            match more with
            | d :: more2 => if d = close && close != ']' then go more2 (c :: acc) else acc.reverse
            | [] => acc.reverse
          else go more (c :: acc)
      String.ofList (go rest [])
    else s
  | [] => s

/-- Reads a signed number of a type size. -/
def signedNumber : Parser Unit := do
  let _ ← eatPunct "+" <||> eatPunct "-"
  match ← peek with
  | some t =>
    match t.kind with
    | .integer _ | .real _ | .hex _ => advance
    | _ => fail
  | none => throw .incomplete

/-- The words of a type name, each a plain name or text. -/
def typeWords : Nat → Parser Unit
  | 0 => throw .exhausted
  | fuel + 1 => do
    match ← peek with
    | some t =>
      match t.idsName? with
      | some _ =>
        advance
        typeWords fuel
      | none => pure ()
    | none => pure ()

/-- A declared type: words, then an optional size in parentheses. Gives the type as written,
or the empty text when there is none. -/
def typeName (fuel : Nat) : Parser String := do
  let some first ← peek | pure ""
  if first.idsName?.isNone then pure ""
  else
    let before := (← get).tokens
    typeWords fuel
    if ← eatPunct "(" then
      signedNumber
      if ← eatPunct "," then signedNumber
      expectPunct ")"
    let text ← consumedText before
    pure (dequote (trimGenerated text))

/-- A column reference of up to three dotted names, the first already read. -/
def columnRef (first : Token) (firstName : String) : Parser Expr := do
  let doubleQuoted := match first.kind with
    | .quotedName _ dq => dq
    | _ => false
  if ← eatPunct "." then
    let second ← nm
    if ← eatPunct "." then
      let third ← nm
      pure (.column (some firstName) (some second) third first.offset false)
    else pure (.column none (some firstName) second first.offset false)
  else pure (.column none none firstName first.offset doubleQuoted)

/-- The kind of join the join keywords before `JOIN` name: whether it is natural, and the kind.
Refuses combinations that name no join. -/
def joinKindOf (words : List Token) : Parser (Bool × JoinKind) := do
  let names := words.map fun t => (t.keyword?.getD (t.written.map Char.toUpper))
  let has (w : String) := names.contains w
  let known := names.all fun w =>
    ["NATURAL", "LEFT", "RIGHT", "FULL", "OUTER", "INNER", "CROSS"].contains w
  let natural := has "NATURAL"
  let kind : JoinKind :=
    if has "FULL" || (has "LEFT" && has "RIGHT") then .full
    else if has "LEFT" then .left
    else if has "RIGHT" then .right
    else if has "CROSS" then .cross
    else .inner
  let outer := has "OUTER" || has "LEFT" || has "RIGHT" || has "FULL"
  let bad := !known || (has "INNER" && outer) || (has "OUTER" && !(has "LEFT" || has "RIGHT" ||
    has "FULL"))
  if bad then
    let shown := " ".intercalate (words.map (·.written))
    refuse ("unknown join type: " ++ shown)
  else pure (natural, kind)

mutual

/-- An expression of a precedence level. -/
def level : Nat → Nat → Parser Expr
  | 0, _ => throw .exhausted
  | fuel + 1, n => do
    -- A NOT where an operand is expected negates all that binds tighter than NOT itself.
    if 2 ≤ n && (← atKeyword "NOT") then
      advance
      let e ← level fuel 2
      pure (.not e)
    else if n = 2 then level fuel 3
    else if n < operandLevel then
      let lhs ← level fuel (n + 1)
      chain fuel n lhs
    else operand fuel

/-- The rest of a chain of operators of a level, after its left operand. -/
def chain : Nat → Nat → Expr → Parser Expr
  | 0, _, _ => throw .exhausted
  | fuel + 1, n, lhs => do
    let some t ← peek | pure lhs
    if n = collateLevel then
      if t.isKeyword "COLLATE" then
        advance
        let name ← ids
        chain fuel n (.collate lhs name)
      else pure lhs
    else if n = 3 && t.isKeyword "IS" then
      advance
      let negated ← eatKeyword "NOT"
      if ← eatKeyword "DISTINCT" then
        expectKeyword "FROM"
        let rhs ← level fuel 4
        chain fuel n (.binary (if negated then .is else .isNot) lhs rhs)
      else
        let rhsStart ← peek
        let before := (← get).tokens.length
        let rhs ← level fuel 4
        let single := before = (← get).tokens.length + 1
        -- A lone TRUE or FALSE on the right asks for a truth value, and a null on the right
        -- asks whether the left side is null.
        let compared : Expr := match rhs with
          | .literal .null => .isNull lhs negated
          | _ => .binary (if negated then .isNot else .is) lhs rhs
        let truthWord := rhsStart.bind fun u => match u.kind with
          | .word w =>
            let up := w.map Char.toUpper
            if up == "TRUE" then some true else if up == "FALSE" then some false else none
          | _ => none
        let test := match truthWord with
          | some value => if single then Expr.truthTest lhs value negated else compared
          | none => compared
        chain fuel n test
    else if n = 3 && (t.isKeyword "ISNULL" || t.isKeyword "NOTNULL") then
      advance
      let e ← lift fuel collateLevel (.isNull lhs (t.isKeyword "NOTNULL"))
      chain fuel n e
    else if n = 3 && t.isKeyword "NOT" then
      let second ← peekSecond
      let secondIs (kw : String) := (second.map (·.isKeyword kw)).getD false
      if secondIs "NULL" then
        advance
        advance
        let e ← lift fuel collateLevel (.isNull lhs true)
        chain fuel n e
      else if secondIs "BETWEEN" || secondIs "IN" ||
          (second.bind patternOp?).isSome then
        advance
        comparison fuel lhs true
      else
        advance
        fail
    else if n = 3 && (t.isKeyword "BETWEEN" || t.isKeyword "IN" || (patternOp? t).isSome) then
      comparison fuel lhs false
    else
      match binaryAt n t with
      | some op =>
        advance
        let rhs ← level fuel (n + 1)
        chain fuel n (.binary op lhs rhs)
      | none => pure lhs

/-- `BETWEEN`, `IN` or a pattern operator after the left operand and an optional `NOT`. -/
def comparison : Nat → Expr → Bool → Parser Expr
  | 0, _, _ => throw .exhausted
  | fuel + 1, lhs, negated => do
    let t ← next
    if t.isKeyword "BETWEEN" then
      let low ← level fuel 2
      -- An OR in the lower bound takes what follows, AND included, into the bound.
      let low ← if ← atKeyword "OR" then chain fuel 0 low else pure low
      expectKeyword "AND"
      let high ← level fuel 4
      chain fuel 3 (.between lhs low high negated)
    else if t.isKeyword "IN" then
      let test ← if ← eatPunct "(" then
          if ← atQuery then
            let q ← query fuel
            expectPunct ")"
            pure (Expr.inQuery lhs q negated)
          else if ← eatPunct ")" then
            -- An empty list makes the test a constant; its left side is dropped unread.
            pure (Expr.literal (.integer (if negated then 1 else 0)))
          else
            let items ← exprList fuel
            expectPunct ")"
            pure (Expr.inList lhs items negated)
        else
          let table ← tableName
          if ← eatPunct "(" then
            if !(← atPunct ")") then
              let _ ← exprList fuel
            expectPunct ")"
          let schema := table.schema.map (·.1)
          let q : Query := .mk false [] (.single (.select false [.star table.token.offset]
            (some (.table schema table.name none table.token.offset)) none [] none)) [] none none
          pure (Expr.inQuery lhs q negated)
      let e ← lift fuel collateLevel test
      chain fuel 3 e
    else
      match patternOp? t with
      | some op =>
        let pattern ← level fuel 4
        let escape ← if ← eatKeyword "ESCAPE" then some <$> level fuel 4 else pure none
        chain fuel 3 (.pattern op lhs pattern escape negated)
      | none => fail

/-- An operand completed by a postfix operator, which the operators of levels `n` down to 4 may
still take as their left operand. -/
def lift : Nat → Nat → Expr → Parser Expr
  | 0, _, _ => throw .exhausted
  | fuel + 1, n, lhs => do
    if n ≤ 3 then pure lhs
    else
      let e ← chain fuel n lhs
      lift fuel (n - 1) e

/-- A single operand: a literal, a name, a call, a parenthesized expression or query, or a prefix
operator applied to an operand. -/
def operand : Nat → Parser Expr
  | 0 => throw .exhausted
  | fuel + 1 => do
    let some t ← peek | throw .incomplete
    if t.isPunct "-" then
      advance
      match ← peek with
      | some u =>
        match u.kind with
        | .integer d =>
          advance
          pure (.negatedInteger d)
        | .hex d =>
          advance
          pure (hexLiteral true d u)
        | .real r =>
          advance
          pure (.literal (.real (-(readLeadingNumber r).value)))
        | _ => .neg <$> level fuel operandLevel
      | none => throw .incomplete
    else if t.isPunct "+" then
      advance
      .pos <$> level fuel operandLevel
    else if t.isPunct "~" then
      advance
      .bitNot <$> level fuel operandLevel
    else if t.isPunct "(" then
      advance
      if ← atQuery then
        let q ← query fuel
        expectPunct ")"
        pure (.scalar q)
      else
        let e ← level fuel 0
        if ← eatPunct "," then
          let rest ← exprList fuel
          expectPunct ")"
          pure (.vector (e :: rest))
        else
          expectPunct ")"
          pure e
    else
      match t.kind with
      | .integer d =>
        advance
        pure (.literal (integerLiteral d))
      | .hex d =>
        advance
        pure (hexLiteral false d t)
      | .real r =>
        advance
        pure (.literal (.real (readLeadingNumber r).value))
      | .string s =>
        advance
        pure (.literal (.text s))
      | .blob b =>
        advance
        pure (.literal (.blob b))
      | .param =>
        advance
        pure (.param (← paramNumber t))
      | .word w =>
        match keywordOf? w with
        | some "NULL" =>
          advance
          pure (.literal .null)
        | some "CAST" =>
          advance
          expectPunct "("
          let e ← level fuel 0
          expectKeyword "AS"
          let ty ← typeName fuel
          expectPunct ")"
          pure (.cast e ty)
        | some "CASE" =>
          advance
          let subject ← if ← atKeyword "WHEN" then pure none else some <$> level fuel 0
          let (conditions, results) ← caseArms fuel
          let otherwise ← if ← eatKeyword "ELSE" then some <$> level fuel 0 else pure none
          expectKeyword "END"
          pure (.caseOf subject conditions results otherwise)
        | some "EXISTS" =>
          advance
          expectPunct "("
          let q ← query fuel
          expectPunct ")"
          pure (.exists q)
        | some "RAISE" =>
          advance
          expectPunct "("
          if ← eatKeyword "IGNORE" then
            expectPunct ")"
            pure (.raise .ignore "")
          else
            let action ← if ← eatKeyword "ROLLBACK" then pure RaiseAction.rollback
              else if ← eatKeyword "ABORT" then pure RaiseAction.abort
              else if ← eatKeyword "FAIL" then pure RaiseAction.fail
              else fail
            expectPunct ","
            let message ← nm
            expectPunct ")"
            pure (.raise action message)
        | some "CURRENT_TIME" | some "CURRENT_DATE" | some "CURRENT_TIMESTAMP" =>
          advance
          pure (.call (w.map Char.toLower) [] false false t.offset)
        | some kw =>
          if keywordKind kw == .join then
            advance
            columnRef t w
          else if keywordKind kw == .fallback then named fuel t w
          else fail
        | none => named fuel t w
      | .quotedName n _ => named fuel t n
      | _ => fail

/-- A name at the start of an operand: a function call, or a column reference. -/
def named : Nat → Token → String → Parser Expr
  | 0, _, _ => throw .exhausted
  | fuel + 1, t, name => do
    advance
    if ← eatPunct "(" then
      if ← eatPunct "*" then
        expectPunct ")"
        pure (.call name [] false true t.offset)
      else
        let distinct ← if ← eatKeyword "DISTINCT" then pure true
          else do
            let _ ← eatKeyword "ALL"
            pure false
        let args ← if ← atPunct ")" then pure [] else exprList fuel
        if ← eatKeyword "ORDER" then
          expectKeyword "BY"
          let _ ← orderTerms fuel
        expectPunct ")"
        pure (.call name args distinct false t.offset)
    else columnRef t name

/-- The `WHEN … THEN …` arms of a `CASE`, at least one. -/
def caseArms : Nat → Parser (List Expr × List Expr)
  | 0 => throw .exhausted
  | fuel + 1 => do
    expectKeyword "WHEN"
    let c ← level fuel 0
    expectKeyword "THEN"
    let r ← level fuel 0
    if ← atKeyword "WHEN" then
      let (cs, rs) ← caseArms fuel
      pure (c :: cs, r :: rs)
    else pure ([c], [r])

/-- Expressions separated by commas, at least one. -/
def exprList : Nat → Parser (List Expr)
  | 0 => throw .exhausted
  | fuel + 1 => do
    let e ← level fuel 0
    if ← eatPunct "," then
      let rest ← exprList fuel
      pure (e :: rest)
    else pure [e]

/-- The terms of an `ORDER BY`, at least one. -/
def orderTerms : Nat → Parser (List OrderTerm)
  | 0 => throw .exhausted
  | fuel + 1 => do
    let e ← level fuel 0
    let descending ← if ← eatKeyword "DESC" then pure true
      else do
        let _ ← eatKeyword "ASC"
        pure false
    let nullsFirst ← if ← eatKeyword "NULLS" then
        if ← eatKeyword "FIRST" then pure (some true)
        else if ← eatKeyword "LAST" then pure (some false)
        else fail
      else pure none
    let term := OrderTerm.mk e descending nullsFirst
    if ← eatPunct "," then
      let rest ← orderTerms fuel
      pure (term :: rest)
    else pure [term]

/-- A query: common tables, select cores joined by set operators, ordering and limits. -/
def query : Nat → Parser Query
  | 0 => throw .exhausted
  | fuel + 1 => do
    let (recursive, ctes) ← if ← eatKeyword "WITH" then
        let recursive ← eatKeyword "RECURSIVE"
        let ctes ← commonTables fuel
        pure (recursive, ctes)
      else pure (false, [])
    let (core, orderBy, limit, offset) ← selectCore fuel
    let (body, orderBy, limit, offset, misplaced) ←
      compoundRest fuel (.single core) orderBy limit offset none
    match misplaced with
    | some message => refuse message
    | none => pure (.mk recursive ctes body orderBy limit offset)

/-- The select cores after the first, each after its set operator. `misplaced` is the message
for the rightmost core so far, other than the last, that has its own ordering or limit. -/
def compoundRest : Nat → QueryBody → List OrderTerm → Option Expr → Option Expr →
    Option String →
    Parser (QueryBody × List OrderTerm × Option Expr × Option Expr × Option String)
  | 0, _, _, _, _, _ => throw .exhausted
  | fuel + 1, body, orderBy, limit, offset, misplaced => do
    match ← setOp? with
    | some op =>
      let misplaced :=
        if !orderBy.isEmpty then some ("ORDER BY clause should come after " ++ op.shown ++
          " not before")
        else if limit.isSome then some ("LIMIT clause should come after " ++ op.shown ++
          " not before")
        else misplaced
      let (core, orderBy, limit, offset) ← selectCore fuel
      compoundRest fuel (.compound body op core) orderBy limit offset misplaced
    | none => pure (body, orderBy, limit, offset, misplaced)

/-- One select core with its own ordering and limits. -/
def selectCore : Nat → Parser (SelectCore × List OrderTerm × Option Expr × Option Expr)
  | 0 => throw .exhausted
  | fuel + 1 => do
    if ← eatKeyword "VALUES" then
      let rows ← valuesRows fuel
      pure (.values rows, [], none, none)
    else
      expectKeyword "SELECT"
      let distinct ← if ← eatKeyword "DISTINCT" then pure true
        else do
          let _ ← eatKeyword "ALL"
          pure false
      let columns ← projections fuel
      let source ← if ← eatKeyword "FROM" then some <$> source fuel else pure none
      let filter ← if ← eatKeyword "WHERE" then some <$> level fuel 0 else pure none
      let groupBy ← if ← eatKeyword "GROUP" then
          expectKeyword "BY"
          exprList fuel
        else pure []
      let having ← if ← eatKeyword "HAVING" then some <$> level fuel 0 else pure none
      let orderBy ← if ← eatKeyword "ORDER" then
          expectKeyword "BY"
          orderTerms fuel
        else pure []
      let (limit, offset) ← if ← eatKeyword "LIMIT" then
          let first ← level fuel 0
          if ← eatKeyword "OFFSET" then
            let second ← level fuel 0
            pure (some first, some second)
          else if ← eatPunct "," then
            let second ← level fuel 0
            pure (some second, some first)
          else pure (some first, none)
        else pure (none, none)
      pure (.select distinct columns source filter groupBy having, orderBy, limit, offset)

/-- The rows of `VALUES`: parenthesized lists separated by commas. -/
def valuesRows : Nat → Parser (List (List Expr))
  | 0 => throw .exhausted
  | fuel + 1 => do
    expectPunct "("
    let row ← exprList fuel
    expectPunct ")"
    if ← eatPunct "," then
      let rest ← valuesRows fuel
      pure (row :: rest)
    else pure [row]

/-- The result columns of a select core. -/
def projections : Nat → Parser (List Projection)
  | 0 => throw .exhausted
  | fuel + 1 => do
    let start ← position
    let some t ← peek | throw .incomplete
    let second ← peekSecond
    let third := ((← get).tokens.drop 2).head?
    let p ← if t.isPunct "*" then
        advance
        pure (Projection.star t.offset)
      else if t.nmName?.isSome && (second.map (·.isPunct ".")).getD false &&
          (third.map (·.isPunct "*")).getD false then
        advance
        advance
        advance
        pure (Projection.tableStar (t.nmName?.getD "") ((third.map (·.offset)).getD t.offset))
      else
        let e ← level fuel 0
        let stop ← position
        let text ← textBetween start stop
        let label ← if ← eatKeyword "AS" then some <$> nm
          else
            match ← peek with
            | some u =>
              match u.idsName? with
              | some n =>
                advance
                pure (some n)
              | none => pure none
            | none => pure none
        pure (Projection.expr e label text)
    if ← eatPunct "," then
      let rest ← projections fuel
      pure (p :: rest)
    else pure [p]

/-- An alias after a source: `AS name`, or a plain name or text. -/
def sourceAlias : Parser (Option String) := do
  if ← eatKeyword "AS" then some <$> nm
  else
    match ← peek with
    | some u =>
      match u.idsName? with
      | some n =>
        advance
        pure (some n)
      | none => pure none
    | none => pure none

/-- One source of a `FROM` clause: a table, a subquery or a parenthesized join, with its alias. -/
def sourceItem : Nat → Parser Source
  | 0 => throw .exhausted
  | fuel + 1 => do
    if ← eatPunct "(" then
      if ← atQuery then
        let q ← query fuel
        expectPunct ")"
        let label ← sourceAlias
        pure (.query q label)
      else
        let inner ← source fuel
        expectPunct ")"
        match ← sourceAlias with
        | some label =>
          let q : Query := .mk false [] (.single (.select false [.star 0] (some inner) none [] none))
            [] none none
          pure (.query q (some label))
        | none => pure inner
    else
      let (first, token) ← nameBy Token.nmName?
      let (schema, name) ← if ← eatPunct "." then
          let second ← nm
          pure (some first, second)
        else pure (none, first)
      let label ← sourceAlias
      if ← eatKeyword "INDEXED" then
        expectKeyword "BY"
        let _ ← nm
      else if ← atKeyword "NOT" then
        advance
        expectKeyword "INDEXED"
      pure (.table schema name label token.offset)

/-- The `ON` or `USING` of a join, if any. -/
def onUsing : Nat → Parser (Option Expr × List String)
  | 0 => throw .exhausted
  | fuel + 1 => do
    if ← eatKeyword "ON" then
      let e ← level fuel 0
      pure (some e, [])
    else if ← eatKeyword "USING" then
      expectPunct "("
      let names ← nameList fuel
      pure (none, names)
    else pure (none, [])

/-- Names separated by commas, up to the closing parenthesis. -/
def nameList : Nat → Parser (List String)
  | 0 => throw .exhausted
  | fuel + 1 => do
    let n ← nm
    if ← eatPunct "," then
      let rest ← nameList fuel
      pure (n :: rest)
    else
      expectPunct ")"
      pure [n]

/-- A `FROM` clause: sources joined left to right. -/
def source : Nat → Parser Source
  | 0 => throw .exhausted
  | fuel + 1 => do
    let first ← sourceItem fuel
    let (on, usingColumns) ← onUsing fuel
    if on.isSome then refuse "a JOIN clause is required before ON"
    if !usingColumns.isEmpty then refuse "a JOIN clause is required before USING"
    joins fuel first

/-- The joins after a source. -/
def joins : Nat → Source → Parser Source
  | 0, _ => throw .exhausted
  | fuel + 1, left => do
    let kind ← if ← eatPunct "," then pure (some (false, JoinKind.inner))
      else if ← eatKeyword "JOIN" then pure (some (false, JoinKind.inner))
      else
        match ← peek with
        | some t =>
          if t.keyword?.map (keywordKind · == .join) == some true then
            advance
            let words ← joinWords fuel [t]
            some <$> joinKindOf words
          else pure none
        | none => pure none
    match kind with
    | some (natural, k) =>
      let right ← sourceItem fuel
      let (on, usingColumns) ← onUsing fuel
      if natural && (on.isSome || !usingColumns.isEmpty) then
        refuse "a NATURAL join may not have an ON or USING clause"
      joins fuel (.join left k natural right on usingColumns)
    | none => pure left

/-- The join keywords up to `JOIN`, at most three in all. -/
def joinWords : Nat → List Token → Parser (List Token)
  | 0, _ => throw .exhausted
  | fuel + 1, acc => do
    if ← eatKeyword "JOIN" then pure acc.reverse
    else if acc.length ≥ 3 then fail
    else
      match ← peek with
      | some t =>
        if t.nmName?.isSome then
          advance
          joinWords fuel (t :: acc)
        else fail
      | none => throw .incomplete

/-- The common tables of a `WITH` clause. -/
def commonTables : Nat → Parser (List CommonTable)
  | 0 => throw .exhausted
  | fuel + 1 => do
    let name ← nm
    let columns ← if ← eatPunct "(" then columnNames fuel else pure []
    expectKeyword "AS"
    if ← eatKeyword "NOT" then expectKeyword "MATERIALIZED"
    else
      let _ ← eatKeyword "MATERIALIZED"
    expectPunct "("
    let q ← query fuel
    expectPunct ")"
    let cte := CommonTable.mk name columns q
    if ← eatPunct "," then
      let rest ← commonTables fuel
      pure (cte :: rest)
    else pure [cte]

/-- Column names up to the closing parenthesis; a name may not carry a collation or order. -/
def columnNames : Nat → Parser (List String)
  | 0 => throw .exhausted
  | fuel + 1 => do
    let (n, t) ← nameBy Token.nmName?
    if (← atKeyword "COLLATE") || (← atKeyword "ASC") || (← atKeyword "DESC") then
      refuse ("syntax error after column name \"" ++ t.written ++ "\"")
    if ← eatPunct "," then
      let rest ← columnNames fuel
      pure (n :: rest)
    else
      expectPunct ")"
      pure [n]

end

/-- An expression. -/
def expr (fuel : Nat) : Parser Expr := level fuel 0

end Parser

end Schedule.Sql
