import Schedule.Sql.Value

/-!
# Tokens of the database language

Statements are split into tokens: words (names and keywords, compared without regard to ASCII
case), quoted names (`"…"` or between grave accents, a doubled quote standing for one, or `[…]`,
which ends at the first `]`), text literals (`'…'`, a doubled
quote standing for one), byte literals (`x'…'` with an even number of hexadecimal digits),
numbers, parameters (`?`, `?NNN`, `:name`, `@name`, `$name`) and punctuation. Blanks and comments
(`--` to the end of the line, `/* … */`) separate tokens. Every token keeps its byte offset and its
text as written, which error messages quote.

A character that starts no token, a text or name never closed, and a number running into a name
are unrecognized tokens.

## Main definitions

* `Token` — a token with its offset and written text.
* `tokenize` — the tokens of a text, ending at the first unrecognized one.
-/

namespace Schedule.Sql

/-- The kinds of token. -/
inductive TokenKind where
  | word (text : String)
  /-- A quoted name, and whether it was quoted with double quotes. -/
  | quotedName (text : String) (doubleQuoted : Bool)
  | string (text : String)
  | blob (bytes : List UInt8)
  | integer (text : String)
  /-- A hexadecimal integer, by its digits after `0x`. -/
  | hex (digits : String)
  | real (text : String)
  | param
  | punct (text : String)
  | semicolon
  | illegal
  deriving Inhabited

/-- A token with its byte offset and its text as written. -/
structure Token where
  kind : TokenKind
  offset : Nat
  written : String
  deriving Inhabited

/-- Whether a character may continue a name: letters, digits, `_`, `$` and every character
beyond ASCII. -/
def isNameChar (c : Char) : Bool :=
  c.isAlphanum || c = '_' || c = '$' || c.toNat ≥ 0x80

/-- Whether a character may start a name. -/
def isNameStart (c : Char) : Bool :=
  c.isAlpha || c = '_' || c.toNat ≥ 0x80

/-- The byte length of a list of characters. -/
def byteLength (cs : List Char) : Nat := cs.foldl (fun n c => n + c.utf8Size) 0

/-- Splits off the body of a quoted region closed by `close`, a doubled `close` standing for
one: the body and the rest after the closing character, or none when it never closes. -/
def quotedBody (close : Char) : List Char → List Char → Option (List Char × List Char × Nat)
  | [], _ => none
  | c :: rest, acc =>
    if c = close then
      match rest with
      | d :: more => if d = close then quotedBody close more (close :: acc)
        else some (acc.reverse, rest, 0)
      | [] => some (acc.reverse, rest, 0)
    else quotedBody close rest (c :: acc)

/-- The value of a hexadecimal digit. -/
def hexDigitValue? (c : Char) : Option Nat :=
  if '0' ≤ c && c ≤ '9' then some (c.toNat - '0'.toNat)
  else if 'a' ≤ c && c ≤ 'f' then some (c.toNat - 'a'.toNat + 10)
  else if 'A' ≤ c && c ≤ 'F' then some (c.toNat - 'A'.toNat + 10)
  else none

/-- The bytes of an even run of hexadecimal digits. -/
def hexBytes? : List Char → Option (List UInt8)
  | [] => some []
  | a :: b :: rest => do
    let x ← hexDigitValue? a
    let y ← hexDigitValue? b
    let more ← hexBytes? rest
    pure (UInt8.ofNat (16 * x + y) :: more)
  | [_] => none

/-- The result of reading one token: the token and the rest, nothing (end of input), or the
text of an unrecognized token. -/
inductive Scan where
  | token (t : TokenKind) (length : Nat) (rest : List Char)
  | skip (length : Nat) (rest : List Char)
  | done
  | unrecognized (text : String)

/-- Reads a number: digits, an optional point and digits, an optional exponent. -/
def scanNumber (cs : List Char) : Scan :=
  match cs with
  | '0' :: x :: d :: more =>
    if (x = 'x' || x = 'X') && (hexDigitValue? d).isSome then
      let digits := d :: more.takeWhile fun c => (hexDigitValue? c).isSome
      .token (.hex (String.ofList digits)) (digits.length + 2) (cs.drop (digits.length + 2))
    else scanDecimal cs
  | _ => scanDecimal cs
where
  /-- Reads a decimal number. -/
  scanDecimal (cs : List Char) : Scan :=
    let whole := cs.takeWhile Number.isDigit
    let rest := cs.dropWhile Number.isDigit
    let (frac, hasPoint, rest) := match rest with
      | '.' :: more => (more.takeWhile Number.isDigit, true, more.dropWhile Number.isDigit)
      | _ => ([], false, rest)
    let (expo, hasExp, rest) := match rest with
      | e :: more =>
        if e = 'e' || e = 'E' then
          let (sign, more2) := match more with
            | '+' :: m => (['+'], m)
            | '-' :: m => (['-'], m)
            | m => ([], m)
          let ds := more2.takeWhile Number.isDigit
          if ds.isEmpty then ([], false, rest)
          else (e :: sign ++ ds, true, more2.dropWhile Number.isDigit)
        else ([], false, rest)
      | [] => ([], false, rest)
    let text := whole ++ (if hasPoint then '.' :: frac else []) ++ expo
    match rest with
    | c :: _ =>
      if isNameChar c then
        .unrecognized (String.ofList (text ++ (rest.takeWhile isNameChar)))
      else if hasPoint || hasExp then .token (.real (String.ofList text)) text.length rest
      else .token (.integer (String.ofList text)) text.length rest
    | [] =>
      if hasPoint || hasExp then .token (.real (String.ofList text)) text.length rest
      else .token (.integer (String.ofList text)) text.length rest

/-- Reads the token at the start of a text. -/
def scanOne (cs : List Char) : Scan :=
  match cs with
  | [] => .done
  | c :: rest =>
    if isSpace c then .skip 1 rest
    else if c = '-' && rest.head? = some '-' then
      let body := rest.takeWhile (· != '\n')
      .skip (1 + body.length) (rest.dropWhile (· != '\n'))
    else if c = '/' && rest.head? = some '*' then
      let tail := rest.drop 1
      let closing := (List.range tail.length).find? fun i => (tail.drop i).take 2 == ['*', '/']
      match closing with
      | some i => .skip (2 + i + 2) (tail.drop (i + 2))
      | none => .skip cs.length []
    else if c = '\'' then
      match quotedBody '\'' rest [] with
      | some (body, more, _) =>
        .token (.string (String.ofList body)) (cs.length - more.length) more
      | none => .unrecognized (String.ofList cs)
    else if (c = 'x' || c = 'X') && rest.head? = some '\'' then
      match quotedBody '\'' (rest.drop 1) [] with
      | some (body, more, _) =>
        match (if body.length % 2 = 0 then hexBytes? body else none) with
        | some bytes => .token (.blob bytes) (cs.length - more.length) more
        | none => .unrecognized (String.ofList (cs.take (cs.length - more.length)))
      | none => .unrecognized (String.ofList cs)
    else if c = '"' || c = '\x60' then
      match quotedBody c rest [] with
      | some (body, more, _) =>
        .token (.quotedName (String.ofList body) (c = '"')) (cs.length - more.length) more
      | none => .unrecognized (String.ofList cs)
    else if c = '[' then
      -- Brackets do not double: the name ends at the first closing bracket.
      if rest.contains ']' then
        let body := rest.takeWhile (· != ']')
        .token (.quotedName (String.ofList body) false) (body.length + 2) (rest.drop (body.length + 1))
      else .unrecognized (String.ofList cs)
    else if Number.isDigit c then scanNumber cs
    else if c = '.' && (rest.head?.map Number.isDigit).getD false then scanNumber cs
    else if isNameStart c then
      let body := cs.takeWhile isNameChar
      .token (.word (String.ofList body)) body.length (cs.dropWhile isNameChar)
    else if c = '?' then
      let ds := rest.takeWhile Number.isDigit
      .token .param (1 + ds.length) (rest.dropWhile Number.isDigit)
    else if c = ':' || c = '@' || c = '$' then
      let body := rest.takeWhile isNameChar
      if body.isEmpty then .unrecognized (String.singleton c)
      else .token .param (1 + body.length) (rest.dropWhile isNameChar)
    else if c = ';' then .token .semicolon 1 rest
    else
      let two := String.ofList (cs.take 2)
      if String.ofList (cs.take 3) = "->>" then .token (.punct "->>") 3 (cs.drop 3)
      else if two = "<=" || two = ">=" || two = "==" || two = "!=" || two = "<>" || two = "||" ||
          two = "<<" || two = ">>" || two = "->" then
        .token (.punct two) 2 (cs.drop 2)
      else if "(),=<>+-*/%.&|~".contains c then .token (.punct (String.singleton c)) 1 rest
      else .unrecognized (String.singleton c)

/-- The tokens of a text, with byte offsets counted from `offset`. An unrecognized token ends
the list as an `illegal` token. -/
def tokenizeFrom : Nat → List Char → Nat → List Token → List Token
  | 0, _, _, acc => acc.reverse
  | fuel + 1, cs, offset, acc =>
    match scanOne cs with
    | .done => acc.reverse
    | .skip n rest => tokenizeFrom fuel rest (offset + byteLength (cs.take n)) acc
    | .token kind n rest =>
      let written := cs.take n
      tokenizeFrom fuel rest (offset + byteLength written)
        (⟨kind, offset, String.ofList written⟩ :: acc)
    | .unrecognized text => (⟨.illegal, offset, text⟩ :: acc).reverse

/-- The tokens of a text. -/
def tokenize (s : String) : List Token :=
  tokenizeFrom (s.length + 1) s.toList 0 []

end Schedule.Sql
