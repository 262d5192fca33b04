import Schedule.Sql.Compare
import Schedule.Sql.Function.Pattern
import Schedule.Sql.Function.Printf

/-!
# Functions of one row

The built-in functions that compute a value from the values of one row: numbers (`abs`,
`round`, `sign`), text (`length`, `lower`, `upper`, `substr`, `instr`, `replace`, the `trim`s,
`char`, `unicode`, `hex`, `unhex`, `quote`, `soundex`, `concat`, `printf`), patterns (`like`,
`glob`) and others (`typeof`, `nullif`, `min` and `max` of several values, `zeroblob`).

Functions are found by name without regard to case, and each accepts only certain numbers of
arguments (`FunctionKind.of?`); `min` and `max` of one argument, `count`, `sum`, `total`,
`avg`, `group_concat` and `string_agg` aggregate rows instead.

Text functions work on characters; on bytes they work on bytes. Letters change case only in
ASCII. A function fails with its own message: `abs` of the least integer overflows, a `LIKE`
pattern may be too long and its escape must be one character.

## Main definitions

* `FunctionKind` — how a call is evaluated: as a function of one row, or over a group.
* `FunctionKind.of?` — the kind of a call, or the reason there is none.
* `applyFunction` — the value of a function of one row.
-/

namespace Schedule.Sql

/-- How a call is evaluated. -/
inductive FunctionKind where
  /-- A function of one row. -/
  | scalar
  /-- A function over the rows of a group. -/
  | aggregate
  deriving Repr, DecidableEq, Inhabited

/-- The argument counts the functions of one row accept. -/
def scalarArity (name : String) : Option (Nat → Bool) :=
  let exactly (ns : List Nat) : Option (Nat → Bool) := some (ns.contains ·)
  match name with
  | "abs" | "hex" | "length" | "octet_length" | "lower" | "upper" | "quote" | "sign" | "soundex"
  | "typeof" | "unicode" | "zeroblob" | "likely" | "unlikely" | "randomblob" => exactly [1]
  | "changes" | "total_changes" | "last_insert_rowid" | "random" | "sqlite_version"
  | "sqlite_source_id" => exactly [0]
  | "glob" | "ifnull" | "instr" | "nullif" | "likelihood" | "timediff" => exactly [2]
  | "iif" | "replace" => exactly [3]
  | "like" => exactly [2, 3]
  | "ltrim" | "rtrim" | "trim" | "round" | "unhex" => exactly [1, 2]
  | "substr" | "substring" => exactly [2, 3]
  | "char" | "printf" | "format" | "date" | "time" | "datetime" | "julianday" | "unixepoch"
  | "strftime" => some fun _ => true
  | "coalesce" | "concat_ws" => some (· ≥ 2)
  | "concat" | "max" | "min" => some (· ≥ 1)
  | "sqlite_compileoption_used" | "sqlite_compileoption_get" => exactly [1]
  | _ => none

/-- The argument counts the aggregate functions accept. -/
def aggregateArity (name : String) : Option (Nat → Bool) :=
  match name with
  | "count" => some fun n => n ≤ 1
  | "sum" | "total" | "avg" => some (· == 1)
  | "max" | "min" => some (· == 1)
  | "group_concat" => some fun n => n == 1 || n == 2
  | "string_agg" => some (· == 2)
  | _ => none

/-- Why a call names no function: none by that name, or none with that many arguments. -/
inductive CallFault where
  | noSuchFunction
  | wrongArguments
  deriving Repr, DecidableEq, Inhabited

/-- The kind of a call of a function (named in lower case) with a number of arguments; a call
with `*` counts as none. -/
def FunctionKind.of? (name : String) (argc : Nat) : Except CallFault FunctionKind :=
  match aggregateArity name with
  | some ok => if ok argc then .ok .aggregate
    else match scalarArity name with
      | some ok2 => if ok2 argc then .ok .scalar else .error .wrongArguments
      | none => .error .wrongArguments
  | none =>
    match scalarArity name with
    | some ok => if ok argc then .ok .scalar else .error .wrongArguments
    | none => .error .noSuchFunction

/-- The settings a function call may read. -/
structure CallContext where
  collation : Collation := .binary
  caseSensitiveLike : Bool := false
  lastInsertRowid : Int := 0
  changes : Int := 0
  totalChanges : Int := 0
  deriving Inhabited

/-- The hexadecimal digits of bytes, in capitals. -/
def hexOf (bytes : List UInt8) : String :=
  let digit (n : Nat) : Char := "0123456789ABCDEF".toList.getD n '0'
  String.ofList (bytes.flatMap fun b => [digit (b.toNat / 16), digit (b.toNat % 16)])

/-- The value of a hexadecimal digit. -/
def hexDigit? (c : Char) : Option Nat :=
  if '0' ≤ c && c ≤ '9' then some (c.toNat - '0'.toNat)
  else if 'a' ≤ c && c ≤ 'f' then some (c.toNat - 'a'.toNat + 10)
  else if 'A' ≤ c && c ≤ 'F' then some (c.toNat - 'A'.toNat + 10)
  else none

/-- The bytes a text of hexadecimal digit pairs spells, the characters of `pass` allowed between
pairs; none when anything else stands in it. -/
def unhexText (pass : List Char) : List Char → Option (List UInt8)
  | [] => some []
  | c :: rest =>
    match hexDigit? c with
    | some hi =>
      match rest with
      | d :: more =>
        match hexDigit? d with
        | some lo => (unhexText pass more).map (UInt8.ofNat (hi * 16 + lo) :: ·)
        | none => none
      | [] => none
    | none => if pass.contains c then unhexText pass rest else none

/-- The text of `quote`: text in single quotes with quotes doubled, bytes as `X'…'`, numbers as
written and null as `NULL`; a double that its fifteen digits do not give back is written with
twenty. -/
def quoteValue : SqlValue → String
  | .null => "NULL"
  | .integer n => toString n
  | .real x =>
    let short := realText x
    if (readLeadingNumber short).value.toBits == x.toBits then short
    else String.ofList (formatDouble { alternate2 := true, precision := some 20 } x 1 false)
  | .text s => "'" ++ String.ofList (s.toList.flatMap fun c => if c = '\'' then [c, c] else [c]) ++ "'"
  | .blob b => "X'" ++ hexOf b ++ "'"

/-- The soundex code of a text: its first ASCII letter and the codes of the consonants after it,
four characters in all; `?000` when it has no ASCII letter. -/
def soundexOf (bytes : List UInt8) : String :=
  let code (b : UInt8) : Nat :=
    let c := Char.ofNat (b.toNat % 128)
    let u := if 'a' ≤ c && c ≤ 'z' then Char.ofNat (c.toNat - 32) else c
    match u with
    | 'B' | 'F' | 'P' | 'V' => 1
    | 'C' | 'G' | 'J' | 'K' | 'Q' | 'S' | 'X' | 'Z' => 2
    | 'D' | 'T' => 3
    | 'L' => 4
    | 'M' | 'N' => 5
    | 'R' => 6
    | _ => 0
  let isAlpha (b : UInt8) : Bool :=
    (65 ≤ b.toNat && b.toNat ≤ 90) || (97 ≤ b.toNat && b.toNat ≤ 122)
  match bytes.dropWhile (!isAlpha ·) with
  | [] => "?000"
  | first :: rest =>
    let upper := if 97 ≤ first.toNat then first.toNat - 32 else first.toNat
    let step (acc : List Nat × Nat) (b : UInt8) : List Nat × Nat :=
      let (out, prev) := acc
      if out.length ≥ 3 then acc
      else
        let c := code b
        if c > 0 then (if c != prev then (out ++ [c], c) else (out, prev)) else (out, 0)
    let (codes, _) := rest.foldl step ([], code first)
    let codes := codes ++ List.replicate (3 - codes.length) 0
    String.ofList (Char.ofNat upper :: codes.map digitChar)

/-- The characters of a text with those of `set` removed from the left, the right, or both. -/
def trimChars (set : List Char) (left right : Bool) (cs : List Char) : List Char :=
  let cs := if left then cs.dropWhile set.contains else cs
  if right then (cs.reverse.dropWhile set.contains).reverse else cs

/-- The place (from 1) of the first occurrence of a list in another, 0 when there is none. -/
def findFrom {α : Type} [BEq α] (hay needle : List α) : Nat :=
  let rec go (n : Nat) : List α → Nat
    | [] => if needle.isEmpty then n else 0
    | h :: rest => if (h :: rest).take needle.length == needle then n else go (n + 1) rest
  if needle.isEmpty then 1 else go 1 hay

/-- Replaces every occurrence of a nonempty pattern, from the left. -/
def replaceAll {α : Type} [BEq α] (pattern replacement : List α) : Nat → List α → List α
  | 0, s => s
  | fuel + 1, s =>
    match s with
    | [] => []
    | c :: rest =>
      if s.take pattern.length == pattern then
        replacement ++ replaceAll pattern replacement fuel (s.drop pattern.length)
      else c :: replaceAll pattern replacement fuel rest

/-- The part of a list `substr` takes: from place `start` (from 1; negative counts from the end;
0 one before the first), `count` items (negative: that many before the start). -/
def substrRange (len : Int) (start : Int) (count : Option Int) : Nat × Nat :=
  let (p2, negative) := match count with
    | some c => if c < 0 then (-c, true) else (c, false)
    | none => (1000000000, false)
  let (p1, p2) :=
    if start < 0 then
      let p1 := start + len
      if p1 < 0 then (0, max 0 (p2 + p1)) else (p1, p2)
    else if start > 0 then (start - 1, p2)
    else if p2 > 0 then (0, p2 - 1) else (0, p2)
  let (p1, p2) :=
    if negative then
      let p1' := p1 - p2
      if p1' < 0 then (0, p2 + p1') else (p1', p2)
    else (p1, p2)
  (p1.toNat, p2.toNat)

/-- The code point `char` writes for an integer: out-of-range values become U+FFFD. -/
def charOf (n : Int) : Char :=
  if n < 0 || n > 0x10FFFF || (0xD800 ≤ n && n ≤ 0xDFFF) then '�' else Char.ofNat n.toNat

/-- `round(x, digits)`: half away from zero at no digits, otherwise through the decimal text of
`x` with that many digits after the point. -/
def roundValue (x : Float) (digits : Int) : Float :=
  let n := if digits > 30 then 30 else if digits < 0 then 0 else digits
  if x < -4503599627370496.0 || x > 4503599627370496.0 then x
  else if n = 0 then
    intToFloat (SqlValue.realToInt (if x < 0 then x - 0.5 else x + 0.5))
  else
    let text := String.ofList (formatDouble { alternate2 := true, precision := some n.toNat } x 0
      false)
    (readLeadingNumber text).value

/-- The longest `LIKE` or `GLOB` pattern, in bytes. -/
def patternLimit : Nat := 50000

/-- Whether a text matches a pattern with `LIKE` rules and an optional escape value; null when
either is null, a failure when the pattern is too long or the escape is not one character. -/
def likeValue (ctx : CallContext) (pattern text : SqlValue) (escape : Option SqlValue) :
    Except String SqlValue := do
  if pattern.bytes.length > patternLimit then throw "LIKE or GLOB pattern too complex"
  let esc ← match escape with
    | none => pure none
    | some .null => return .null
    | some v =>
      match v.toText.toList with
      | [c] => pure (some c)
      | _ => throw "ESCAPE expression must be a single character"
  match pattern, text with
  | .null, _ | _, .null => pure .null
  | p, t =>
    let rules := PatternRules.like esc (!ctx.caseSensitiveLike)
    pure (.integer (if patternMatches rules t.toText p.toText then 1 else 0))

/-- Whether a text matches a `GLOB` pattern; null when either is null. -/
def globValue (pattern text : SqlValue) : Except String SqlValue := do
  if pattern.bytes.length > patternLimit then throw "LIKE or GLOB pattern too complex"
  match pattern, text with
  | .null, _ | _, .null => pure .null
  | p, t => pure (.integer (if patternMatches .glob t.toText p.toText then 1 else 0))

/-- The value of a function of one row, named in lower case, on its argument values. -/
def applyFunction (ctx : CallContext) (name : String) (args : List SqlValue) :
    Except String SqlValue :=
  let arg (i : Nat) : SqlValue := args.getD i .null
  match name with
  | "abs" =>
    match arg 0 with
    | .null => pure .null
    | .integer n => if n = int64Min then throw "integer overflow" else pure (.integer n.natAbs)
    | v => pure (.real (let r := v.toReal; if r < 0 then -r else r))
  | "typeof" => pure (.text (arg 0).typeName)
  | "length" =>
    match arg 0 with
    | .null => pure .null
    | .blob b => pure (.integer b.length)
    | v => pure (.integer v.toText.length)
  | "octet_length" =>
    match arg 0 with
    | .null => pure .null
    | v => pure (.integer v.bytes.length)
  | "lower" | "upper" =>
    match arg 0 with
    | .null => pure .null
    | v =>
      let f : Char → Char := if name == "lower" then asciiLower
        else fun c => if 'a' ≤ c && c ≤ 'z' then Char.ofNat (c.toNat - 32) else c
      pure (.text (v.toText.map f))
  | "hex" => pure (.text (hexOf (arg 0).bytes))
  | "quote" => pure (.text (quoteValue (arg 0)))
  | "unicode" =>
    match arg 0 with
    | .null => pure .null
    | v => pure ((v.toText.toList.head?.map fun c => SqlValue.integer c.toNat).getD .null)
  | "char" => pure (.text (String.ofList (args.map fun v => charOf v.toInt)))
  | "soundex" =>
    match arg 0 with
    | .null => pure (.text "?000")
    | v => pure (.text (soundexOf v.bytes))
  | "sign" =>
    match (arg 0).numericType with
    | .integer n => pure (.integer (if n < 0 then -1 else if n > 0 then 1 else 0))
    | .real x => pure (.integer (if x < 0 then -1 else if x > 0 then 1 else 0))
    | _ => pure .null
  | "zeroblob" =>
    let n := (arg 0).toInt
    if n > 1000000000 then throw "string or blob too big"
    else pure (.blob (List.replicate (if n < 0 then 0 else n.toNat) 0))
  | "nullif" =>
    if (arg 0).compareWith ctx.collation (arg 1) != .eq then pure (arg 0) else pure .null
  | "max" | "min" =>
    if args.any SqlValue.isNull then pure .null
    else
      let better (best v : SqlValue) : Bool :=
        let c := best.compareWith ctx.collation v
        if name == "max" then c == .lt else c != .lt
      pure (args.foldl (fun best v => if better best v then v else best) (arg 0))
  | "instr" =>
    match arg 0, arg 1 with
    | .null, _ | _, .null => pure .null
    | .blob h, .blob n => pure (.integer (findFrom h n))
    | h, n => pure (.integer (findFrom h.toText.toList n.toText.toList))
  | "replace" =>
    match arg 0, arg 1, arg 2 with
    | .null, _, _ | _, .null, _ => pure .null
    | s, p, r =>
      if p.toText.isEmpty then pure (.text s.toText)
      else
        match r with
        | .null => pure .null
        | r =>
          let cs := s.toText.toList
          pure (.text (String.ofList (replaceAll p.toText.toList r.toText.toList (cs.length + 1) cs)))
  | "ltrim" | "rtrim" | "trim" =>
    match arg 0 with
    | .null => pure .null
    | v =>
      let set := if args.length ≥ 2 then (arg 1).text?.map (·.toList) else some [' ']
      match set with
      | none => pure .null
      | some set =>
        pure (.text (String.ofList (trimChars set (name != "rtrim") (name != "ltrim")
          v.toText.toList)))
  | "substr" | "substring" =>
    if (arg 1).isNull || (args.length ≥ 3 && (arg 2).isNull) then pure .null
    else
      let start := (arg 1).toInt
      let count := if args.length ≥ 3 then some (arg 2).toInt else none
      match arg 0 with
      | .null => pure .null
      | .blob b =>
        let (p1, p2) := substrRange b.length start count
        pure (.blob ((b.drop p1).take p2))
      | v =>
        let cs := v.toText.toList
        let (p1, p2) := substrRange cs.length start count
        pure (.text (String.ofList ((cs.drop p1).take p2)))
  | "round" =>
    if args.length ≥ 2 && (arg 1).isNull then pure .null
    else
      match arg 0 with
      | .null => pure .null
      | v => pure (.real (roundValue v.toReal (if args.length ≥ 2 then (arg 1).toInt else 0)))
  | "unhex" =>
    let pass := if args.length ≥ 2 then (arg 1).text? else some ""
    match (arg 0).text?, pass with
    | some h, some p => pure ((unhexText p.toList h.toList).map SqlValue.blob |>.getD .null)
    | _, _ => pure .null
  | "concat" => pure (.text (String.join (args.filterMap SqlValue.text?)))
  | "concat_ws" =>
    match arg 0 with
    | .null => pure .null
    | sep => pure (.text (sep.toText.intercalate ((args.drop 1).filterMap SqlValue.text?)))
  | "printf" | "format" =>
    pure ((printfFormat (arg 0) (args.drop 1)).map SqlValue.text |>.getD .null)
  | "like" => likeValue ctx (arg 0) (arg 1) (if args.length ≥ 3 then some (arg 2) else none)
  | "glob" => globValue (arg 0) (arg 1)
  | "sqlite_version" => pure (.text "3.45.1")
  | "last_insert_rowid" => pure (.integer ctx.lastInsertRowid)
  | "changes" => pure (.integer ctx.changes)
  | "total_changes" => pure (.integer ctx.totalChanges)
  | "random" => pure (.integer 0)
  | "randomblob" =>
    let n := (arg 0).toInt
    pure (.blob (List.replicate (if n < 1 then 1 else n.toNat) 0))
  | "sqlite_compileoption_used" => pure (.integer 0)
  | _ => pure .null

end Schedule.Sql
