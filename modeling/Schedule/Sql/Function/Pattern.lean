import Schedule.Sql.Value

/-!
# Pattern matching: `LIKE` and `GLOB`

One matcher serves both operators; its rules say which characters are wildcards:

* `LIKE` has `%` (any run of characters) and `_` (one character), compares ASCII letters
  without regard to case unless told otherwise, and may have an escape character that makes
  the next pattern character literal;
* `GLOB` has `*` and `?`, compares exactly, and has character sets `[...]`: ranges `a-z`, a
  leading `^` to invert, and a `]` first in the set standing for itself.

The matcher reads the pattern from the left. After a run of `%` (with any `_` in it, each taking
one character) it looks for the next pattern character at each later place of the text and
matches the rest from there. A match that fails there and could not succeed at any later place
either (`exhausted`) ends the search of every enclosing `%`, which keeps the work bounded.

## Main definitions

* `PatternRules`, `PatternRules.like`, `PatternRules.glob`.
* `patternMatches` — whether a text matches a pattern.
-/

namespace Schedule.Sql

/-- How a pattern is read: its wildcards (none when disabled), whether `[...]` sets are read,
the escape character, and whether ASCII case is ignored. -/
structure PatternRules where
  all : Option Char
  one : Option Char
  sets : Bool := false
  escape : Option Char := none
  noCase : Bool := false
  deriving Inhabited

namespace PatternRules

/-- The rules of `LIKE` with an optional escape; an escape that equals a wildcard disables it. -/
def like (escape : Option Char) (noCase : Bool) : PatternRules :=
  { all := if escape == some '%' then none else some '%'
    one := if escape == some '_' then none else some '_'
    escape, noCase }

/-- The rules of `GLOB`. -/
def glob : PatternRules := { all := some '*', one := some '?', sets := true }

/-- The character that introduces something special other than a wildcard: the escape of
`LIKE`, or the `[` of `GLOB`. -/
def other (r : PatternRules) : Option Char := if r.sets then some '[' else r.escape

end PatternRules

/-- The outcome of matching from one place: a match, no match here, or no match at any later
place either. -/
inductive MatchOutcome where
  | matched
  | noMatch
  | exhausted
  deriving DecidableEq, Inhabited

/-- An ASCII capital as its small letter. -/
def asciiLower (c : Char) : Char := if 'A' ≤ c && c ≤ 'Z' then Char.ofNat (c.toNat + 32) else c

/-- Whether a pattern character matches a text character literally. -/
def PatternRules.same (r : PatternRules) (c d : Char) : Bool :=
  c == d || (r.noCase && c.toNat < 0x80 && d.toNat < 0x80 && asciiLower c == asciiLower d)

/-- Reads a `[...]` set after its `[`, for the text character `c`: whether `c` is in the set
(after any inversion) and the pattern after the closing `]`; none when the set is not closed. -/
def readSet (c : Char) (p : List Char) : Option (Bool × List Char) :=
  let (invert, p) := match p with
    | '^' :: rest => (true, rest)
    | _ => (false, p)
  let (seen, p) := match p with
    | ']' :: rest => (c == ']', rest)
    | _ => (false, p)
  let rec go (seen : Bool) (prior : Option Char) : List Char → Option (Bool × List Char)
    | [] => none
    | ']' :: rest => some (seen != invert, rest)
    | '-' :: d :: rest =>
      match prior with
      | some lo =>
        if d != ']' then go (seen || (lo ≤ c && c ≤ d)) none rest
        else go (seen || c == '-') (some '-') (d :: rest)
      | none => go (seen || c == '-') (some '-') (d :: rest)
    | d :: rest => go (seen || c == d) (some d) rest
  go seen none p

mutual

/-- Matches a pattern against a text; the fuel bounds the work and is at least the pattern's
length times the text's. -/
def matchFrom (r : PatternRules) : Nat → List Char → List Char → MatchOutcome
  | 0, _, _ => .noMatch
  | _ + 1, [], s => if s.isEmpty then .matched else .noMatch
  | fuel + 1, c :: p, s =>
    if some c == r.all then afterAll r fuel p s
    else if some c == r.other then
      if r.sets then
        match s with
        | [] => .noMatch
        | d :: more =>
          match readSet d p with
          | some (true, rest) => matchFrom r fuel rest more
          | _ => .noMatch
      else
        match p, s with
        | e :: rest, d :: more => if r.same e d then matchFrom r fuel rest more else .noMatch
        | _, _ => .noMatch
    else
      match s with
      | d :: more =>
        if r.same c d || some c == r.one then matchFrom r fuel p more else .noMatch
      | [] => .noMatch

/-- Matches after a `%`: further `%` and `_` are taken in, each `_` using up one character; then
the next pattern character is looked for at each later place of the text. -/
def afterAll (r : PatternRules) : Nat → List Char → List Char → MatchOutcome
  | 0, _, _ => .noMatch
  | fuel + 1, p, s =>
    match p with
    | [] => .matched
    | c :: more =>
      if some c == r.all then afterAll r fuel more s
      else if some c == r.one then
        match s with
        | _ :: rest => afterAll r fuel more rest
        | [] => .exhausted
      else if some c == r.other then
        if r.sets then trySets r fuel p s
        else
          match more with
          | e :: rest => search r fuel e rest s
          | [] => .exhausted
      else search r fuel c more s

/-- Looks for `target` at each place of the text and matches the pattern after it from just past
each occurrence. -/
def search (r : PatternRules) : Nat → Char → List Char → List Char → MatchOutcome
  | 0, _, _, _ => .noMatch
  | fuel + 1, target, p, s =>
    match s with
    | [] => .exhausted
    | d :: more =>
      if r.same target d then
        match matchFrom r fuel p more with
        | .noMatch => search r fuel target p more
        | outcome => outcome
      else search r fuel target p more

/-- Matches a pattern that starts with a `[...]` set at each place of the text. -/
def trySets (r : PatternRules) : Nat → List Char → List Char → MatchOutcome
  | 0, _, _ => .noMatch
  | fuel + 1, p, s =>
    match s with
    | [] => .exhausted
    | _ :: more =>
      match matchFrom r fuel p s with
      | .noMatch => trySets r fuel p more
      | outcome => outcome

end

/-- Whether a text matches a pattern under the rules. -/
def patternMatches (r : PatternRules) (text pattern : String) : Bool :=
  let p := pattern.toList
  let s := text.toList
  matchFrom r ((p.length + 2) * (s.length + 2) + 2) p s == .matched

end Schedule.Sql
