import Schedule.Number.Print

/-!
# JSON documents

The interchange form of a schedule is a JSON document. Numbers are kept as the token that is
written, so an integer stays an integer and a double is written by its shortest digits with a
point or an exponent (`jsonText?`). Doubles that are not finite have no token: `Json.float`
writes them as `null`. Strings escape the quote, the backslash and control characters; all other
characters are written as they are.
-/

namespace Schedule

/-- A JSON document. -/
inductive Json where
  | null
  | bool (b : Bool)
  | number (token : String)
  | string (s : String)
  | array (items : List Json)
  | object (fields : List (String × Json))
  deriving Inhabited

namespace Json

/-- An integer. -/
def int (n : Int) : Json := .number (toString n)

/-- A finite double by its shortest digits, `null` otherwise. -/
def float (x : Float) : Json :=
  match Schedule.Number.jsonText? x with
  | some t => .number t
  | none => .null

/-- An optional value, `null` when absent. -/
def opt {α : Type} (f : α → Json) : Option α → Json
  | some a => f a
  | none => .null

/-- Four hexadecimal digits of a code unit. -/
def hex4 (n : Nat) : String :=
  let digits := Nat.toDigits 16 n
  String.ofList (List.replicate (4 - digits.length) '0' ++ digits)

/-- The escaped form of one character inside a string. -/
def escapeChar (c : Char) : String :=
  if c = '"' then "\\\""
  else if c = '\\' then "\\\\"
  else if c = '\n' then "\\n"
  else if c = '\r' then "\\r"
  else if c = '\t' then "\\t"
  else if c.toNat < 0x20 then "\\u" ++ hex4 c.toNat
  else String.singleton c

/-- A string token. -/
def quote (s : String) : String :=
  "\"" ++ String.join (s.toList.map escapeChar) ++ "\""

mutual
/-- The text of a document. -/
def render : Json → String
  | .null => "null"
  | .bool b => if b then "true" else "false"
  | .number t => t
  | .string s => quote s
  | .array items => "[" ++ renderItems items ++ "]"
  | .object fields => "\x7b" ++ renderFields fields ++ "\x7d"

/-- The items of an array, separated by commas. -/
def renderItems : List Json → String
  | [] => ""
  | [x] => render x
  | x :: xs => render x ++ "," ++ renderItems xs

/-- The fields of an object, separated by commas. -/
def renderFields : List (String × Json) → String
  | [] => ""
  | [(k, v)] => quote k ++ ":" ++ render v
  | (k, v) :: rest => quote k ++ ":" ++ render v ++ "," ++ renderFields rest
end

end Json

end Schedule
