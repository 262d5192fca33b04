import Schedule.Number.Integer
import Schedule.Text.Blank

/-!
# Records of the text export

The text export is a sequence of lines, each a record of comma-separated tokens. A `"` right after
a token that is exactly `<` opens a quoted region that runs to the next `"`: commas and line breaks
inside it stay in the token, and so do the quotes. Carriage returns outside quoted regions are
dropped. A line break ends the record; a line with no token at all yields no record.

A record starts with a header `#<type> <id>` giving the record type and the id of the row.

## Main definitions

* `tokenize` — the records of a text.
* `RowHeader.parse?` — the record type and id of a header.
-/

namespace Schedule.Export

/-- The tokenizer's position: records so far, the current record and token, and whether a quoted
region is open. Tokens and lists are kept in reverse. -/
structure TokenizerState where
  records : List (List String) := []
  record : List String := []
  token : List Char := []
  quoted : Bool := false

/-- The token being read, in reading order. -/
def TokenizerState.current (s : TokenizerState) : String := String.ofList s.token.reverse

/-- Reads one character. -/
def TokenizerState.feed (s : TokenizerState) (c : Char) : TokenizerState :=
  if s.quoted then
    { s with token := c :: s.token, quoted := c != '"' }
  else if c = ',' then
    { s with record := s.current :: s.record, token := [] }
  else if c = '\r' then s
  else if c = '\n' then
    let record := if !s.token.isEmpty || !s.record.isEmpty then s.current :: s.record else s.record
    if record.isEmpty then { s with record := [], token := [] }
    else { s with records := record.reverse :: s.records, record := [], token := [] }
  else if c = '"' && s.token == ['<'] then
    { s with token := c :: s.token, quoted := true }
  else { s with token := c :: s.token }

/-- The records of a text, each a list of tokens. -/
def tokenize (text : String) : List (List String) :=
  let s := text.toList.foldl TokenizerState.feed {}
  let records :=
    if !s.token.isEmpty || !s.record.isEmpty then (s.current :: s.record).reverse :: s.records
    else s.records
  records.reverse

/-- The record type and row id of a record. -/
structure RowHeader where
  recordType : Int32
  id : String
  deriving Repr, Inhabited, DecidableEq

/-- Reads `#<type> <id>`: the type is the run of ASCII digits after `#` and must be a 32-bit
integer; the id is the rest, trimmed of blanks, then of trailing `-`, `=` and `:`, then of
blanks again. -/
def RowHeader.parse? (header : String) : Option RowHeader :=
  match header.toList with
  | '#' :: rest =>
    let digits := rest.takeWhile Schedule.Number.isDigit
    let tail := rest.dropWhile Schedule.Number.isDigit
    match Schedule.Number.readInt32? (String.ofList digits) with
    | none => none
    | some t =>
      let trimmed := Schedule.Text.trim (String.ofList tail)
      let stripped :=
        (trimmed.toList.reverse.dropWhile fun c => c = '-' || c = '=' || c = ':').reverse
      some ⟨t, Schedule.Text.trim (String.ofList stripped)⟩
  | _ => none

end Schedule.Export
