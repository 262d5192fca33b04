import Schedule.Error

/-!
# Comma-separated tables

A table is read as records of fields, one record a line. A field may be quoted: inside quotes,
commas and line breaks are text and a doubled quote is one quote; text after the closing quote
continues the field, and a quote that is never closed runs to the end. A carriage return, a line
feed, or both together end a record; empty lines are skipped. The first record names the
columns, and every other record must have as many fields. A byte-order mark that opens the text
is skipped.

Each record remembers where its reading began: the byte and line just after the record before
it (the first byte and line 1 for the first record). A record ended by a carriage return leaves
the line feed after it to the next record's reading.

## Main definitions

* `CsvScan.feed` — one character of the scanner.
* `readCsv` — the header and the records of a table, or the first record of the wrong length.
-/

namespace Schedule.Csv

/-- Where the scanner stands between characters. -/
inductive CsvState where
  /-- Before a record: line breaks are skipped. -/
  | startRecord
  /-- At the start of a field. -/
  | startField
  /-- Inside an unquoted field. -/
  | inField
  /-- Inside quotes. -/
  | inQuoted
  /-- Just after a quote inside quotes: a second quote is a quote, anything else closes. -/
  | quoteInQuoted
  /-- Just after a carriage return that ended a record. -/
  | afterReturn
  deriving Repr, Inhabited, DecidableEq

/-- A record with the place where its reading began. -/
structure CsvRecord where
  fields : List String
  byte : Nat
  line : Nat
  deriving Repr, Inhabited

/-- The scanner: its state, the field and record being read (in reverse), the records so far (in
reverse), the bytes and line breaks consumed, and where the current reading began. -/
structure CsvScan where
  state : CsvState := .startRecord
  field : List Char := []
  record : List String := []
  records : List CsvRecord := []
  byte : Nat := 0
  line : Nat := 1
  startByte : Nat := 0
  startLine : Nat := 1

namespace CsvScan

/-- Ends the current field. -/
def endField (s : CsvScan) : CsvScan :=
  { s with field := [], record := String.ofList s.field.reverse :: s.record }

/-- Ends the current record after its last field; the next reading begins here. -/
def endRecord (s : CsvScan) (next : CsvState) : CsvScan :=
  let s := s.endField
  { s with state := next, record := [],
           records := ⟨s.record.reverse, s.startByte, s.startLine⟩ :: s.records,
           startByte := s.byte, startLine := s.line }

/-- Whether a character ends a record. -/
def isTerminator (c : Char) : Bool := c = '\r' || c = '\n'

/-- Ends a field at a line break, and the record with it. -/
def terminate (s : CsvScan) (c : Char) : CsvScan :=
  s.endRecord (if c = '\r' then .afterReturn else .startRecord)

/-- Reads one character, already counted as consumed. -/
def step (s : CsvScan) (c : Char) : CsvScan :=
  match s.state with
  | .startRecord =>
    if isTerminator c then s
    else if c = '"' then { s with state := .inQuoted }
    else if c = ',' then { s.endField with state := .startField }
    else { s with state := .inField, field := c :: s.field }
  | .startField =>
    if c = '"' then { s with state := .inQuoted }
    else if c = ',' then s.endField
    else if isTerminator c then s.terminate c
    else { s with state := .inField, field := c :: s.field }
  | .inField =>
    if c = ',' then { s.endField with state := .startField }
    else if isTerminator c then s.terminate c
    else { s with field := c :: s.field }
  | .inQuoted =>
    if c = '"' then { s with state := .quoteInQuoted }
    else { s with field := c :: s.field }
  | .quoteInQuoted =>
    if c = '"' then { s with state := .inQuoted, field := c :: s.field }
    else if c = ',' then { s.endField with state := .startField }
    else if isTerminator c then s.terminate c
    else { s with state := .inField, field := c :: s.field }
  | .afterReturn =>
    if c = '\n' then { s with state := .startRecord }
    else if c = '"' then { s with state := .inQuoted }
    else if c = ',' then { s.endField with state := .startField }
    else if c = '\r' then { s with state := .startRecord }
    else { s with state := .inField, field := c :: s.field }

/-- Consumes one character: counts its bytes and line break, then reads it. The count comes
first so that a record ended by this character begins the next reading after it. -/
def feed (s : CsvScan) (c : Char) : CsvScan :=
  let s := { s with byte := s.byte + c.utf8Size, line := if c = '\n' then s.line + 1 else s.line }
  s.step c

/-- Ends the input: a record in progress is complete. -/
def finish (s : CsvScan) : List CsvRecord :=
  let s := match s.state with
    | .startRecord | .afterReturn => s
    | _ => s.endRecord .startRecord
  s.records.reverse

end CsvScan

/-- The records of a text. A byte-order mark at the very start is no part of the first record,
but its three bytes are counted in the places of the records after it. -/
def records (text : String) : List CsvRecord :=
  match text.toList with
  | '\uFEFF' :: rest => (rest.foldl CsvScan.feed { byte := 3 }).finish
  | cs => (cs.foldl CsvScan.feed {}).finish

/-- The header and the other records of a table. Fails at the first record whose field count
differs from the header's. -/
def readCsv (text : String) : Except CsvError (List String × List (List String)) :=
  match records text with
  | [] => .ok ([], [])
  | header :: rest =>
    let expected := header.fields.length
    let check := (rest.zip (List.range rest.length)).find? fun (r, _) =>
      r.fields.length != expected
    match check with
    | some (r, i) =>
      .error { record := i + 1, line := r.line, byte := r.byte, found := r.fields.length,
               expected }
    | none => .ok (header.fields, rest.map (·.fields))

end Schedule.Csv
