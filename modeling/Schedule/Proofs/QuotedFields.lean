import Schedule.Export.Reader
import Schedule.Proofs.TaskFill

/-!
# Quoted fields of the text export

A field of the text export may be written as a quoted region `<"v">`. Standing after a comma, it
is kept whole by the tokenizer, commas and line breaks included, and the decoder strips the
wrapping, so the field reads as `v` and the fields after it keep their columns.

The first field of a record is written right after the header `#<type> <id>:` and shares its
token, which never opens a quoted region: a comma in it cuts the token, and the reader puts back
together a piece that opens a quote with the one piece after it. So a quoted first field reads as
`v` when `v` holds at most one comma and no colon (the header ends at the token's last colon);
with two commas the field stops at the second one and its rest moves to the next column.

## Main definitions

* `Whole`, `WholeLine`, `linesText` — tokens the tokenizer reads back as written, and the text
  of records made of them.
* `Field`, `Field.FitsFirst`, `Field.FitsLater`, `recordText` — a record as written.
* `ExportState.withRow` — the reader's state with one more row.

## Main statements

* `tokenize_linesText` — the tokenizer reads records of whole tokens back.
* `readToken_header` — the header's token is read as the header and a token of what follows it.
* `buildRow_value?` — each column of a row is decoded from the value in its own position.
* `readRecords_quoted_fields` — a record of a registered table adds the row of its fields, each
  in its own column, a quoted field reading as the text it quotes.
-/

namespace Schedule.Export

/-! ### Tokens -/

/-- A field written as a quoted region. -/
def quote (v : List Char) : List Char := '<' :: '"' :: (v ++ ['"', '>'])

/-- A token the tokenizer reads back as written: text with no comma, line break or carriage
return that does not open a quoted region, or a quoted region `<"v">` whose text has no quote. -/
inductive Whole : List Char → Prop
  | plain {t : List Char} (hsep : ∀ c ∈ t, c ≠ ',' ∧ c ≠ '\n' ∧ c ≠ '\r')
      (hopen : ¬ ['<', '"'] <+: t) : Whole t
  | quoted {v : List Char} (hv : '"' ∉ v) : Whole (quote v)

/-- A record of whole tokens that is not blank. -/
structure WholeLine (l : List (List Char)) : Prop where
  ne_nil : l ≠ []
  ne_blank : l ≠ [[]]
  whole : ∀ w ∈ l, Whole w

/-- The text of records given by their tokens: commas between the tokens, a line break after
each record. -/
def linesText (lines : List (List (List Char))) : List Char :=
  lines.flatMap fun l => [','].intercalate l ++ ['\n']

namespace TokenizerState

variable {s : TokenizerState} {c : Char}

theorem feed_of_quoted (hq : s.quoted = true) (c : Char) :
    s.feed c = { s with token := c :: s.token, quoted := c != '"' } := by
  simp [feed, hq]

theorem feed_comma (hq : s.quoted = false) :
    s.feed ',' = { s with record := s.current :: s.record, token := [] } := by
  simp [feed, hq]

/-- A comma never changes whether a quoted region is open. -/
@[simp] theorem quoted_feed_comma (s : TokenizerState) : (s.feed ',').quoted = s.quoted := by
  cases hq : s.quoted
  · rw [feed_comma hq]
    exact hq
  · rw [feed_of_quoted hq]
    rfl

@[simp] theorem records_feed_comma (s : TokenizerState) : (s.feed ',').records = s.records := by
  cases hq : s.quoted
  · rw [feed_comma hq]
  · rw [feed_of_quoted hq]

/-- A line break ends the record that a comma would leave, unless that is one empty token. -/
theorem feed_newline (hq : s.quoted = false) (hne : (s.feed ',').record ≠ [""]) :
    s.feed '\n' =
      { s with records := (s.feed ',').record.reverse :: s.records, record := [], token := [] } := by
  rw [feed_comma hq] at hne ⊢
  -- the record is not blank: there is a token before, or the last one is not empty
  have hopen : (!s.token.isEmpty || !s.record.isEmpty) = true := by
    cases ht : s.token with
    | cons _ _ => rfl
    | nil =>
      cases hr : s.record with
      | cons _ _ => simp
      | nil => simp [current, ht, hr] at hne
  simp [feed, hq, hopen]

theorem feed_char (hq : s.quoted = false) (hc : c ≠ ',' ∧ c ≠ '\n' ∧ c ≠ '\r')
    (hopen : ¬ (c = '"' ∧ s.token = ['<'])) : s.feed c = { s with token := c :: s.token } := by
  obtain ⟨h₁, h₂, h₃⟩ := hc
  have hq' : (c = '"' && s.token == ['<']) = false := by
    by_cases h : c = '"'
    · have : s.token ≠ ['<'] := fun ht => hopen ⟨h, ht⟩
      simp [this]
    · simp [h]
  simp [feed, hq, h₁, h₂, h₃, hq']

theorem feed_open (hq : s.quoted = false) (ht : s.token = ['<']) :
    s.feed '"' = { s with token := ['"', '<'], quoted := true } := by
  simp [feed, hq, ht]

/-- Plain text goes into the token as it stands. The induction is on the text still to read;
the token holds the reversed text read before it. -/
theorem foldl_feed_plain : ∀ (q p : List Char) (s : TokenizerState),
    (∀ c ∈ p ++ q, c ≠ ',' ∧ c ≠ '\n' ∧ c ≠ '\r') → ¬ ['<', '"'] <+: p ++ q →
    s.quoted = false → s.token = p.reverse →
    q.foldl feed s = { s with token := (p ++ q).reverse }
  | [], p, s, _, _, _, ht => by
    rw [List.foldl_nil, List.append_nil, ← ht]
  | c :: q, p, s, hsep, hopen, hq, ht => by
    -- a quote opens a region only right after a lone `<`, where the text would start with `<"`
    have hc : ¬ (c = '"' ∧ s.token = ['<']) := by
      rintro ⟨rfl, hp⟩
      rw [ht, List.reverse_eq_cons_iff, List.reverse_nil, List.nil_append] at hp
      subst hp
      exact hopen ⟨q, rfl⟩
    rw [List.foldl_cons, feed_char hq (hsep c (by simp)) hc,
      foldl_feed_plain q (p ++ [c]) { s with token := c :: s.token } (by simpa using hsep)
        (by simpa using hopen) hq (by simp [ht])]
    simp

/-- Text without a quote, inside a quoted region, goes into the token as it stands. -/
theorem foldl_feed_quoted : ∀ (v : List Char) (s : TokenizerState), '"' ∉ v →
    s.quoted = true → v.foldl feed s = { s with token := v.reverse ++ s.token }
  | [], s, _, _ => by simp
  | c :: v, s, hv, hq => by
    have hc : c ≠ '"' := fun h => hv (h ▸ List.mem_cons_self)
    rw [List.foldl_cons, feed_of_quoted hq,
      foldl_feed_quoted v _ (fun h => hv (List.mem_cons_of_mem c h)) (by simpa using hc)]
    simp [hc, hq]

/-- A whole token read after a separator is the current token, with no quoted region open. -/
theorem foldl_feed_whole {t : List Char} (ht : Whole t) (s : TokenizerState) (hq : s.quoted = false)
    (htok : s.token = []) : t.foldl feed s = { s with token := t.reverse } := by
  cases ht with
  | plain hsep hopen => exact foldl_feed_plain t [] s hsep hopen hq (by simp [htok])
  | quoted hv =>
    -- the region opens at `<"`, runs over the text and closes at the quote before `>`
    have h₁ : s.feed '<' = { s with token := ['<'] } := by
      rw [feed_char hq (by decide) (by simp)]
      simp [htok]
    have h₂ : ({ s with token := ['<'] } : TokenizerState).feed '"' =
        { s with token := ['"', '<'], quoted := true } := feed_open hq rfl
    rw [quote, List.foldl_cons, List.foldl_cons, h₁, h₂, List.foldl_append,
      foldl_feed_quoted _ _ hv rfl, List.foldl_cons, feed_of_quoted rfl, List.foldl_cons,
      feed_char rfl (by decide) (by simp), List.foldl_nil]
    cases s
    simp_all

/-- A whole token and the comma after it add the token to the record. -/
theorem foldl_feed_whole_comma {t : List Char} (ht : Whole t) (s : TokenizerState)
    (hq : s.quoted = false) (htok : s.token = []) :
    (t ++ [',']).foldl feed s = { s with record := String.ofList t :: s.record } := by
  rw [List.foldl_append, foldl_feed_whole ht s hq htok, List.foldl_cons, List.foldl_nil,
    feed_comma (s := { s with token := t.reverse }) hq]
  cases s
  simp_all [current]

/-- Whole tokens with a comma after each add them all to the record. -/
theorem foldl_feed_line_comma : ∀ (ws : List (List Char)) (w : List Char) (s : TokenizerState),
    (∀ x ∈ w :: ws, Whole x) → s.quoted = false → s.token = [] →
    ([','].intercalate (w :: ws) ++ [',']).foldl feed s =
      { s with record := ((w :: ws).map String.ofList).reverse ++ s.record }
  | [], w, s, hw, hq, htok => by
    rw [List.intercalate_singleton, foldl_feed_whole_comma (hw w List.mem_cons_self) s hq htok]
    simp
  | w' :: ws, w, s, hw, hq, htok => by
    have htext : [','].intercalate (w :: w' :: ws) ++ [','] =
        (w ++ [',']) ++ ([','].intercalate (w' :: ws) ++ [',']) := by
      simp [List.intercalate_cons_cons]
    rw [htext, List.foldl_append, foldl_feed_whole_comma (hw w List.mem_cons_self) s hq htok,
      foldl_feed_line_comma ws w' { s with record := String.ofList w :: s.record }
        (fun x hx => hw x (List.mem_cons_of_mem w hx)) hq htok]
    simp

/-- A record of whole tokens and its line break add the record. -/
theorem foldl_feed_line {l : List (List Char)} (hl : WholeLine l) (s : TokenizerState)
    (hq : s.quoted = false) (htok : s.token = []) (hrec : s.record = []) :
    ([','].intercalate l ++ ['\n']).foldl feed s =
      { s with records := l.map String.ofList :: s.records } := by
  obtain ⟨w, ws, rfl⟩ := List.exists_cons_of_ne_nil hl.ne_nil
  set s₀ := ([','].intercalate (w :: ws)).foldl feed s with hs₀
  -- the line read up to its end is what a comma there would close
  have hcomma : s₀.feed ',' = { s with record := ((w :: ws).map String.ofList).reverse } := by
    have := foldl_feed_line_comma ws w s hl.whole hq htok
    rwa [List.foldl_append, List.foldl_cons, List.foldl_nil, hrec, List.append_nil] at this
  have hq₀ : s₀.quoted = false := by rw [← quoted_feed_comma, hcomma, hq]
  have hrecords : s₀.records = s.records := by rw [← records_feed_comma, hcomma]
  have hne : (s₀.feed ',').record ≠ [""] := by
    rw [hcomma]
    intro h
    apply hl.ne_blank
    have : (w :: ws).map String.ofList = [String.ofList []] := by
      simpa using congrArg List.reverse h
    simpa [List.map_eq_singleton_iff, String.ofList_eq_empty_iff] using this
  rw [List.foldl_append, List.foldl_cons, List.foldl_nil, ← hs₀, feed_newline hq₀ hne, hcomma,
    hrecords]
  simp only [List.reverse_reverse]
  cases s
  simp_all

/-- Records of whole tokens, each with its line break, are read as those records. -/
theorem foldl_feed_linesText : ∀ (lines : List (List (List Char))) (s : TokenizerState),
    (∀ l ∈ lines, WholeLine l) → s.quoted = false → s.token = [] → s.record = [] →
    (linesText lines).foldl feed s =
      { s with records := (lines.map fun l => l.map String.ofList).reverse ++ s.records }
  | [], s, _, _, _, _ => by simp [linesText]
  | l :: lines, s, hl, hq, htok, hrec => by
    rw [linesText, List.flatMap_cons, List.foldl_append,
      foldl_feed_line (hl l List.mem_cons_self) s hq htok hrec, ← linesText,
      foldl_feed_linesText lines { s with records := l.map String.ofList :: s.records }
        (fun l' h => hl l' (List.mem_cons_of_mem l h)) hq htok hrec]
    simp

end TokenizerState

/-- The tokenizer reads records of whole tokens back. -/
theorem tokenize_linesText {lines : List (List (List Char))} (h : ∀ l ∈ lines, WholeLine l) :
    tokenize (String.ofList (linesText lines)) = lines.map fun l => l.map String.ofList := by
  rw [tokenize, String.toList_ofList,
    TokenizerState.foldl_feed_linesText lines {} h rfl rfl rfl]
  simp

/-! ### Reading the tokens of a record -/

@[simp] theorem Reading.ok_bind {α β : Type} (a : α) (f : α → Reading β) :
    (Except.ok a >>= f) = f a := rfl

theorem endsWith_eq_true_iff (s t : String) : s.endsWith t = true ↔ t.toList <:+ s.toList := by
  rw [String.endsWith_eq_endsWith_toSlice, String.Slice.endsWith_string_iff, String.copy_toSlice]

/-- A token opens a quoted region the reader waits to close when it starts with `<"` and does not
end with `">`. -/
theorem opensQuote_iff (t : List Char) :
    opensQuote (String.ofList t) = true ↔ ['<', '"'] <+: t ∧ ¬ ['"', '>'] <:+ t := by
  have hstart : (String.ofList t).startsWith "<\"" = true ↔ ['<', '"'] <+: t := by
    rw [String.startsWith_string_iff]
    simp only [String.toList_ofList]
    rfl
  have hend : (String.ofList t).endsWith "\">" = true ↔ ['"', '>'] <:+ t := by
    rw [endsWith_eq_true_iff]
    simp only [String.toList_ofList]
    rfl
  rw [opensQuote, Bool.and_eq_true, Bool.not_eq_true', Bool.eq_false_iff, ne_eq, hstart, hend]

theorem opensQuote_of_not_prefix {t : List Char} (ht : ¬ ['<', '"'] <+: t) :
    opensQuote (String.ofList t) = false := by
  rw [Bool.eq_false_iff, ne_eq, opensQuote_iff]
  exact fun h => ht h.1

theorem opensQuote_quote (v : List Char) : opensQuote (String.ofList (quote v)) = false := by
  rw [Bool.eq_false_iff, ne_eq, opensQuote_iff]
  exact fun h => h.2 ⟨'<' :: '"' :: v, by simp [quote]⟩

/-- A header is read from text starting with `#`. -/
theorem RowHeader.toList_of_parse? {s : String} {h : RowHeader} (hh : RowHeader.parse? s = some h) :
    ∃ rest, s.toList = '#' :: rest := by
  unfold RowHeader.parse? at hh
  split at hh
  · exact ⟨_, ‹_›⟩
  · cases hh

/-- A header's token is cut at its last colon, when it does not end with `-` or `=`. -/
theorem splitHeader_eq {header t : List Char} (ht : ':' ∉ t)
    (hdash : ¬ ['-'] <:+ header ++ ':' :: t) (hequals : ¬ ['='] <:+ header ++ ':' :: t) :
    splitHeader (String.ofList (header ++ ':' :: t)) =
      some (String.ofList header, some (String.ofList t)) := by
  have hcolon : ∀ c ∈ t.reverse, (c != ':') = true := fun c hc => by
    have : c ≠ ':' := fun h => ht (h ▸ List.mem_reverse.mp hc)
    simpa using this
  have hrev : (header ++ ':' :: t).reverse = t.reverse ++ ':' :: header.reverse := by simp
  have hbefore :
      (((header ++ ':' :: t).reverse.dropWhile (· != ':')).reverse.dropLast) = header := by
    rw [hrev, List.dropWhile_append_of_pos hcolon, List.dropWhile_cons_of_neg (by simp)]
    simp
  have hafter : ((header ++ ':' :: t).reverse.takeWhile (· != ':')).reverse = t := by
    rw [hrev, List.takeWhile_append_of_pos hcolon, List.takeWhile_cons_of_neg (by simp)]
    simp
  have hend : ((String.ofList (header ++ ':' :: t)).endsWith "-" ||
      (String.ofList (header ++ ':' :: t)).endsWith "=") = false := by
    rw [Bool.or_eq_false_iff, Bool.eq_false_iff, Bool.eq_false_iff, ne_eq, ne_eq,
      endsWith_eq_true_iff, endsWith_eq_true_iff]
    simp only [String.toList_ofList]
    exact ⟨hdash, hequals⟩
  have hcontains : (header ++ ':' :: t).contains ':' = true := by simp
  unfold splitHeader
  simp only [String.toList_ofList, hcontains, Bool.not_true, Bool.false_eq_true, if_false, hend,
    hbefore, hafter]

/-- The header's token is read as the header, giving the row id and the table, and then as a
token of the text after the colon. -/
theorem readToken_header (fs : Formats) (st : ExportState) {header t : List Char} {h : RowHeader}
    (hh : RowHeader.parse? (String.ofList header) = some h) (ht : ':' ∉ t)
    (hdash : ¬ ['-'] <:+ header ++ ':' :: t) (hequals : ¬ ['='] <:+ header ++ ':' :: t) :
    readToken fs (st, {}) (String.ofList (header ++ ':' :: t)) =
      readToken fs (st, { values := [h.id], table := st.format.bind (·.table? h.recordType) })
        (String.ofList t) := by
  obtain ⟨rest, hrest⟩ := RowHeader.toList_of_parse? hh
  have hhash : (String.ofList (header ++ ':' :: t)).startsWith "#" = true := by
    rw [String.toList_ofList] at hrest
    rw [String.startsWith_string_iff]
    simp only [String.toList_ofList, hrest]
    exact ⟨rest ++ ':' :: t, rfl⟩
  unfold readToken
  simp only [hhash, splitHeader_eq ht hdash hequals, hh, List.isEmpty_nil, if_true,
    List.isEmpty_cons, Bool.false_eq_true, if_false]

section LaterTokens

variable (fs : Formats) (st : ExportState) {rec : RecordState} {token : String}

/-- A token that opens no quote, with none waiting, is the next value. -/
theorem readToken_value (hv : rec.values ≠ []) (ht : rec.table.isSome)
    (hp : rec.pending = none) (ho : opensQuote token = false) :
    readToken fs (st, rec) token = .ok (st, { rec with values := token :: rec.values }) := by
  obtain ⟨layout, hl⟩ := Option.isSome_iff_exists.mp ht
  cases rec
  simp_all [readToken]

/-- A token after one that opened a quote is joined to it with the comma between them. -/
theorem readToken_joins {p : String} (hv : rec.values ≠ []) (ht : rec.table.isSome)
    (hp : rec.pending = some p) (ho : opensQuote token = false) :
    readToken fs (st, rec) token =
      .ok (st, { rec with values := (p ++ "," ++ token) :: rec.values, pending := none }) := by
  obtain ⟨layout, hl⟩ := Option.isSome_iff_exists.mp ht
  cases rec
  simp_all [readToken]

/-- A token that opens a quote waits for the next one. -/
theorem readToken_opens (hv : rec.values ≠ []) (ht : rec.table.isSome)
    (ho : opensQuote token = true) :
    readToken fs (st, rec) token = .ok (st, { rec with pending := some token }) := by
  obtain ⟨layout, hl⟩ := Option.isSome_iff_exists.mp ht
  cases rec
  simp_all [readToken]

/-- Tokens that open no quote are the next values, in order. -/
theorem foldlM_readToken_values : ∀ (ts : List String) (rec : RecordState),
    rec.values ≠ [] → rec.table.isSome → rec.pending = none →
    (∀ t ∈ ts, opensQuote t = false) →
    ts.foldlM (readToken fs) (st, rec) = .ok (st, { rec with values := ts.reverse ++ rec.values })
  | [], rec, _, _, _, _ => by simp
  | t :: ts, rec, hv, ht, hp, ho => by
    rw [List.foldlM_cons, readToken_value fs st hv ht hp (ho t List.mem_cons_self), Reading.ok_bind,
      foldlM_readToken_values ts { rec with values := t :: rec.values } (by simp) ht hp
      fun t' h => ho t' (List.mem_cons_of_mem t h)]
    simp

end LaterTokens

/-! ### Records as written -/

/-- A field of a record as written: plain text, or text quoted as `<"v">`. -/
inductive Field where
  | plain (s : List Char)
  | quoted (v : List Char)

namespace Field

/-- The field as it stands in the record. -/
def written : Field → List Char
  | plain s => s
  | quoted v => quote v

/-- The value the reader takes for a field. -/
def text (x : Field) : String := String.ofList x.written

end Field

/-- Text that neither ends a token nor opens a quoted region: no comma, line break, carriage
return or quote. -/
def Bare (s : List Char) : Prop := ∀ c ∈ s, c ≠ ',' ∧ c ≠ '\n' ∧ c ≠ '\r' ∧ c ≠ '"'

instance (s : List Char) : Decidable (Bare s) :=
  inferInstanceAs (Decidable (∀ c ∈ s, c ≠ ',' ∧ c ≠ '\n' ∧ c ≠ '\r' ∧ c ≠ '"'))

namespace Bare

variable {s : List Char}

/-- Bare text has no character that ends a token. -/
theorem unbroken (hs : Bare s) : ∀ c ∈ s, c ≠ ',' ∧ c ≠ '\n' ∧ c ≠ '\r' :=
  fun c hc => ⟨(hs c hc).1, (hs c hc).2.1, (hs c hc).2.2.1⟩

theorem quote_not_mem (hs : Bare s) : '"' ∉ s := fun hq => (hs '"' hq).2.2.2 rfl

/-- Bare text opens no quoted region. -/
theorem not_prefix_open (hs : Bare s) : ¬ ['<', '"'] <+: s :=
  fun hpre => hs.quote_not_mem (hpre.subset (by simp))

/-- Quoting bare text adds no character that ends a token. -/
theorem unbroken_quote (hs : Bare s) :
    ∀ c ∈ quote s, c ≠ ',' ∧ c ≠ '\n' ∧ c ≠ '\r' := by
  rw [quote, List.forall_mem_cons, List.forall_mem_cons, List.forall_mem_append]
  exact ⟨by decide, by decide, hs.unbroken, by simp⟩

end Bare

namespace Field

/-- A field after the first: bare plain text, or quoted text without a quote. -/
def FitsLater : Field → Prop
  | plain s => Bare s
  | quoted v => '"' ∉ v

/-- A first field, written right after the colon of the header. It shares the header's token, so
no quoted region opens in it, the header ends at the token's last colon, and a token ending with
`-` or `=` is all header. -/
inductive FitsFirst : Field → Prop
  /-- bare plain text without a colon, not ending with `-` or `=` -/
  | plain {s : List Char} : Bare s → ':' ∉ s → ¬ ['-'] <:+ s → ¬ ['='] <:+ s → FitsFirst (plain s)
  /-- quoted bare text without a colon -/
  | quoted {v : List Char} : Bare v → ':' ∉ v → FitsFirst (quoted v)
  /-- quoted text with one comma, where the tokenizer cuts it and the reader joins it again: the
  piece before the comma must open the quote, so it is not `>`, and end the header's token, so
  it does not end with `-` or `=`; the piece after must open none, so it is not `<` -/
  | quotedComma {a b : List Char} : Bare a → Bare b → ':' ∉ a → a ≠ ['>'] → b ≠ ['<'] →
      ¬ ['-'] <:+ a → ¬ ['='] <:+ a → FitsFirst (quoted (a ++ ',' :: b))

end Field

/-- A record line: the header, a colon, and the fields separated by commas. -/
def recordText (header : List Char) (first : Field) (later : List Field) : List Char :=
  [','].intercalate ((header ++ ':' :: first.written) :: later.map Field.written)

theorem intercalate_comma_cons : ∀ (rest : List (List Char)) (a : List Char),
    [','].intercalate (a :: rest) = a ++ rest.flatMap (',' :: ·)
  | [], a => by simp
  | b :: rest, a => by
    rw [List.intercalate_cons_cons, intercalate_comma_cons rest b]
    simp

/-- Cutting the first field into pieces does not change the record line. -/
theorem recordText_eq {header p : List Char} {ps : List (List Char)} {first : Field}
    (later : List Field) (hp : [','].intercalate (p :: ps) = first.written) :
    recordText header first later =
      [','].intercalate ((header ++ ':' :: p) :: ps ++ later.map Field.written) := by
  rw [recordText, ← hp, List.cons_append, intercalate_comma_cons, intercalate_comma_cons,
    intercalate_comma_cons, List.flatMap_append]
  simp

/-- A token after the header's colon is whole when no character of it ends a token: it starts
with the header's `#`, so it opens no quoted region. -/
theorem whole_headerToken {header t : List Char} {h : RowHeader}
    (hh : RowHeader.parse? (String.ofList header) = some h)
    (hsep : ∀ c ∈ header, c ≠ ',' ∧ c ≠ '\n' ∧ c ≠ '\r')
    (ht : ∀ c ∈ t, c ≠ ',' ∧ c ≠ '\n' ∧ c ≠ '\r') :
    Whole (header ++ ':' :: t) := by
  obtain ⟨rest, hrest⟩ := RowHeader.toList_of_parse? hh
  rw [String.toList_ofList] at hrest
  have hsep' : ∀ c ∈ header ++ ':' :: t, c ≠ ',' ∧ c ≠ '\n' ∧ c ≠ '\r' := by
    rw [List.forall_mem_append, List.forall_mem_cons]
    exact ⟨hsep, by decide, ht⟩
  refine Whole.plain hsep' fun hpre => ?_
  rw [hrest] at hpre
  simp at hpre

theorem not_suffix_headerToken {c : Char} (hc : c ≠ ':') (header : List Char) {t : List Char}
    (ht : ¬ [c] <:+ t) : ¬ [c] <:+ header ++ ':' :: t := by
  rw [List.singleton_suffix_iff_getLast?_eq_some] at ht ⊢
  cases t with
  | nil => simpa using Ne.symm hc
  | cons d t => simpa using ht

/-- Bare text followed by `">` is a token that opens no quoted region, unless it is `<`. -/
theorem not_opens_bare_close {b : List Char} (hb : Bare b) (hb' : b ≠ ['<']) :
    ¬ ['<', '"'] <+: b ++ ['"', '>'] := by
  match b, hb, hb' with
  | [], _, _ => simp
  | [c], _, hc => simpa [eq_comm] using hc
  | c :: d :: rest, hb, _ =>
    intro hpre
    rw [List.cons_append, List.cons_append, List.cons_prefix_cons, List.cons_prefix_cons] at hpre
    exact (hb d (by simp)).2.2.2 hpre.2.1.symm

/-- A quoted field ends with `>`. -/
theorem not_suffix_quote {c : Char} (hc : c ≠ '>') (v : List Char) : ¬ [c] <:+ quote v := by
  have hlast : quote v = ('<' :: '"' :: v ++ ['"']) ++ ['>'] := by simp [quote]
  rw [List.singleton_suffix_iff_getLast?_eq_some, hlast, List.getLast?_concat]
  simpa using Ne.symm hc

namespace Field

theorem FitsLater.whole {x : Field} (hx : x.FitsLater) : Whole x.written := by
  cases x with
  | plain s => exact Whole.plain (Bare.unbroken hx) (Bare.not_prefix_open hx)
  | quoted v => exact Whole.quoted hx

theorem FitsLater.not_opens {x : Field} (hx : x.FitsLater) : opensQuote x.text = false := by
  cases x with
  | plain s => exact opensQuote_of_not_prefix (Bare.not_prefix_open hx)
  | quoted v => exact opensQuote_quote v

end Field

/-- How the tokenizer cuts a first field and how the reader puts it back: written with commas
the pieces give the field; after the header's colon the first piece makes a whole token with no
colon that ends with neither `-` nor `=`, and the others are whole tokens; read after the row
id, the pieces give the field's text. -/
structure FirstPieces (header : List Char) (x : Field) (p : List Char) (ps : List (List Char)) :
    Prop where
  text : [','].intercalate (p :: ps) = x.written
  whole_head : Whole (header ++ ':' :: p)
  whole_tail : ∀ w ∈ ps, Whole w
  no_colon : ':' ∉ p
  not_dash : ¬ ['-'] <:+ header ++ ':' :: p
  not_equals : ¬ ['='] <:+ header ++ ':' :: p
  read : ∀ (fs : Formats) (st : ExportState) (rec : RecordState), rec.values ≠ [] →
    rec.table.isSome → rec.pending = none →
    ((p :: ps).map String.ofList).foldlM (readToken fs) (st, rec) =
      .ok (st, { rec with values := x.text :: rec.values })

/-- Every first field that fits is cut into pieces the reader puts back. -/
theorem Field.FitsFirst.pieces {header : List Char} {h : RowHeader}
    (hh : RowHeader.parse? (String.ofList header) = some h)
    (hsep : ∀ c ∈ header, c ≠ ',' ∧ c ≠ '\n' ∧ c ≠ '\r') {x : Field}
    (hx : x.FitsFirst) : ∃ p ps, FirstPieces header x p ps := by
  cases hx with
  | @plain s hs hcolon hdash hequals =>
    -- one token, read as it stands
    refine ⟨_, [], ⟨List.intercalate_singleton, whole_headerToken hh hsep hs.unbroken, by simp,
      hcolon, not_suffix_headerToken (by decide) header hdash,
      not_suffix_headerToken (by decide) header hequals, fun fs st rec hv ht hp => ?_⟩⟩
    have ho : opensQuote (String.ofList s) = false := opensQuote_of_not_prefix hs.not_prefix_open
    simp [readToken_value fs st hv ht hp ho, Field.text, Field.written]
  | @quoted v hv hcolon =>
    -- one token, which closes the quote it opens
    refine ⟨quote v, [], ⟨List.intercalate_singleton,
      whole_headerToken hh hsep hv.unbroken_quote, by simp, by simp [quote, hcolon],
      not_suffix_headerToken (by decide) header (not_suffix_quote (by decide) v),
      not_suffix_headerToken (by decide) header (not_suffix_quote (by decide) v),
      fun fs st rec hv ht hp => ?_⟩⟩
    simp [readToken_value fs st hv ht hp (opensQuote_quote v), Field.text, Field.written]
  | @quotedComma a b ha hb hcolon ha' hb' hdash hequals =>
    -- cut at the comma: the first piece opens the quote and waits, the second closes it
    have hopens : opensQuote (String.ofList ('<' :: '"' :: a)) = true := by
      rw [opensQuote_iff]
      refine ⟨⟨a, rfl⟩, fun hsuf => ?_⟩
      rcases List.suffix_cons_iff.mp hsuf with h₁ | h₁
      · simp at h₁
      rcases List.suffix_cons_iff.mp h₁ with h₂ | h₂
      · exact ha' (List.cons_injective h₂).symm
      · exact ha.quote_not_mem (h₂.subset (by simp))
    have hcloses : opensQuote (String.ofList (b ++ ['"', '>'])) = false :=
      opensQuote_of_not_prefix (not_opens_bare_close hb hb')
    have hhead : ∀ c ∈ '<' :: '"' :: a, c ≠ ',' ∧ c ≠ '\n' ∧ c ≠ '\r' := by
      rw [List.forall_mem_cons, List.forall_mem_cons]
      exact ⟨by decide, by decide, ha.unbroken⟩
    have htail : ∀ c ∈ b ++ ['"', '>'], c ≠ ',' ∧ c ≠ '\n' ∧ c ≠ '\r' :=
      List.forall_mem_append.mpr ⟨hb.unbroken, by simp⟩
    refine ⟨'<' :: '"' :: a, [b ++ ['"', '>']], ⟨?_, whole_headerToken hh hsep hhead,
      by simpa using Whole.plain htail (not_opens_bare_close hb hb'), by simp [hcolon],
      not_suffix_headerToken (by decide) header (by simp [List.suffix_cons_iff, hdash]),
      not_suffix_headerToken (by decide) header (by simp [List.suffix_cons_iff, hequals]),
      fun fs st rec hv ht hp => ?_⟩⟩
    · simp [List.intercalate_cons_cons, Field.written, quote]
    · have hjoin : String.ofList ('<' :: '"' :: a) ++ "," ++ String.ofList (b ++ ['"', '>']) =
          (Field.quoted (a ++ ',' :: b)).text := by
        simp [← String.toList_inj, Field.text, Field.written, quote]
      have hjoins : readToken fs
          (st, { rec with pending := some (String.ofList ('<' :: '"' :: a)) })
          (String.ofList (b ++ ['"', '>'])) =
          .ok (st, { rec with values := (String.ofList ('<' :: '"' :: a) ++ "," ++
            String.ofList (b ++ ['"', '>'])) :: rec.values, pending := none }) :=
        readToken_joins fs st hv ht rfl hcloses
      rw [List.map_cons, List.foldlM_cons, readToken_opens fs st hv ht hopens, Reading.ok_bind,
        List.map_cons, List.map_nil, List.foldlM_cons, hjoins, Reading.ok_bind, List.foldlM_nil,
        hjoin]
      cases rec
      simp_all

/-! ### Reading a record -/

/-- The export state with a row added at the end of a table. -/
def ExportState.withRow (st : ExportState) (name : String) (row : Row) : ExportState :=
  { st with tables := st.tables.insert name ((st.tables.getD name #[]).push row) }

/-- A record of a registered table, read from its header on, adds the row built from the row id
and its fields in order. -/
theorem readRecord_fields (fs : Formats) {st : ExportState} {f : FileFormat}
    (hf : st.format = some f) {header : List Char} {h : RowHeader}
    (hh : RowHeader.parse? (String.ofList header) = some h) {layout : TableLayout}
    (hl : f.table? h.recordType = some layout) {first : Field} {later : List Field}
    (hlater : ∀ x ∈ later, x.FitsLater) {p : List Char} {ps : List (List Char)}
    (hp : FirstPieces header first p ps) :
    readRecord fs st (((header ++ ':' :: p) :: ps ++ later.map Field.written).map String.ofList) =
      buildRow layout (h.id :: (first :: later).map Field.text) f.epochDates >>= fun row =>
        pure (st.withRow layout.name row) := by
  have htable : st.format.bind (·.table? h.recordType) = some layout := by rw [hf]; exact hl
  have hlater' : (later.map Field.written).map String.ofList = later.map Field.text := by
    simp [Field.text]
  -- the header's token sets up the record; the first field's pieces and the later fields follow
  have hfold : (((header ++ ':' :: p) :: ps ++ later.map Field.written).map String.ofList).foldlM
      (readToken fs) (st, {}) =
      .ok (st, { values := (later.map Field.text).reverse ++ [first.text, h.id],
                 table := some layout }) := by
    rw [List.map_append, List.map_cons, List.cons_append, List.foldlM_cons,
      readToken_header fs st hh hp.no_colon hp.not_dash hp.not_equals, htable, ← List.foldlM_cons,
      ← List.cons_append, ← List.map_cons, hlater', List.foldlM_append,
      hp.read fs st _ (by simp) rfl rfl, Reading.ok_bind,
      foldlM_readToken_values fs st _ _ (by simp) rfl rfl fun t ht => ?_]
    obtain ⟨x, hx, rfl⟩ := List.mem_map.mp ht
    exact (hlater x hx).not_opens
  unfold readRecord
  rw [hfold]
  simp [hf, ExportState.withRow]

end Schedule.Export

namespace Schedule.Row

/-- Setting a field replaces its value and leaves the others. -/
theorem find?_insertField (n m : String) (x : Value) : ∀ fs : List (String × Value),
    ((insertField n x fs).find? (·.1 == m)).map (·.2) =
      if n = m then some x else (fs.find? (·.1 == m)).map (·.2)
  | [] => by by_cases h : n = m <;> simp [insertField, h]
  | (k, w) :: rest => by
    unfold insertField
    by_cases hlt : n < k
    · -- the field goes in front
      rw [if_pos hlt]
      by_cases h : n = m <;> simp [h]
    · by_cases hk : n = k
      · -- the field replaces the one of its name
        rw [if_neg hlt, if_pos hk]
        subst hk
        by_cases h : n = m <;> simp [h]
      · rw [if_neg hlt, if_neg hk, List.find?_cons, List.find?_cons]
        by_cases hkm : k = m
        · subst hkm
          simp [hk]
        · have hkm' : (k == m) = false := by simpa using hkm
          simp only [hkm']
          exact find?_insertField n m x rest

theorem value?_set (r : Row) (n m : String) (x : Value) :
    (r.set n x).value? m = if n = m then some x else r.value? m :=
  find?_insertField n m x r.fields

end Schedule.Row

namespace Schedule.Export

/-! ### Building a row -/

section BuildRow

variable {t : TableLayout} {e : Bool} {step : Row → Option ColumnDef × String → Reading Row}

/-- The step that builds a row: an empty slot skips its value, and a column sets its field to
its decoded value, when there is one. -/
theorem buildRow_eq (t : TableLayout) (e : Bool) :
    ∃ step : Row → Option ColumnDef × String → Reading Row,
      (∀ r v, step r (none, v) = .ok r) ∧
      (∀ r c v r', step r (some c, v) = .ok r' →
        ∃ x, decodeColumn t.name c.name v c.type e = .ok x ∧ r' = x.elim r (r.set c.name)) ∧
      ∀ vals, buildRow t vals e = (t.columns.zip vals).foldlM step {} := by
  refine ⟨_, fun _ _ => rfl, fun r c v r' h => ?_, fun _ => rfl⟩
  simp only at h
  split at h
  · rename_i x hx
    exact ⟨some x, hx, (Except.ok.inj h).symm⟩
  · rename_i hx
    exact ⟨none, hx, (Except.ok.inj h).symm⟩
  · cases h

variable (hnone : ∀ r v, step r (none, v) = .ok r)
  (hsome : ∀ r c v r', step r (some c, v) = .ok r' →
    ∃ x, decodeColumn t.name c.name v c.type e = .ok x ∧ r' = x.elim r (r.set c.name))
include hnone hsome

/-- A slot other than a column of the name leaves the field as it was. -/
theorem step_value? {r r' : Row} {slot : Option ColumnDef} {v n : String}
    (h : step r (slot, v) = .ok r') (hname : ∀ c, slot = some c → c.name ≠ n) :
    r'.value? n = r.value? n := by
  cases slot with
  | none => rw [hnone] at h; cases h; rfl
  | some c =>
    obtain ⟨x, -, rfl⟩ := hsome r c v r' h
    cases x with
    | none => rfl
    | some x => simp [Row.value?_set, hname c rfl]

/-- Slots that are no column of the name leave the field as it was. -/
theorem foldlM_step_value? :
    ∀ (pairs : List (Option ColumnDef × String)) (r row : Row) (n : String),
    pairs.foldlM step r = .ok row → (∀ c v, (some c, v) ∈ pairs → c.name ≠ n) →
    row.value? n = r.value? n
  | [], r, row, n, h, _ => by
    simp only [List.foldlM_nil, Reading.pure_eq_ok] at h
    rw [h]
  | (slot, v) :: pairs, r, row, n, h, hname => by
    rw [List.foldlM_cons] at h
    obtain ⟨r₁, h₁, h₂⟩ := Reading.bind_eq_ok.mp h
    rw [foldlM_step_value? pairs r₁ row n h₂
      fun c v' hc => hname c v' (List.mem_cons_of_mem _ hc)]
    exact step_value? hnone hsome h₁ fun c hc => hname c v (by simp [hc])

/-- Each column's field holds the value decoded from the text in its own position. The induction
runs over the columns and the texts together; the field keeps what the earlier row had until its
own column sets it. -/
theorem foldlM_step_decodes :
    ∀ (cols : List (Option ColumnDef)) (vals : List String) (r row : Row) (k : Nat)
    (c : ColumnDef), (cols.zip vals).foldlM step r = .ok row →
    cols[k]? = some (some c) → (hk : k < vals.length) →
    (∀ j c', j ≠ k → cols[j]? = some (some c') → c'.name ≠ c.name) →
    ∃ x, decodeColumn t.name c.name vals[k] c.type e = .ok x ∧
      row.value? c.name = x.or (r.value? c.name)
  | [], _, _, _, _, _, _, hc, _, _ => by simp at hc
  | _ :: _, [], _, _, _, _, _, _, hk, _ => by simp at hk
  | slot :: cols, v :: vals, r, row, k, c, h, hc, hk, hname => by
    rw [List.zip_cons_cons, List.foldlM_cons] at h
    obtain ⟨r₁, h₁, h₂⟩ := Reading.bind_eq_ok.mp h
    cases k with
    | zero =>
      -- this column decodes the text, and no later column has its name
      cases hc
      obtain ⟨x, hx, rfl⟩ := hsome r c v r₁ h₁
      have hrest := foldlM_step_value? hnone hsome (cols.zip vals) _ row c.name h₂
        fun c' v' hc' => by
          obtain ⟨j, hj⟩ := List.mem_iff_getElem?.mp (List.of_mem_zip hc').1
          exact hname (j + 1) c' (by omega) (by simpa using hj)
      refine ⟨x, hx, ?_⟩
      rw [hrest]
      cases x with
      | none => rfl
      | some x => simp [Row.value?_set]
    | succ k =>
      -- an earlier slot is no column of this name
      have hkeep := step_value? hnone hsome h₁ fun c' hc' => hname 0 c' (by omega) (by simp [hc'])
      obtain ⟨x, hx, hrow⟩ :=
        foldlM_step_decodes cols vals r₁ row k c h₂ (by simpa using hc) (by simpa using hk)
          fun j c' hj hc' => hname (j + 1) c' (by omega) (by simpa using hc')
      exact ⟨x, hx, by rw [hrow, hkeep]⟩

end BuildRow

/-- Each column of a row holds the value decoded from the text in its own position, when no
other column has its name. -/
theorem buildRow_value? {t : TableLayout} {vals : List String} {e : Bool} {row : Row}
    (h : buildRow t vals e = .ok row) {k : Nat} {c : ColumnDef} (hc : t.columns[k]? = some (some c))
    (hk : k < vals.length)
    (hname : ∀ j c', j ≠ k → t.columns[j]? = some (some c') → c'.name ≠ c.name) :
    ∃ x, decodeColumn t.name c.name vals[k] c.type e = .ok x ∧ row.value? c.name = x := by
  obtain ⟨step, hnone, hsome, hbuild⟩ := buildRow_eq t e
  rw [hbuild] at h
  obtain ⟨x, hx, hrow⟩ :=
    foldlM_step_decodes hnone hsome t.columns vals {} row k c h hc hk hname
  exact ⟨x, hx, by simpa [Row.value?] using hrow⟩

theorem stripWrapping_wrapped (o z : Char) (v : List Char) :
    stripWrapping o (o :: (v ++ [z])) = v := by
  cases v with
  | nil => simp [stripWrapping]
  | cons d v =>
    simp only [stripWrapping, List.cons_append, if_true, List.drop_one, List.tail_cons]
    rw [← List.cons_append, List.dropLast_concat]

/-- A quoted field is unwrapped to the text it quotes. -/
theorem unwrap_quote (v : List Char) : unwrap (String.ofList (quote v)) = String.ofList v := by
  have hquote : quote v = '<' :: (('"' :: (v ++ ['"'])) ++ ['>']) := by simp [quote]
  rw [unwrap, String.toList_ofList, hquote, stripWrapping_wrapped, stripWrapping_wrapped]

theorem decodeColumn_varchar (table column data : String) (e : Bool) :
    decodeColumn table column data .varchar e = .ok (some (.text (unwrap data))) := rfl

/-! ### Reading an export -/

/-- A record line is a line of whole tokens once its first field is cut into pieces. -/
theorem wholeLine_record {header p : List Char} {ps : List (List Char)} {first : Field}
    {later : List Field} (hp : FirstPieces header first p ps)
    (hlater : ∀ x ∈ later, x.FitsLater) :
    WholeLine ((header ++ ':' :: p) :: ps ++ later.map Field.written) := by
  refine ⟨by simp, fun h => ?_, fun w hw => ?_⟩
  · have := congrArg List.head? h
    simp at this
  · rcases List.mem_append.mp hw with hw | hw
    · rcases List.mem_cons.mp hw with rfl | hw
      · exact hp.whole_head
      · exact hp.whole_tail w hw
    · obtain ⟨x, hx, rfl⟩ := List.mem_map.mp hw
      exact (hlater x hx).whole

/-- Reading the records of an export: a record of a registered table, standing among records of
whole tokens, adds the row of its fields, each in its own column, and a quoted field of a text
column reads as the text it quotes.

The records before it are read into a state whose format registers the record's table; the
header `#<type> <id>` has no comma or line break; the first field fits right after the header's
colon and the later fields fit after a comma. Then reading the export reads the records before,
adds the row built from the row id and the fields in order, and goes on with the records after;
and in that row, a column whose name no other column has holds the value decoded from the field
written in its own position. -/
theorem readRecords_quoted_fields (fs : Formats) {pre post : List (List (List Char))}
    (hpre : ∀ l ∈ pre, WholeLine l) (hpost : ∀ l ∈ post, WholeLine l) {st₀ st : ExportState}
    (hst : (pre.map fun l => l.map String.ofList).foldlM (readRecord fs) st₀ = .ok st)
    {f : FileFormat} (hf : st.format = some f) {header : List Char} {h : RowHeader}
    (hh : RowHeader.parse? (String.ofList header) = some h)
    (hsep : ∀ c ∈ header, c ≠ ',' ∧ c ≠ '\n' ∧ c ≠ '\r') {layout : TableLayout}
    (hl : f.table? h.recordType = some layout) {first : Field} {later : List Field}
    (hfirst : first.FitsFirst) (hlater : ∀ x ∈ later, x.FitsLater) :
    (tokenize (String.ofList (linesText pre ++ recordText header first later ++
        '\n' :: linesText post))).foldlM (readRecord fs) st₀ =
      (buildRow layout (h.id :: (first :: later).map Field.text) f.epochDates >>= fun row =>
        (post.map fun l => l.map String.ofList).foldlM (readRecord fs)
          (st.withRow layout.name row)) ∧
    ∀ row, buildRow layout (h.id :: (first :: later).map Field.text) f.epochDates = .ok row →
      ∀ k c x, layout.columns[k + 1]? = some (some c) → (first :: later)[k]? = some x →
        (∀ j c', j ≠ k + 1 → layout.columns[j]? = some (some c') → c'.name ≠ c.name) →
        (∃ d, decodeColumn layout.name c.name x.text c.type f.epochDates = .ok d ∧
          row.value? c.name = d) ∧
        ∀ v, x = .quoted v → c.type = .varchar →
          row.value? c.name = some (.text (String.ofList v)) := by
  obtain ⟨p, ps, hp⟩ := hfirst.pieces hh hsep
  refine ⟨?_, fun row hrow k c x hc hx hname => ?_⟩
  · -- the record is one line among the others, read after them and before the rest
    have htext : linesText pre ++ recordText header first later ++ '\n' :: linesText post =
        linesText (pre ++ ((header ++ ':' :: p) :: ps ++ later.map Field.written) :: post) := by
      rw [recordText_eq later hp.text]
      simp [linesText]
    have hlines : ∀ l ∈ pre ++ ((header ++ ':' :: p) :: ps ++ later.map Field.written) :: post,
        WholeLine l := by
      intro l hl'
      rcases List.mem_append.mp hl' with hl' | hl'
      · exact hpre l hl'
      · rcases List.mem_cons.mp hl' with rfl | hl'
        · exact wholeLine_record hp hlater
        · exact hpost l hl'
    rw [htext, tokenize_linesText hlines, List.map_append, List.foldlM_append, hst,
      Reading.ok_bind, List.map_cons, List.foldlM_cons, readRecord_fields fs hf hh hl hlater hp,
      bind_assoc]
    simp
  · -- the field sits in the column after the row id
    obtain ⟨hklt, hxk⟩ := List.getElem?_eq_some_iff.mp hx
    have hk : k + 1 < (h.id :: (first :: later).map Field.text).length := by simpa using hklt
    have hval : (h.id :: (first :: later).map Field.text)[k + 1] = x.text := by
      rw [List.getElem_cons_succ, List.getElem_map, hxk]
    obtain ⟨d, hd, hrowd⟩ := buildRow_value? hrow hc hk hname
    rw [hval] at hd
    refine ⟨⟨d, hd, hrowd⟩, fun v hxv hvar => ?_⟩
    subst hxv
    rw [hvar, decodeColumn_varchar, Field.text, Field.written, unwrap_quote] at hd
    rw [hrowd, ← Except.ok.inj hd]

/-- The record `#2 0:<"P,Q">` of a table whose second column is text, read in a state that
registers it: the quoted first field, cut at its comma and joined again, fills the column. -/
theorem readRecords_quoted_first_field :
    (tokenize (String.ofList (linesText [] ++
        recordText ['#', '2', ' ', '0'] (.quoted ['P', ',', 'Q']) [] ++ '\n' :: linesText []))).foldlM
        (readRecord {}) { format := some ⟨1, false, [(2, ⟨"T", [none, some ⟨"N", .varchar⟩]⟩)]⟩ } =
      (buildRow ⟨"T", [none, some ⟨"N", .varchar⟩]⟩
          ("0" :: [Field.quoted ['P', ',', 'Q']].map Field.text) false >>= fun row =>
        (([] : List (List (List Char))).map fun l => l.map String.ofList).foldlM (readRecord {})
          (ExportState.withRow
            { format := some ⟨1, false, [(2, ⟨"T", [none, some ⟨"N", .varchar⟩]⟩)]⟩ } "T" row)) ∧
    ∀ row, buildRow ⟨"T", [none, some ⟨"N", .varchar⟩]⟩
        ("0" :: [Field.quoted ['P', ',', 'Q']].map Field.text) false = .ok row →
      ∀ k c x, (⟨"T", [none, some ⟨"N", .varchar⟩]⟩ : TableLayout).columns[k + 1]? = some (some c) →
        [Field.quoted ['P', ',', 'Q']][k]? = some x →
        (∀ j c', j ≠ k + 1 →
          (⟨"T", [none, some ⟨"N", .varchar⟩]⟩ : TableLayout).columns[j]? = some (some c') →
          c'.name ≠ c.name) →
        (∃ d, decodeColumn "T" c.name x.text c.type false = .ok d ∧ row.value? c.name = d) ∧
        ∀ v, x = .quoted v → c.type = .varchar →
          row.value? c.name = some (.text (String.ofList v)) :=
  readRecords_quoted_fields (h := ⟨2, "0"⟩)
    (f := ⟨1, false, [(2, ⟨"T", [none, some ⟨"N", .varchar⟩]⟩)]⟩) {} (by simp) (by simp) rfl rfl
    (by decide) (by simp) rfl
    (Field.FitsFirst.quotedComma (a := ['P']) (b := ['Q']) (by simp [Bare]) (by simp [Bare])
      (by decide) (by decide) (by decide) (by decide) (by decide)) (by simp)

/-- A quoted first field with two commas is cut at the second: the record
`#2 0:<"P,Q,R">,,20240108` is read as the values `0`, `<"P,Q`, `R">`, the empty text and
`20240108`, so the field's text column holds `P` and the later fields move one column on. -/
theorem quoted_first_field_cut_at_second_comma :
    ((tokenize "#2 0:<\"P,Q,R\">,,20240108\n").map fun toks =>
      (toks.foldlM (readToken {})
        (({ format := some ⟨1, false, [(2, ⟨"PROJECT_SUMMARY", []⟩)]⟩ } : ExportState),
          ({} : RecordState))).toOption.map fun acc => acc.2.values.reverse) =
      [some ["0", "<\"P,Q", "R\">", "", "20240108"]] ∧
    decodeColumn "PROJECT_SUMMARY" "SHORT_NAME" "<\"P,Q" .varchar false = .ok (some (.text "P")) := by
  refine ⟨by decide +kernel, ?_⟩
  rw [decodeColumn_varchar, show unwrap "<\"P,Q" = "P" by decide]

end Schedule.Export
