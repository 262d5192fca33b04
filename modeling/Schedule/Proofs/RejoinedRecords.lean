import Schedule.Proofs.QuotedFields

/-!
# Records written back as text

The tokenizer drops nothing of a text but the commas, line breaks and carriage returns outside
quoted regions, and where it splits at a comma or a line break, writing the records out again puts
one back. So the records of a text, written out with their tokens joined by commas and the
records joined by line breaks, give the text as the tokenizer saw it: its lines, cut at line
breaks outside quoted regions, with the carriage returns outside quoted regions left out and the
empty lines dropped. Reading that text again gives the same records.

Both facts are invariants of the tokenizer's run over a text, proved one character at a time from
what reading a character can do (`TokenizerState.Reads`). The first compares the run with
`LineScan`, which reads the text line by line and follows quoted regions as they are described:
a `"` that comes while the token read so far is exactly `<` opens one, the next `"` closes it
(`Tracks`). The second says that what the tokenizer has read, written back, reads back to the
state it is in (`Rereads`).

## Main definitions

* `joinRecords` — records written as text.
* `LineScan`, `textLines`, `keptText` — a text cut into lines at line breaks outside quoted
  regions, without the carriage returns outside them; its nonempty lines joined by line breaks.

## Main statements

* `joinRecords_tokenize` — records written back give the kept text.
* `tokenize_joinRecords_tokenize` — the kept text reads as the same records.
* `keptText_sublist`, `filter_keptText` — the kept text is the text with some commas, line
  breaks and carriage returns left out.
* `tokenize_rejoins_kept_text` — all of these together.
-/

namespace Schedule.Export

/-! ### Joining with a separator -/

theorem intercalate_append_singleton {α : Type} (sep : List α) :
    ∀ (xs : List (List α)) (y : List α),
      sep.intercalate (xs ++ [y]) = (xs.map (· ++ sep)).flatten ++ y
  | [], y => by simp
  | x :: xs, y => by
    rw [List.cons_append, List.intercalate_cons_of_ne_nil (by simp),
      intercalate_append_singleton sep xs y]
    simp

/-- Leaving out the empty pieces of a joined list leaves out some separators. -/
theorem intercalate_filter_sublist {α : Type} (sep : List α) :
    ∀ ls : List (List α),
      List.Sublist (sep.intercalate (ls.filter fun l => !l.isEmpty)) (sep.intercalate ls)
  | [] => by simp
  | [l] => by cases l <;> simp
  | l :: l' :: ls => by
    have ih := intercalate_filter_sublist sep (l' :: ls)
    rw [List.intercalate_cons_cons]
    cases l with
    | nil =>
      rw [List.filter_cons_of_neg (by simp), List.nil_append]
      exact ih.trans (List.sublist_append_right sep _)
    | cons c cs =>
      rw [List.filter_cons_of_pos (by simp)]
      cases hf : (l' :: ls).filter fun l => !l.isEmpty with
      | nil => simp
      | cons f fs =>
        rw [hf] at ih
        rw [List.intercalate_cons_of_ne_nil (List.cons_ne_nil f fs)]
        exact ((List.Sublist.refl _).append (List.Sublist.refl sep)).append ih

/-- A filter that drops the separator sees the pieces only. -/
theorem filter_intercalate {α : Type} {p : α → Bool} {sep : List α}
    (hsep : ∀ c ∈ sep, p c = false) :
    ∀ ls : List (List α), (sep.intercalate ls).filter p = ls.flatten.filter p
  | [] => by simp
  | [l] => by simp
  | l :: l' :: ls => by
    have hs : sep.filter p = [] := List.filter_eq_nil_iff.mpr fun c hc => by simp [hsep c hc]
    rw [List.intercalate_cons_cons, List.filter_append, List.filter_append, hs,
      filter_intercalate hsep (l' :: ls), List.flatten_cons, List.filter_append]
    simp

/-! ### Records written as text -/

/-- Records written as text: the tokens of each record joined by commas, the records joined by
line breaks. -/
def joinRecords (rs : List (List String)) : String :=
  "\n".intercalate (rs.map ",".intercalate)

/-- The text of one record. -/
def recordChars (r : List String) : List Char := [','].intercalate (r.map String.toList)

theorem toList_joinRecords (rs : List (List String)) :
    (joinRecords rs).toList = ['\n'].intercalate (rs.map recordChars) := by
  simp [joinRecords, Function.comp_def]
  rfl

/-- Commas, line breaks and carriage returns: what the tokenizer may drop. -/
def isBreak (c : Char) : Bool := c == ',' || c == '\n' || c == '\r'

/-! ### A text read line by line -/

/-- A text read line by line, following quoted regions as the tokenizer does: a `"` that comes
while the token read since the last comma or line break is exactly `<` opens a region, and the
next `"` closes it. Outside a region a line break ends the line, a comma ends the token, and a
carriage return is left out. -/
structure LineScan where
  /-- The lines read, the last first. -/
  lines : List (List Char) := []
  /-- The line being read, reversed. -/
  line : List Char := []
  /-- The token being read, reversed. -/
  token : List Char := []
  quoted : Bool := false

namespace LineScan

/-- Reads one character. -/
def feed (s : LineScan) (c : Char) : LineScan :=
  if s.quoted then { s with line := c :: s.line, token := c :: s.token, quoted := c != '"' }
  else if c = '\n' then { s with lines := s.line.reverse :: s.lines, line := [], token := [] }
  else if c = '\r' then s
  else if c = ',' then { s with line := c :: s.line, token := [] }
  else
    { s with line := c :: s.line, token := c :: s.token, quoted := c = '"' && s.token == ['<'] }

theorem feed_of_quoted {s : LineScan} (hq : s.quoted = true) (c : Char) :
    s.feed c = { s with line := c :: s.line, token := c :: s.token, quoted := c != '"' } := by
  simp [feed, hq]

theorem feed_newline {s : LineScan} (hq : s.quoted = false) :
    s.feed '\n' = { s with lines := s.line.reverse :: s.lines, line := [], token := [] } := by
  simp [feed, hq]

theorem feed_carriage {s : LineScan} (hq : s.quoted = false) : s.feed '\r' = s := by
  simp [feed, hq]

theorem feed_comma {s : LineScan} (hq : s.quoted = false) :
    s.feed ',' = { s with line := ',' :: s.line, token := [] } := by
  simp [feed, hq]

theorem feed_char {s : LineScan} {c : Char} (hq : s.quoted = false) (hn : c ≠ '\n')
    (hr : c ≠ '\r') (hc : c ≠ ',') :
    s.feed c =
      { s with line := c :: s.line, token := c :: s.token,
               quoted := c = '"' && s.token == ['<'] } := by
  simp [feed, hq, hn, hr, hc]

/-- The lines read, the one being read last. -/
def allLines (s : LineScan) : List (List Char) := (s.line.reverse :: s.lines).reverse

/-- The lines read, joined by line breaks. -/
def text (s : LineScan) : List Char := ['\n'].intercalate s.allLines

theorem text_eq (s : LineScan) :
    s.text = (s.lines.reverse.map (· ++ ['\n'])).flatten ++ s.line.reverse := by
  rw [text, allLines, List.reverse_cons, intercalate_append_singleton]

/-- Reading a character adds it to the text, unless it is a carriage return outside a quoted
region. -/
theorem text_feed (s : LineScan) (c : Char) :
    (s.feed c).text = s.text ++ (if s.quoted || c != '\r' then [c] else []) := by
  by_cases hq : s.quoted
  · simp [feed, hq, text_eq]
  · by_cases hn : c = '\n'
    · subst hn
      simp [feed, hq, text_eq]
    · by_cases hr : c = '\r'
      · simp [feed, hq, hr]
      · by_cases hc : c = ','
        · subst hc
          simp [feed, hq, text_eq]
        · simp [feed, hq, hn, hr, hc, text_eq]

/-- The text read so far leaves out some characters and keeps the order of the others. -/
theorem text_foldl_sublist : ∀ (t : List Char) (s : LineScan),
    List.Sublist (t.foldl feed s).text (s.text ++ t)
  | [], s => by simp
  | c :: t, s => by
    have hstep : List.Sublist ((s.feed c).text ++ t) (s.text ++ c :: t) := by
      rw [text_feed, List.append_assoc]
      split
      · exact List.Sublist.refl _
      · exact (List.Sublist.refl _).append (List.sublist_cons_self c t)
    exact (text_foldl_sublist t (s.feed c)).trans hstep

/-- The characters the scan leaves out are carriage returns. -/
theorem filter_text_foldl : ∀ (t : List Char) (s : LineScan),
    (t.foldl feed s).text.filter (fun c => !isBreak c) = (s.text ++ t).filter (fun c => !isBreak c)
  | [], s => by simp
  | c :: t, s => by
    rw [List.foldl_cons, filter_text_foldl t (s.feed c), text_feed]
    split
    · simp
    · have hc : c = '\r' := by simp_all
      subst hc
      simp [isBreak]

end LineScan

/-- The lines of a text, cut at line breaks outside quoted regions, without the carriage returns
outside quoted regions. -/
def textLines (t : List Char) : List (List Char) := (t.foldl LineScan.feed {}).allLines

/-- The text as the tokenizer sees it: its nonempty lines joined by line breaks. -/
def keptText (t : List Char) : List Char :=
  ['\n'].intercalate ((textLines t).filter fun l => !l.isEmpty)

/-- The kept text is the text with some characters left out, the others in their order. -/
theorem keptText_sublist (t : List Char) : List.Sublist (keptText t) t := by
  have h := LineScan.text_foldl_sublist t {}
  simp only [LineScan.text_eq, List.reverse_nil, List.map_nil, List.flatten_nil,
    List.nil_append] at h
  rw [← LineScan.text_eq] at h
  exact (intercalate_filter_sublist ['\n'] _).trans h

/-- The kept text leaves out commas, line breaks and carriage returns only. -/
theorem filter_keptText (t : List Char) :
    (keptText t).filter (fun c => !isBreak c) = t.filter (fun c => !isBreak c) := by
  have hsep : ∀ c ∈ ['\n'], (!isBreak c) = false := by simp [isBreak]
  have h := LineScan.filter_text_foldl t {}
  rw [LineScan.text, filter_intercalate hsep] at h
  rw [keptText, filter_intercalate hsep, List.flatten_filter_not_isEmpty, textLines, h]
  simp [LineScan.text_eq]

namespace TokenizerState

/-! ### What reading a character does -/

/-- What reading one character does to the tokenizer. -/
inductive Reads : TokenizerState → Char → TokenizerState → Prop
  /-- Inside a quoted region every character goes into the token; a quote closes the region. -/
  | quoted {s : TokenizerState} {c : Char} : s.quoted = true →
      Reads s c { s with token := c :: s.token, quoted := c != '"' }
  /-- A line break on a line with nothing on it does nothing. -/
  | blankLine {s : TokenizerState} : s.quoted = false → s.token = [] → s.record = [] →
      Reads s '\n' s
  /-- A line break ends the record of its line. -/
  | endLine {s : TokenizerState} : s.quoted = false → (s.token ≠ [] ∨ s.record ≠ []) →
      Reads s '\n' { records := (s.current :: s.record).reverse :: s.records }
  /-- A carriage return does nothing. -/
  | carriage {s : TokenizerState} : s.quoted = false → Reads s '\r' s
  /-- A comma ends the token. -/
  | comma {s : TokenizerState} : s.quoted = false →
      Reads s ',' { s with record := s.current :: s.record, token := [] }
  /-- Any other character goes into the token, and opens a quoted region when it is a quote
  after a lone `<`. -/
  | char {s : TokenizerState} {c : Char} :
      s.quoted = false → c ≠ '\n' → c ≠ '\r' → c ≠ ',' →
      Reads s c { s with token := c :: s.token, quoted := c = '"' && s.token == ['<'] }

theorem reads_feed (s : TokenizerState) (c : Char) : Reads s c (s.feed c) := by
  cases hq : s.quoted
  · by_cases hn : c = '\n'
    · subst hn
      by_cases hb : s.token = [] ∧ s.record = []
      · have h : s.feed '\n' = s := by
          cases s
          simp_all [feed]
        rw [h]
        exact .blankLine hq hb.1 hb.2
      · have hopen : s.token ≠ [] ∨ s.record ≠ [] := by tauto
        have hopen' : (!s.token.isEmpty || !s.record.isEmpty) = true := by
          rcases hopen with h | h <;> simp [h]
        have h : s.feed '\n' = { records := (s.current :: s.record).reverse :: s.records } := by
          simp [feed, hq, hopen']
        rw [h]
        exact .endLine hq hopen
    · by_cases hr : c = '\r'
      · subst hr
        rw [show s.feed '\r' = s by simp [feed, hq]]
        exact .carriage hq
      · by_cases hc : c = ','
        · subst hc
          rw [feed_comma hq]
          exact .comma hq
        · have h : s.feed c =
              { s with token := c :: s.token, quoted := c = '"' && s.token == ['<'] } := by
            by_cases ho : c = '"' ∧ s.token = ['<']
            · obtain ⟨rfl, ht⟩ := ho
              simp [feed, hq, ht]
            · have ho' : (decide (c = '"') && s.token == ['<']) = false := by
                by_cases hquote : c = '"' <;> simp_all
              simp only [feed, hq, hn, hr, hc, ho', if_false, Bool.false_eq_true]
          rw [h]
          exact .char hq hn hr hc
  · rw [feed_of_quoted hq c]
    exact .quoted hq

/-- Outside a line break, reading a character does not look at the records. -/
theorem feed_withRecords {s : TokenizerState} {c : Char} (h : s.quoted = true ∨ c ≠ '\n')
    (R : List (List String)) :
    ({ s with records := R } : TokenizerState).feed c = { s.feed c with records := R } := by
  cases hq : s.quoted
  · have hn : c ≠ '\n' := by simpa [hq] using h
    cases s
    simp only at hq
    subst hq
    simp only [feed, hn, if_false, Bool.false_eq_true]
    split_ifs <;> rfl
  · rw [feed_of_quoted hq, feed_of_quoted rfl]

/-! ### The line being read -/

/-- The text of the line being read: each token of its record followed by a comma, then the token
being read. -/
def lineText (s : TokenizerState) : List Char :=
  (s.record.reverse.map (·.toList ++ [','])).flatten ++ s.token.reverse

/-- The record that a line break would end is the line's text. -/
theorem recordChars_line (s : TokenizerState) :
    recordChars (s.current :: s.record).reverse = s.lineText := by
  rw [recordChars, List.reverse_cons, List.map_append, List.map_singleton,
    intercalate_append_singleton, lineText, List.map_map]
  simp [current, Function.comp_def]

theorem lineText_eq_nil {s : TokenizerState} :
    s.lineText = [] ↔ s.token = [] ∧ s.record = [] := by
  constructor
  · intro h
    have hr : s.record = [] := by
      cases hrec : s.record.reverse with
      | nil => simpa using hrec
      | cons w ws => simp [lineText, hrec] at h
    simp_all [lineText]
  · rintro ⟨ht, hr⟩
    simp [lineText, ht, hr]

theorem lineText_pushToken (s : TokenizerState) (c : Char) (q : Bool) :
    ({ s with token := c :: s.token, quoted := q } : TokenizerState).lineText =
      s.lineText ++ [c] := by
  simp [lineText]

theorem lineText_comma (s : TokenizerState) :
    ({ s with record := s.current :: s.record, token := [] } : TokenizerState).lineText =
      s.lineText ++ [','] := by
  simp [lineText, current]

/-- What the tokenizer gives at the end of a text: its records, with the record of the last line
when that line is not blank. -/
def finish (s : TokenizerState) : List (List String) :=
  (if !s.token.isEmpty || !s.record.isEmpty then (s.current :: s.record).reverse :: s.records
    else s.records).reverse

theorem tokenize_eq (t : String) : tokenize t = (t.toList.foldl feed {}).finish := rfl

theorem finish_of_blank {s : TokenizerState} (hb : s.token = [] ∧ s.record = []) :
    s.finish = s.records.reverse := by
  simp [finish, hb]

theorem finish_of_open {s : TokenizerState} (hb : ¬(s.token = [] ∧ s.record = [])) :
    s.finish = ((s.current :: s.record).reverse :: s.records).reverse := by
  have hopen : (!s.token.isEmpty || !s.record.isEmpty) = true := by
    by_cases ht : s.token = [] <;> simp_all
  simp only [finish, hopen, if_true]

/-- The end of a text after a line break that ends a record is that line break. -/
theorem finish_of_feed_newline {s : TokenizerState} {rs : List (List String)}
    (h : s.feed '\n' = { records := rs }) : s.finish = rs.reverse := by
  have hr := reads_feed s '\n'
  generalize s.feed '\n' = s' at hr h
  generalize hc : '\n' = c at hr
  cases hr with
  | quoted hq =>
    -- a line break inside a quoted region goes into the token
    have ht := congrArg TokenizerState.token h
    simp at ht
  | blankLine hq ht hrec =>
    subst h
    rfl
  | endLine hq hopen =>
    have hrs := congrArg TokenizerState.records h
    subst hrs
    rcases hopen with h | h <;> simp [finish, h]
  | carriage => exact absurd hc (by decide)
  | comma => exact absurd hc (by decide)
  | char _ hn => exact absurd hc.symm hn

/-! ### Reading alongside the line scan -/

/-- The tokenizer and the line scan have read the same text: they are in the same token and
quoted region, the line is the record so far, and there is a record for each nonempty line. -/
structure Tracks (s : TokenizerState) (l : LineScan) : Prop where
  quoted : s.quoted = l.quoted
  token : s.token = l.token
  line : s.lineText = l.line.reverse
  records : s.records.map recordChars = l.lines.filter fun x => !x.isEmpty

theorem tracks_init : Tracks {} {} := ⟨rfl, rfl, rfl, rfl⟩

/-- The line scan's line is empty exactly when the tokenizer's line is blank. -/
theorem Tracks.line_eq_nil_iff {s : TokenizerState} {l : LineScan} (h : Tracks s l) :
    l.line = [] ↔ s.token = [] ∧ s.record = [] := by
  rw [← lineText_eq_nil, h.line, List.reverse_eq_nil_iff]

/-- One character keeps the two readings in step. -/
theorem Tracks.feed {s : TokenizerState} {l : LineScan} (h : Tracks s l) (c : Char) :
    Tracks (s.feed c) (l.feed c) := by
  have hr := reads_feed s c
  generalize s.feed c = s' at hr
  cases hr with
  | quoted hq =>
    rw [LineScan.feed_of_quoted (h.quoted ▸ hq)]
    exact ⟨rfl, by rw [h.token], by rw [lineText_pushToken, h.line]; simp, h.records⟩
  | blankLine hq ht hrec =>
    -- the line scan ends an empty line, which has no record
    have hline : l.line = [] := h.line_eq_nil_iff.mpr ⟨ht, hrec⟩
    rw [LineScan.feed_newline (h.quoted ▸ hq)]
    exact ⟨h.quoted, ht, by simp [lineText, ht, hrec], by rw [h.records, hline]; simp⟩
  | endLine hq hopen =>
    have hne : l.line ≠ [] := fun he => by
      obtain ⟨ht, hrec⟩ := h.line_eq_nil_iff.mp he
      rcases hopen with hopen | hopen <;> contradiction
    rw [LineScan.feed_newline (h.quoted ▸ hq)]
    refine ⟨(h.quoted ▸ hq).symm, rfl, rfl, ?_⟩
    rw [List.map_cons, recordChars_line, h.line, h.records,
      List.filter_cons_of_pos (by simpa using hne)]
  | carriage hq =>
    rw [LineScan.feed_carriage (h.quoted ▸ hq)]
    exact h
  | comma hq =>
    rw [LineScan.feed_comma (h.quoted ▸ hq)]
    exact ⟨h.quoted, rfl, by rw [lineText_comma, h.line]; simp, h.records⟩
  | char hq hn hcr hc =>
    rw [LineScan.feed_char (h.quoted ▸ hq) hn hcr hc]
    exact ⟨by rw [h.token], by rw [h.token], by rw [lineText_pushToken, h.line]; simp,
      h.records⟩

theorem Tracks.foldl : ∀ (t : List Char) {s : TokenizerState} {l : LineScan}, Tracks s l →
    Tracks (t.foldl TokenizerState.feed s) (t.foldl LineScan.feed l)
  | [], _, _, h => h
  | c :: t, _, _, h => Tracks.foldl t (h.feed c)

/-- At the end of the text the records are the nonempty lines. -/
theorem Tracks.finish {s : TokenizerState} {l : LineScan} (h : Tracks s l) :
    s.finish.map recordChars = l.allLines.filter fun x => !x.isEmpty := by
  by_cases hb : s.token = [] ∧ s.record = []
  · -- a blank last line has no record
    rw [finish_of_blank hb, LineScan.allLines, h.line_eq_nil_iff.mpr hb]
    simp [h.records]
  · have hne : l.line ≠ [] := fun he => hb (h.line_eq_nil_iff.mp he)
    rw [finish_of_open hb, LineScan.allLines, List.map_reverse, List.filter_reverse,
      List.map_cons, recordChars_line, h.line, h.records,
      List.filter_cons_of_pos (by simpa using hne)]

/-! ### Reading back what was read -/

/-- Records written as text, each with its line break. -/
def recordsText (rs : List (List String)) : List Char :=
  (rs.reverse.map (recordChars · ++ ['\n'])).flatten

/-- What the tokenizer has read, written back, reads back to the state it is in: the records
from the start of a text, and the line being read from the start of a line, whatever the records
before it. -/
structure Rereads (s : TokenizerState) : Prop where
  records : (recordsText s.records).foldl feed {} = { records := s.records }
  line : ∀ R, s.lineText.foldl feed { records := R } = { s with records := R }

theorem rereads_init : Rereads {} := ⟨rfl, fun _ => rfl⟩

/-- A character that goes into the line keeps the line readable. -/
theorem Rereads.line_push {s s' : TokenizerState} {c : Char} (h : Rereads s)
    (hc : s.quoted = true ∨ c ≠ '\n') (hs' : s.feed c = s')
    (hline : s'.lineText = s.lineText ++ [c]) (R : List (List String)) :
    s'.lineText.foldl feed { records := R } = { s' with records := R } := by
  rw [hline, List.foldl_append, h.line R, List.foldl_cons, List.foldl_nil, feed_withRecords hc,
    hs']

/-- One character keeps what was read readable. -/
theorem Rereads.feed {s : TokenizerState} (h : Rereads s) (c : Char) : Rereads (s.feed c) := by
  have hr := reads_feed s c
  generalize hs' : s.feed c = s' at hr
  cases hr with
  | quoted hq =>
    exact ⟨h.records, h.line_push (.inl hq) hs' (lineText_pushToken s c _)⟩
  | blankLine => exact h
  | endLine hq hopen =>
    -- the line written back and its line break end the record, after the records before it
    refine ⟨?_, fun R => rfl⟩
    rw [recordsText, List.reverse_cons, List.map_append, List.flatten_append, ← recordsText,
      List.foldl_append, h.records, List.map_singleton, List.flatten_singleton, List.foldl_append,
      recordChars_line, h.line, List.foldl_cons, List.foldl_nil]
    exact hs'
  | carriage => exact h
  | comma hq =>
    exact ⟨h.records, h.line_push (.inr (by decide)) hs' (lineText_comma s)⟩
  | char hq hn =>
    exact ⟨h.records, h.line_push (.inr hn) hs' (lineText_pushToken s c _)⟩

theorem Rereads.foldl : ∀ (t : List Char) {s : TokenizerState}, Rereads s →
    Rereads (t.foldl TokenizerState.feed s)
  | [], _, h => h
  | c :: t, _, h => Rereads.foldl t (h.feed c)

end TokenizerState

/-! ### The round trip -/

open TokenizerState in
/-- The records of a text, written back, are the text as the tokenizer saw it. -/
theorem joinRecords_tokenize (t : String) :
    (joinRecords (tokenize t)).toList = keptText t.toList := by
  have h := Tracks.foldl t.toList tracks_init
  rw [toList_joinRecords, tokenize_eq, h.finish, keptText, textLines]

/-- A carriage return inside a quoted region stays, one outside goes, and so does an empty line. -/
example : keptText "a\r\n\n<\"x\r\n\",b\n".toList = "a\n<\"x\r\n\",b".toList := by decide

open TokenizerState in
/-- The records of a text, written back, read as the same records. -/
theorem tokenize_joinRecords_tokenize (t : String) :
    tokenize (joinRecords (tokenize t)) = tokenize t := by
  set s := t.toList.foldl TokenizerState.feed {} with hs
  have hr : s.Rereads := Rereads.foldl t.toList rereads_init
  rw [tokenize_eq t, ← hs]
  by_cases hb : s.token = [] ∧ s.record = []
  · -- the text ends at the start of a line: its records are the finished ones
    rw [finish_of_blank hb]
    cases hrec : s.records with
    | nil => rfl
    | cons r R =>
      -- the last record is read back up to the line break that would end it
      have hrecords := hr.records
      rw [hrec, recordsText, List.reverse_cons, List.map_append, List.flatten_append,
        List.foldl_append, List.map_singleton, List.flatten_singleton, List.foldl_append,
        List.foldl_cons, List.foldl_nil] at hrecords
      have hread : (joinRecords (r :: R).reverse).toList =
          (R.reverse.map (recordChars · ++ ['\n'])).flatten ++ recordChars r := by
        rw [toList_joinRecords, List.reverse_cons, List.map_append, List.map_singleton,
          intercalate_append_singleton, List.map_map]
        rfl
      rw [tokenize_eq, hread, List.foldl_append]
      exact finish_of_feed_newline hrecords
  · -- the last line is read back from the start of a line, after the records before it
    have hread : (joinRecords s.finish).toList = recordsText s.records ++ s.lineText := by
      rw [finish_of_open hb, toList_joinRecords, List.reverse_cons, List.map_append, List.map_singleton,
        intercalate_append_singleton, List.map_map, recordChars_line]
      rfl
    rw [tokenize_eq, hread, List.foldl_append, hr.records, hr.line]

/-- Writing the records of a text back and reading them again gives the same records; what is
written is the text with the carriage returns outside quoted regions and the empty lines left
out, and it keeps every other character of the text in its order. -/
theorem tokenize_rejoins_kept_text (t : String) :
    tokenize (joinRecords (tokenize t)) = tokenize t ∧
      (joinRecords (tokenize t)).toList = keptText t.toList ∧
      List.Sublist (joinRecords (tokenize t)).toList t.toList ∧
      (joinRecords (tokenize t)).toList.filter (fun c => !isBreak c) =
        t.toList.filter (fun c => !isBreak c) := by
  refine ⟨tokenize_joinRecords_tokenize t, joinRecords_tokenize t, ?_, ?_⟩
  · rw [joinRecords_tokenize]
    exact keptText_sublist t.toList
  · rw [joinRecords_tokenize]
    exact filter_keptText t.toList

end Schedule.Export
