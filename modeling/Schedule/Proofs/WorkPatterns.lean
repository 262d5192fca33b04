import Mathlib.Data.List.Chain
import Schedule.Build.Calendars

/-!
# The days of a work pattern

A work pattern lists time entries in day order from Sunday. Read one by one, an entry starting at
midnight opens the next day and clears its hours; an entry starting before the previous one ended
(unless that ended at midnight) would open the next day too. Every day starts non-working, and an
entry whose exception type is working adds its span to the open day and makes it working.

So when the entries fall into days, each day's first entry starting at midnight and every later
one starting after midnight and no earlier than the entry before it ends (or after an entry ending
at midnight), the week holds exactly those days: the `k`-th day of entries fills the weekday
`k` after Sunday with the spans of its working entries, working when there is one; the other
weekdays are non-working and keep their hours. At most seven days fit a week. A pattern without
time entries is not read at all, and leaves its week as it was.

The walk is run against `Walked`, the state after some days of entries: it stands on the last
of them, and each of them holds its entries (`walked_block`). The step lemmas say once what one
entry does: one starting at midnight opens the next day (`step_of_midnight`), one staying on the
day only adds to it (`step_of_staysOnDay`).

## Main definitions

* `entryStart`, `entryFinish`, `entrySpan` — the times of a time entry, midnight when missing.
* `StaysOnDay`, `DayBlock` — entries that stay on one day, and the entries of one day.
* `CalendarTables.entriesOf`, `CalendarTables.entryWorks`, `CalendarTables.dayOf` — a pattern's
  entries, whether an entry's exception type is working, and the day a list of entries makes.

## Main statements

* `CalendarIndex.applyPattern_days` — a pattern whose entries fall into days fills the week.
* `CalendarTables.applyPattern_fills_weekdays` — the same for the index of the calendar tables,
  and a pattern without entries leaves the days of the week as they were.
-/

namespace Schedule

/-! ### Time entries -/

/-- Where a time entry starts; a missing start reads as midnight. -/
def entryStart (e : Row) : Clock := (e.clock? "START_TIME").getD Clock.midnight

/-- Where a time entry ends; a missing end reads as midnight. -/
def entryFinish (e : Row) : Clock := (e.clock? "END_TIME").getD Clock.midnight

/-- The span of a time entry. -/
def entrySpan (e : Row) : TimeRange := ⟨entryStart e, entryFinish e⟩

/-- An entry that stays on the day of the entry before it: it starts after midnight, and not
before the entry before it ends, unless that one ends at midnight. -/
def StaysOnDay (prev e : Row) : Prop :=
  entryStart e ≠ Clock.midnight ∧
    (entryFinish prev = Clock.midnight ∨ Clock.before (entryStart e) (entryFinish prev) = false)

/-- The entries of one day: the first starts at midnight, and each later one stays on the day. -/
def DayBlock : List Row → Prop
  | [] => False
  | e :: es => entryStart e = Clock.midnight ∧ List.IsChain StaysOnDay (e :: es)

/-! ### Days of a week -/

namespace WorkWeek

variable (w : WorkWeek) {i j : Nat} (d d' : CalendarDay)

@[simp] theorem length_setDay : (w.setDay i d).days.length = w.days.length := by
  simp [setDay]

theorem day_setDay_self (h : i < w.days.length) : (w.setDay i d).day i = d := by
  simp [setDay, day, h]

theorem day_setDay_of_ne (h : j ≠ i) : (w.setDay i d).day j = w.day j := by
  simp [setDay, day, List.getD_eq_getElem?_getD, Ne.symm h]

theorem setDay_setDay : (w.setDay i d).setDay i d' = w.setDay i d' := by
  simp [setDay]

/-- Putting back the day that is there changes nothing. -/
theorem setDay_day : w.setDay i (w.day i) = w := by
  cases w with
  | mk name range days =>
    simp only [setDay, day, WorkWeek.mk.injEq, true_and]
    by_cases h : i < days.length
    · rw [List.getD_eq_getElem?_getD, List.getElem?_eq_getElem h, Option.getD_some,
        List.set_getElem_self]
    · exact List.set_eq_of_length_le (Nat.le_of_not_lt h)

end WorkWeek

/-! ### One entry -/

namespace CalendarIndex

variable (ix : CalendarIndex)

/-- Whether an entry's exception type, looked up in the index, is working. -/
def works (e : Row) : Bool :=
  ((e.integer? "EXCEPTION").bind fun k => ix.exceptionTypes.get? k.toInt) == some .working

/-- The day made by a list of entries: the spans of the working ones, working when there is one. -/
def dayOf (es : List Row) : CalendarDay :=
  { dayType := if ((es.filter ix.works).map entrySpan).isEmpty then .nonWorking else .working,
    hours := some ((es.filter ix.works).map entrySpan) }

theorem dayOf_nil : ix.dayOf [] = ⟨.nonWorking, some []⟩ := rfl

/-- One more entry adds its span when it works and changes nothing otherwise. -/
theorem dayOf_append_singleton (es : List Row) (e : Row) :
    ix.dayOf (es ++ [e]) =
      if ix.works e then ⟨.working, some ((ix.dayOf es).hours.getD [] ++ [entrySpan e])⟩
      else ix.dayOf es := by
  cases h : ix.works e <;> simp [dayOf, h]

variable {ix} {w : PatternWalk} {e : Row}

/-- An entry starting at midnight opens the next day, with its hours cleared or, when the entry
works, holding just its span. -/
theorem step_of_midnight (he : entryStart e = Clock.midnight)
    (hd : (w.day + 1) % 7 < w.week.days.length) :
    ix.step w e =
      { week := w.week.setDay ((w.day + 1) % 7)
          (if ix.works e then ⟨.working, some [entrySpan e]⟩
           else { w.week.day ((w.day + 1) % 7) with hours := some [] }),
        day := (w.day + 1) % 7, open_ := true, previousEnd := some (entryFinish e) } := by
  have hstart : ((e.clock? "START_TIME").getD Clock.midnight == Clock.midnight) = true :=
    beq_iff_eq.mpr he
  have hworks : (((e.integer? "EXCEPTION").bind fun k => ix.exceptionTypes.get? k.toInt) ==
      some DayType.working) = ix.works e := rfl
  unfold step
  simp only [hstart, hworks, Bool.true_or, if_true, Bool.true_and]
  cases ix.works e
  · rfl
  · -- the span goes into the day just cleared
    simp only [if_true, WorkWeek.day_setDay_self _ _ hd, WorkWeek.setDay_setDay, Option.getD_some,
      List.nil_append]
    rfl

/-- An entry staying on the day adds its span to the open day when it works, and changes nothing
else but where the last entry ended. -/
theorem step_of_staysOnDay {prev : Row} (hprev : w.previousEnd = some (entryFinish prev))
    (hs : StaysOnDay prev e) :
    ix.step w e =
      { week :=
          if w.open_ && ix.works e then
            w.week.setDay w.day
              ⟨.working, some ((w.week.day w.day).hours.getD [] ++ [entrySpan e])⟩
          else w.week,
        day := w.day, open_ := w.open_, previousEnd := some (entryFinish e) } := by
  obtain ⟨hne, hcont⟩ := hs
  have hstart : ((e.clock? "START_TIME").getD Clock.midnight == Clock.midnight) = false :=
    beq_eq_false_iff_ne.mpr hne
  -- the entry neither starts at midnight nor before the previous one ended
  have hwrap : (entryFinish prev != Clock.midnight &&
      Clock.before ((e.clock? "START_TIME").getD Clock.midnight) (entryFinish prev)) = false := by
    rcases hcont with h | h
    · simp [h]
    · simp only [entryStart] at h
      simp [h]
  have hworks : (((e.integer? "EXCEPTION").bind fun k => ix.exceptionTypes.get? k.toInt) ==
      some DayType.working) = ix.works e := rfl
  unfold step
  simp only [hstart, hprev, hwrap, hworks, Bool.false_or, Bool.false_eq_true, if_false]
  by_cases h : (w.open_ && ix.works e) = true
  · rw [if_pos h, if_pos h]
    rfl
  · rw [if_neg h, if_neg h]
    rfl

end CalendarIndex

/-! ### The walk over the days -/

namespace CalendarIndex

variable (ix : CalendarIndex) (w₀ : WorkWeek)

/-- The walk after the days of entries `done`: the week has seven days, the walk stands on the
last day of `done`, and each day of `done` holds its entries while every other day is as in
`w₀`. -/
structure Walked (done : List (List Row)) (w : PatternWalk) : Prop where
  length : w.week.days.length = 7
  day : w.day = (5 + done.length) % 7
  days : ∀ i < 7, w.week.day i =
    if h : (i + 1) % 7 < done.length then ix.dayOf done[(i + 1) % 7] else w₀.day i

variable {ix}

/-- Entries staying on the open day add to it and to nothing else. The induction is on the
entries; the day holds the entries read so far. -/
theorem foldl_step_staysOnDay :
    ∀ (es : List Row) (prev : Row) (read : List Row) (w : PatternWalk),
    w.open_ = true → w.previousEnd = some (entryFinish prev) →
    List.IsChain StaysOnDay (prev :: es) → w.day < w.week.days.length →
    w.week.day w.day = ix.dayOf read →
    (es.foldl ix.step w).day = w.day ∧
      (es.foldl ix.step w).week = w.week.setDay w.day (ix.dayOf (read ++ es))
  | [], _, read, w, _, _, _, _, hday => by
    simp only [List.foldl_nil, List.append_nil, ← hday, WorkWeek.setDay_day, and_self]
  | e :: es, prev, read, w, hopen, hprev, hchain, hlt, hday => by
    obtain ⟨hs, hchain'⟩ := List.isChain_cons_cons.mp hchain
    have hstep : ix.step w e = _ := step_of_staysOnDay hprev hs
    -- one entry leaves the walk on the day, holding one more entry
    have hweek : (ix.step w e).week = w.week.setDay w.day (ix.dayOf (read ++ [e])) := by
      rw [hstep, dayOf_append_singleton, ← hday, hopen, Bool.true_and]
      split
      · rfl
      · exact (WorkWeek.setDay_day _).symm
    have hday₁ : (ix.step w e).day = w.day := by rw [hstep]
    obtain ⟨h₁, h₂⟩ := foldl_step_staysOnDay es e (read ++ [e]) (ix.step w e)
      (by rw [hstep]; exact hopen) (by rw [hstep]) hchain'
      (by rw [hweek, hday₁, WorkWeek.length_setDay]; exact hlt)
      (by rw [hweek, hday₁]; exact WorkWeek.day_setDay_self _ _ hlt)
    refine ⟨by rw [List.foldl_cons, h₁, hday₁], ?_⟩
    rw [List.foldl_cons, h₂, hweek, hday₁, WorkWeek.setDay_setDay, List.append_assoc,
      List.singleton_append]

/-- Reading one more day of entries fills the next weekday with them. -/
theorem walked_block (hfresh : ∀ i < 7, (w₀.day i).dayType = .nonWorking)
    {done : List (List Row)} {w : PatternWalk} (hw : ix.Walked w₀ done w) (hlen : done.length < 7)
    {b : List Row} (hb : DayBlock b) : ix.Walked w₀ (done ++ [b]) (b.foldl ix.step w) := by
  obtain ⟨e, es, rfl⟩ : ∃ e es, b = e :: es := by
    cases b with
    | nil => exact absurd hb id
    | cons e es => exact ⟨e, es, rfl⟩
  obtain ⟨hmid, hchain⟩ := hb
  set d := (w.day + 1) % 7 with hd
  have hdlt : d < 7 := Nat.mod_lt _ (by omega)
  have hdlen : d < w.week.days.length := by rw [hw.length]; exact hdlt
  -- the day opened is one no earlier day filled, so it is still a day off of `w₀`
  have hnext : (d + 1) % 7 = done.length := by rw [hd, hw.day]; omega
  have hopened : { w.week.day d with hours := some [] } = ix.dayOf [] := by
    rw [hw.days d hdlt, dif_neg (by omega), dayOf_nil]
    simp only [hfresh d hdlt]
  -- the first entry opens the day and leaves it holding that entry
  have hstep : ix.step w e = _ := step_of_midnight hmid hdlen
  have hweek₁ : (ix.step w e).week = w.week.setDay d (ix.dayOf [e]) := by
    have h₁ := dayOf_append_singleton ix [] e
    rw [List.nil_append, ← hopened] at h₁
    rw [hstep, h₁]
    split <;> rfl
  have hday₁ : (ix.step w e).day = d := by rw [hstep]
  obtain ⟨h₁, h₂⟩ := foldl_step_staysOnDay es e [e] (ix.step w e) (by rw [hstep])
    (by rw [hstep]) hchain (by rw [hweek₁, hday₁, WorkWeek.length_setDay]; exact hdlen)
    (by rw [hweek₁, hday₁]; exact WorkWeek.day_setDay_self _ _ hdlen)
  rw [hday₁, hweek₁, WorkWeek.setDay_setDay, List.singleton_append] at h₂
  rw [hday₁] at h₁
  refine ⟨?_, ?_, fun i hi => ?_⟩
  · rw [List.foldl_cons, h₂, WorkWeek.length_setDay, hw.length]
  · rw [List.foldl_cons, h₁, hd, hw.day, List.length_append, List.length_singleton]
    omega
  · rw [List.foldl_cons, h₂]
    by_cases hid : i = d
    · -- the weekday just filled holds the new day of entries
      subst hid
      rw [WorkWeek.day_setDay_self _ _ hdlen, dif_pos (by simp; omega),
        List.getElem_concat_length hnext]
    · -- every other weekday is as before
      have hne : (i + 1) % 7 ≠ done.length := by
        intro h
        apply hid
        rw [hd, hw.day]
        omega
      rw [WorkWeek.day_setDay_of_ne _ _ hid, hw.days i hi]
      by_cases hlt : (i + 1) % 7 < done.length
      · rw [dif_pos hlt, dif_pos (by simp; omega), List.getElem_append_left hlt]
      · rw [dif_neg hlt, dif_neg (by simp; omega)]

/-- Reading days of entries one after another fills one weekday each. -/
theorem walked_blocks (hfresh : ∀ i < 7, (w₀.day i).dayType = .nonWorking) :
    ∀ (blocks done : List (List Row)) (w : PatternWalk), ix.Walked w₀ done w →
      done.length + blocks.length ≤ 7 → (∀ b ∈ blocks, DayBlock b) →
      ix.Walked w₀ (done ++ blocks) (blocks.flatten.foldl ix.step w)
  | [], done, w, hw, _, _ => by simpa using hw
  | b :: bs, done, w, hw, hlen, hblocks => by
    rw [List.flatten_cons, List.foldl_append]
    have hw' := walked_block w₀ hfresh hw (by simp at hlen; omega)
      (hblocks b List.mem_cons_self)
    have := walked_blocks hfresh bs (done ++ [b]) _ hw' (by simp at hlen ⊢; omega)
      fun b' hb' => hblocks b' (List.mem_cons_of_mem b hb')
    simpa using this

/-- A pattern without time entries is read no further than its name: the days stay as they were. -/
theorem applyPattern_days_of_no_entries {week : WorkWeek} {pattern : Int32} (defaultWeek : Bool)
    (h : ix.entries.get? pattern.toInt = none) :
    (ix.applyPattern week pattern defaultWeek).days = week.days := by
  rw [applyPattern]
  split
  · rfl
  · dsimp only
    rw [h]
    dsimp only
    split <;> rfl

/-- A pattern whose time entries fall into at most seven days fills the weekday `k` after Sunday
with the `k`-th day of entries, and makes every other weekday a day off with its hours as they
were. -/
theorem applyPattern_days {week : WorkWeek} (hweek : week.days.length = 7) {pattern : Int32}
    (defaultWeek : Bool) {row : Row} (hrow : ix.workPatterns.get? pattern.toInt = some row)
    {blocks : List (List Row)} (hentries : ix.entries.get? pattern.toInt = some blocks.flatten)
    (hd : blocks.length ≤ 7) (hblocks : ∀ b ∈ blocks, DayBlock b) :
    ∀ i < 7, (ix.applyPattern week pattern defaultWeek).day i =
      if h : (i + 1) % 7 < blocks.length then ix.dayOf blocks[(i + 1) % 7]
      else { week.day i with dayType := .nonWorking } := by
  -- the pattern's name goes to a dated week only; the days start as days off
  set named := if defaultWeek then week else { week with name := row.string? "NAME" } with hnamed
  have hdays : named.days = week.days := by
    rw [hnamed]
    split <;> rfl
  set w₀ : WorkWeek :=
    { named with days := named.days.map fun d => { d with dayType := .nonWorking } }
  have hw₀ : ∀ i < 7, w₀.day i = { week.day i with dayType := .nonWorking } := by
    intro i hi
    simp [w₀, WorkWeek.day, hdays, List.getD_eq_getElem?_getD, List.getElem?_map,
      List.getElem?_eq_getElem (show i < week.days.length by omega)]
  have hfresh : ∀ i < 7, (w₀.day i).dayType = .nonWorking := fun i hi => by rw [hw₀ i hi]
  have hstart : ix.Walked w₀ [] { week := w₀ } :=
    ⟨by simp [w₀, hdays, hweek], rfl, fun i _ => by simp⟩
  have hwalk := walked_blocks w₀ hfresh blocks [] _ hstart (by simpa using hd) hblocks
  have happly : ix.applyPattern week pattern defaultWeek =
      (blocks.flatten.foldl ix.step { week := w₀ }).week := by
    rw [applyPattern, hrow]
    dsimp only
    rw [hentries]
  intro i hi
  rw [happly, hwalk.days i hi, List.nil_append]
  split
  · rfl
  · exact hw₀ i hi

end CalendarIndex

/-! ### The calendar tables -/

namespace CalendarTables

variable (t : CalendarTables)

/-- The time entries of a pattern, in the order given. -/
def entriesOf (pattern : Int32) : List Row :=
  t.timeEntries.filter fun r => r.integer? "TIME_ENTRYID" == some pattern

/-- The day type of an exception type id: the last exception type carrying it decides. -/
def exceptionTypeOf (id : Int32) : Option DayType :=
  (t.exceptionTypes.reverse.find? fun r => r.integer? "ID" == some id).map fun r =>
    exceptionDayType (r.int "UNIQUE_BIT_FIELD")

/-- Whether an entry's exception type is working. -/
def entryWorks (e : Row) : Bool :=
  ((e.integer? "EXCEPTION").bind t.exceptionTypeOf) == some .working

/-- The day made by a list of entries: the spans of the working ones, working when there is one. -/
def dayOf (es : List Row) : CalendarDay :=
  { dayType := if ((es.filter t.entryWorks).map entrySpan).isEmpty then .nonWorking else .working,
    hours := some ((es.filter t.entryWorks).map entrySpan) }

end CalendarTables

section Index

/-- A table filled row by row, a later row of a key replacing an earlier one, holds for a key the
last row carrying it. -/
theorem getElem?_foldl_insert {β : Type} (key : Row → Option Int32) (val : Row → β)
    {step : Std.HashMap Int β → Row → Std.HashMap Int β}
    (hsome : ∀ m r k, key r = some k → step m r = m.insert k.toInt (val r))
    (hnone : ∀ m r, key r = none → step m r = m) (k : Int32) :
    ∀ (rows : List Row) (m : Std.HashMap Int β),
      (rows.foldl step m)[k.toInt]? =
        ((rows.reverse.find? fun r => key r == some k).map val).or m[k.toInt]?
  | [], m => by simp
  | r :: rs, m => by
    rw [List.foldl_cons, getElem?_foldl_insert key val hsome hnone k rs, List.reverse_cons,
      List.find?_append, Option.map_or, Option.or_assoc]
    congr 1
    cases hr : key r with
    | none => simp [hnone m r hr, hr]
    | some k' =>
      rw [hsome m r k' hr, Std.HashMap.getElem?_insert]
      by_cases hk : k' = k
      · subst hk
        simp [hr]
      · have hne : (k'.toInt == k.toInt) = false :=
          beq_eq_false_iff_ne.mpr fun h => hk (Int32.toInt_inj.mp h)
        simp [hr, hne, hk]

/-- A table of rows grouped by key, each group in row order and reversed at the end, holds for a
key the rows carrying it in row order, when there are any. -/
theorem getElem?_foldl_group (key : Row → Option Int32)
    {step : Std.HashMap Int (List Row) → Row → Std.HashMap Int (List Row)}
    (hsome : ∀ m r k, key r = some k → step m r = m.insert k.toInt (r :: m.getD k.toInt []))
    (hnone : ∀ m r, key r = none → step m r = m) (k : Int32) :
    ∀ (rows : List Row) (m : Std.HashMap Int (List Row)),
      (rows.foldl step m)[k.toInt]? =
        if rows.filter (fun r => key r == some k) = [] then m[k.toInt]?
        else some ((rows.filter fun r => key r == some k).reverse ++ m.getD k.toInt [])
  | [], m => by simp
  | r :: rs, m => by
    rw [List.foldl_cons, getElem?_foldl_group key hsome hnone k rs]
    cases hr : key r with
    | none => simp [hnone m r hr, hr]
    | some k' =>
      rw [hsome m r k' hr, Std.HashMap.getElem?_insert, Std.HashMap.getD_insert]
      by_cases hk : k' = k
      · -- the row joins the group of its key, after the rows before it
        subst hk
        have hget : (m.insert k'.toInt (r :: m.getD k'.toInt []))[k'.toInt]? =
            some (r :: m.getD k'.toInt []) := Std.HashMap.getElem?_insert_self
        split <;> simp_all
      · have hne : (k'.toInt == k.toInt) = false :=
          beq_eq_false_iff_ne.mpr fun h => hk (Int32.toInt_inj.mp h)
        simp [hr, hne, hk]

end Index

namespace CalendarTables

variable (t : CalendarTables)

theorem index_exceptionTypes (id : Int32) :
    t.index.exceptionTypes.get? id.toInt = t.exceptionTypeOf id := by
  rw [Std.HashMap.get?_eq_getElem?, index]
  dsimp only
  rw [getElem?_foldl_insert (fun r => r.integer? "ID")
    (fun r => exceptionDayType (r.int "UNIQUE_BIT_FIELD"))]
  · simp [exceptionTypeOf]
  · intro m r k hk
    simp only [hk]
  · intro m r hk
    simp only [hk]

theorem index_works : t.index.works = t.entryWorks := by
  funext e
  simp only [CalendarIndex.works, entryWorks, index_exceptionTypes]

theorem index_dayOf (es : List Row) : t.index.dayOf es = t.dayOf es := by
  simp only [CalendarIndex.dayOf, dayOf, index_works]

/-- A pattern that has a row is in the index, under the last row carrying its id. -/
theorem index_workPatterns {pattern : Int32}
    (h : ∃ r ∈ t.workPatterns, r.integer? "ID" = some pattern) :
    ∃ row, t.index.workPatterns.get? pattern.toInt = some row := by
  rw [Std.HashMap.get?_eq_getElem?, index]
  dsimp only
  rw [getElem?_foldl_insert (fun r => r.integer? "ID") (fun r => r)]
  · obtain ⟨r, hr, hid⟩ := h
    obtain ⟨row, hrow⟩ : ∃ row, t.workPatterns.reverse.find?
        (fun r => r.integer? "ID" == some pattern) = some row := by
      refine Option.isSome_iff_exists.mp
        (List.find?_isSome.mpr ⟨r, List.mem_reverse.mpr hr, ?_⟩)
      simp [hid]
    exact ⟨row, by simp [hrow]⟩
  · intro m r k hk
    simp only [hk]
  · intro m r hk
    simp only [hk]

/-- The index holds a pattern's time entries in the order given, when it has any. -/
theorem index_entries (pattern : Int32) :
    t.index.entries.get? pattern.toInt =
      if t.entriesOf pattern = [] then none else some (t.entriesOf pattern) := by
  rw [Std.HashMap.get?_eq_getElem?, index]
  dsimp only
  rw [groupRows, Std.HashMap.getElem?_map,
    getElem?_foldl_group (fun r => r.integer? "TIME_ENTRYID")]
  · simp only [Std.HashMap.getElem?_empty, Std.HashMap.getD_empty, List.append_nil]
    split <;> simp_all [entriesOf]
  · intro m r k hk
    simp only [hk]
  · intro m r hk
    simp only [hk]

/-- Filling a week from a pattern of the calendar tables: when the pattern's time entries fall
into at least one and at most seven days, the weekday `k` after Sunday gets the spans of the
working entries of the `k`-th day, and is working when there is one; every other weekday is a
day off with its hours as they were. A pattern without time entries leaves the days of the week
as they were. -/
theorem applyPattern_fills_weekdays {week : WorkWeek} (hweek : week.days.length = 7)
    {pattern : Int32} (defaultWeek : Bool)
    (hpattern : ∃ r ∈ t.workPatterns, r.integer? "ID" = some pattern)
    {blocks : List (List Row)} (hentries : t.entriesOf pattern = blocks.flatten)
    (hd : blocks.length ≤ 7) (hblocks : ∀ b ∈ blocks, DayBlock b) :
    (blocks = [] → (t.index.applyPattern week pattern defaultWeek).days = week.days) ∧
      (blocks ≠ [] → ∀ i < 7, (t.index.applyPattern week pattern defaultWeek).day i =
        if h : (i + 1) % 7 < blocks.length then t.dayOf blocks[(i + 1) % 7]
        else { week.day i with dayType := .nonWorking }) := by
  obtain ⟨row, hrow⟩ := t.index_workPatterns hpattern
  refine ⟨fun hnil => ?_, fun hne i hi => ?_⟩
  · -- no entries: the pattern is not read past its name
    refine CalendarIndex.applyPattern_days_of_no_entries defaultWeek ?_
    rw [index_entries, if_pos (by rw [hentries, hnil]; rfl)]
  · -- some day holds an entry, so the pattern has entries
    have hsome : t.entriesOf pattern ≠ [] := by
      obtain ⟨b, bs, rfl⟩ := List.exists_cons_of_ne_nil hne
      have hb := hblocks b List.mem_cons_self
      rw [hentries, List.flatten_cons]
      cases b with
      | nil => exact absurd hb id
      | cons e es => simp
    have hget : t.index.entries.get? pattern.toInt = some blocks.flatten := by
      rw [index_entries, if_neg hsome, hentries]
    rw [CalendarIndex.applyPattern_days hweek defaultWeek hrow hget hd hblocks i hi]
    split
    · exact t.index_dayOf _
    · rfl

/-- A pattern with no time entries leaves a day of the default week as it was, not a day off. -/
theorem applyPattern_of_empty_pattern_keeps_day :
    (((CalendarTables.mk [] [{ fields := [("ID", .integer 10)] }] [] [] []).index.applyPattern
      {} 10 true).day 0).dayType = .inherited := by
  have hnone :
      (CalendarTables.mk [] [{ fields := [("ID", .integer 10)] }] [] [] []).index.entries.get?
        (10 : Int32).toInt = none := by
    rw [index_entries, if_pos]
    rfl
  rw [WorkWeek.day, CalendarIndex.applyPattern_days_of_no_entries true hnone]
  rfl

/-- Exception type 3 is working and 4 is not; pattern 10 has an idle Sunday and a Monday working
from eight to noon and from one to five. -/
def twoDayPattern : CalendarTables where
  exceptionTypes := [{ fields := [("ID", .integer 3), ("UNIQUE_BIT_FIELD", .integer 8)] },
    { fields := [("ID", .integer 4), ("UNIQUE_BIT_FIELD", .integer 1)] }]
  workPatterns := [{ fields := [("ID", .integer 10)] }]
  timeEntries := [
    { fields := [("END_TIME", .clock (Clock.ofHour 0)), ("EXCEPTION", .integer 4),
        ("START_TIME", .clock (Clock.ofHour 0)), ("TIME_ENTRYID", .integer 10)] },
    { fields := [("END_TIME", .clock (Clock.ofHour 8)), ("EXCEPTION", .integer 4),
        ("START_TIME", .clock (Clock.ofHour 0)), ("TIME_ENTRYID", .integer 10)] },
    { fields := [("END_TIME", .clock (Clock.ofHour 12)), ("EXCEPTION", .integer 3),
        ("START_TIME", .clock (Clock.ofHour 8)), ("TIME_ENTRYID", .integer 10)] },
    { fields := [("END_TIME", .clock (Clock.ofHour 17)), ("EXCEPTION", .integer 3),
        ("START_TIME", .clock (Clock.ofHour 13)), ("TIME_ENTRYID", .integer 10)] },
    { fields := [("END_TIME", .clock (Clock.ofHour 0)), ("EXCEPTION", .integer 4),
        ("START_TIME", .clock (Clock.ofHour 17)), ("TIME_ENTRYID", .integer 10)] }]

/-- The pattern's Sunday and Monday fill Sunday and Monday of the week; Tuesday, which the
pattern does not reach, becomes a day off. -/
theorem twoDayPattern_fills_weekdays :
    (twoDayPattern.index.applyPattern {} 10 false).day 0 =
        ⟨.working, some [TimeRange.ofHours 8 12, TimeRange.ofHours 13 17]⟩ ∧
      (twoDayPattern.index.applyPattern {} 10 false).day 1 =
        { ({} : WorkWeek).day 1 with dayType := .nonWorking } ∧
      (twoDayPattern.index.applyPattern {} 10 false).day 6 = ⟨.nonWorking, some []⟩ := by
  have hentries : twoDayPattern.entriesOf 10 =
      [twoDayPattern.timeEntries.take 1, twoDayPattern.timeEntries.drop 1].flatten := rfl
  have hblocks : ∀ b ∈ [twoDayPattern.timeEntries.take 1, twoDayPattern.timeEntries.drop 1],
      DayBlock b := by
    simp only [List.mem_cons, List.not_mem_nil, or_false, forall_eq_or_imp, forall_eq]
    refine ⟨⟨rfl, List.isChain_singleton _⟩, rfl, ?_⟩
    unfold StaysOnDay
    decide
  have h := (applyPattern_fills_weekdays _ (show ({} : WorkWeek).days.length = 7 from rfl) false
    ⟨_, List.mem_singleton_self _, rfl⟩ hentries (by decide) hblocks).2 (List.cons_ne_nil _ _)
  refine ⟨?_, ?_, ?_⟩
  · rw [h 0 (by decide)]
    rfl
  · rw [h 1 (by decide)]
    rfl
  · rw [h 6 (by decide)]
    rfl

end CalendarTables

end Schedule
