import Schedule.Proofs.CalendarParents
import Schedule.Proofs.WorkPatterns

/-!
# The exceptions of a calendar

An exception assignment row of a calendar names the first and the last day of a non-working
range by two stamps. A last stamp at exactly midnight ends the range with the day before, unless
that day lies outside the range of dates; a row without both stamps names no range. A calendar
adds a range only when it has no exception over exactly that range.

So the exceptions of the calendar read from a row are the ranges of its exception rows, in the
order given, each range kept at its first occurrence (`List.eraseDups`), and none of them works:
no two exceptions share a range. The fold over the rows carries this as its invariant, with the
ranges met so far as its parameter (`foldl_addCalendarException`).

## Main definitions

* `exceptionRange?` — the range of dates an exception assignment row names.
* `CalendarTables.exceptionsOf` — the exception assignment rows of a calendar, in order.

## Main statements

* `Builder.foldl_addCalendarException` — adding exception rows one by one keeps the first
  occurrence of every range.
* `CalendarTables.processCalendar_exceptions_eq_eraseDups` — the calendar read from a row has,
  in order, the first occurrences of the ranges of its exception rows, all non-working.
-/

namespace Schedule

/-- The range of dates an exception assignment row names: from the day of its start stamp to the
day of its end stamp, an end at exactly midnight naming the day before when that day is in
range; none without both stamps. -/
def exceptionRange? (e : Row) : Option DateRange :=
  match e.stamp? "START_DATE", e.stamp? "END_DATE" with
  | some s, some f =>
    some ⟨s.date, if f.clock = Clock.midnight then (f.date.addDays? (-1)).getD f.date else f.date⟩
  | _, _ => none

/-! ### Ranges kept at their first occurrence -/

section FirstOccurrences

variable {α : Type} [BEq α] [LawfulBEq α]

/-- One more element is kept when it is new. -/
theorem eraseDups_append_singleton (l : List α) (a : α) :
    (l ++ [a]).eraseDups = if a ∈ l then l.eraseDups else l.eraseDups ++ [a] := by
  rw [List.eraseDups_append]
  by_cases ha : a ∈ l
  · simp [List.removeAll, ha]
  · simp [List.removeAll, List.eraseDups_cons, ha]

/-- Every element is kept at most once. -/
theorem nodup_eraseDups : ∀ l : List α, l.eraseDups.Nodup
  | [] => List.nodup_nil
  | a :: as => by
    rw [List.eraseDups_cons]
    refine List.nodup_cons.mpr ⟨?_, nodup_eraseDups _⟩
    simp
termination_by l => l.length
decreasing_by
  exact Nat.lt_of_le_of_lt (List.length_filter_le _ _) (Nat.lt_succ_self _)

end FirstOccurrences

/-! ### Adding exceptions -/

namespace Calendar

/-- A range is added with its hours when no exception covers exactly it. -/
theorem addException_exceptions (c : Calendar) (r : DateRange) (hours : List TimeRange) :
    (c.addException r hours).1.exceptions =
      if r ∈ c.exceptions.map (·.range) then c.exceptions else c.exceptions ++ [⟨r, hours⟩] := by
  unfold addException
  by_cases hr : r ∈ c.exceptions.map (·.range)
  · have hany : c.exceptions.any (·.range == r) = true := by
      obtain ⟨e, he, rfl⟩ := List.mem_map.mp hr
      exact List.any_eq_true.mpr ⟨e, he, beq_self_eq_true _⟩
    rw [if_pos hany, if_pos hr]
  · have hany : c.exceptions.any (·.range == r) = false := by
      refine List.any_eq_false.mpr fun e he heq => hr ?_
      exact List.mem_map.mpr ⟨e, he, beq_iff_eq.mp heq⟩
    rw [if_neg (by simp [hany]), if_neg hr]

end Calendar

namespace Builder

/-- An exception row adds the non-working range it names, unless the calendar has it already. -/
theorem addCalendarException_eq (c : Calendar) (e : Row) :
    addCalendarException c e =
      (exceptionRange? e).elim c fun r => (c.addException r []).1 := by
  unfold addCalendarException exceptionRange?
  cases hs : e.stamp? "START_DATE" <;> cases hf : e.stamp? "END_DATE" <;> simp

/-- Adding exception rows one by one to a calendar whose exceptions are the first occurrences of
the ranges `seen`, non-working, gives the first occurrences of `seen` followed by the rows'
ranges. -/
theorem foldl_addCalendarException (rows : List Row) :
    ∀ (c : Calendar) (seen : List DateRange), c.exceptions = seen.eraseDups.map (⟨·, []⟩) →
      (rows.foldl addCalendarException c).exceptions =
        (seen ++ rows.filterMap exceptionRange?).eraseDups.map (⟨·, []⟩) := by
  induction rows with
  | nil =>
    intro c seen hc
    rw [List.foldl_nil, List.filterMap_nil, List.append_nil, hc]
  | cons e rows ih =>
    intro c seen hc
    rw [List.foldl_cons, addCalendarException_eq]
    cases hr : exceptionRange? e with
    | none =>
      rw [Option.elim_none, ih c seen hc, List.filterMap_cons_none hr]
    | some r =>
      -- the range is new exactly when it is not among the ranges seen
      have hranges : c.exceptions.map (·.range) = seen.eraseDups := by
        rw [hc, List.map_map]
        exact List.map_id' _
      have hstep : (c.addException r []).1.exceptions =
          (seen ++ [r]).eraseDups.map (⟨·, []⟩) := by
        rw [Calendar.addException_exceptions, hranges, eraseDups_append_singleton]
        by_cases hmem : r ∈ seen
        · rw [if_pos (List.mem_eraseDups.mpr hmem), if_pos hmem, hc]
        · rw [if_neg (mt List.mem_eraseDups.mp hmem), if_neg hmem, hc, List.map_append]
          rfl
      rw [Option.elim_some, ih _ (seen ++ [r]) hstep, List.filterMap_cons_some hr,
        List.append_assoc, List.singleton_append]

theorem assignPatterns_exceptions (ix : CalendarIndex) (dominant : Option Int32)
    (acc : Calendar × Bool) (a : Row) :
    (assignPatterns ix dominant acc a).1.exceptions = acc.1.exceptions := by
  obtain ⟨c, defaultSet⟩ := acc
  simp only [assignPatterns]
  split
  · rfl
  · split
    · rfl
    · split <;> rfl

theorem foldl_assignPatterns_exceptions (ix : CalendarIndex) (dominant : Option Int32)
    (l : List Row) : ∀ acc : Calendar × Bool,
      (l.foldl (assignPatterns ix dominant) acc).1.exceptions = acc.1.exceptions := by
  induction l with
  | nil => exact fun _ => rfl
  | cons a l ih =>
    intro acc
    rw [List.foldl_cons, ih, assignPatterns_exceptions]

/-- The calendar read from a row with an id carries the id, and its exceptions are the first
occurrences of the ranges its exception rows name, in order, non-working. -/
theorem processCalendar_exceptions (ix : CalendarIndex) (b : Builder) {row : Row} {id : Int32}
    (hid : row.integer? "ID" = some id) :
    ∃ c : Calendar, (processCalendar ix b row).project.calendars = b.project.calendars ++ [c] ∧
      c.uniqueId = id ∧
      c.exceptions =
        ((ix.exceptions.getD id.toInt []).filterMap exceptionRange?).eraseDups.map (⟨·, []⟩) := by
  unfold processCalendar
  rw [hid]
  dsimp only
  refine ⟨_, rfl, ?_, ?_⟩
  · rw [foldl_addCalendarException_uniqueId, foldl_assignPatterns_uniqueId]
    cases row.integer? "DOMINANT_WORK_PATTERN" with
    | none => rfl
    | some d =>
      dsimp only
      split <;> rfl
  · -- the work patterns leave the new calendar without exceptions
    refine foldl_addCalendarException _ _ [] ?_
    rw [foldl_assignPatterns_exceptions]
    cases row.integer? "DOMINANT_WORK_PATTERN" with
    | none => rfl
    | some d =>
      dsimp only
      split <;> rfl

end Builder

namespace CalendarTables

variable (t : CalendarTables)

/-- The exception assignment rows of a calendar, in the order given. -/
def exceptionsOf (id : Int32) : List Row :=
  t.exceptionAssignments.filter fun r => r.integer? "EXCEPTION_ASSIGNMENTID" == some id

/-- The index holds a calendar's exception assignment rows in the order given. -/
theorem index_exceptions (id : Int32) : t.index.exceptions.getD id.toInt [] = t.exceptionsOf id := by
  rw [Std.HashMap.getD_eq_getD_getElem?, index]
  dsimp only
  rw [groupRows, Std.HashMap.getElem?_map,
    getElem?_foldl_group (fun r => r.integer? "EXCEPTION_ASSIGNMENTID")]
  · simp only [Std.HashMap.getElem?_empty, Std.HashMap.getD_empty, List.append_nil]
    split <;> simp_all [exceptionsOf]
  · intro m r k hk
    simp only [hk]
  · intro m r hk
    simp only [hk]

/-- Reading a calendar row with an id appends one calendar with that id, whose exceptions are, in
order, one per exception assignment row of the calendar that has both stamps, over the range from
the day of its start to the day of its end (the day before when it ends at exactly midnight and
that day is in range), without hours, a range equal to an earlier one dropped. So no two
exceptions share a range, and none of them works. -/
theorem processCalendar_exceptions_eq_eraseDups (b : Builder) {row : Row} {id : Int32}
    (hid : row.integer? "ID" = some id) :
    ∃ c : Calendar,
      (Builder.processCalendar t.index b row).project.calendars = b.project.calendars ++ [c] ∧
      c.uniqueId = id ∧
      c.exceptions = ((t.exceptionsOf id).filterMap exceptionRange?).eraseDups.map (⟨·, []⟩) ∧
      (c.exceptions.map (·.range)).Nodup ∧ ∀ e ∈ c.exceptions, e.hours = [] := by
  obtain ⟨c, hcal, hid', hex⟩ := Builder.processCalendar_exceptions t.index b hid
  rw [index_exceptions] at hex
  refine ⟨c, hcal, hid', hex, ?_, ?_⟩
  · rw [hex, List.map_map]
    simpa [Function.comp_def] using nodup_eraseDups ((t.exceptionsOf id).filterMap exceptionRange?)
  · intro e he
    rw [hex] at he
    obtain ⟨r, -, rfl⟩ := List.mem_map.mp he
    rfl

/-- Calendar 1 with two exceptions from 2024-01-08: one ending at midnight on 2024-01-10, one
ending at noon on 2024-01-09, both over the same two days; and one without an end. -/
def twoExceptions : CalendarTables where
  exceptionAssignments :=
    [{ fields := [("END_DATE", .stamp ⟨⟨19732⟩, Clock.midnight⟩),
        ("EXCEPTION_ASSIGNMENTID", .integer 1), ("START_DATE", .stamp ⟨⟨19730⟩, Clock.midnight⟩)] },
     { fields := [("END_DATE", .stamp ⟨⟨19731⟩, Clock.ofHour 12⟩),
        ("EXCEPTION_ASSIGNMENTID", .integer 1), ("START_DATE", .stamp ⟨⟨19730⟩, Clock.midnight⟩)] },
     { fields := [("EXCEPTION_ASSIGNMENTID", .integer 1),
        ("START_DATE", .stamp ⟨⟨19740⟩, Clock.midnight⟩)] }]

/-- The calendar row with id 1. -/
def calendarOne : Row := { fields := [("ID", .integer 1)] }

theorem calendarOne_exceptions :
    calendarOne.integer? "ID" = some 1 ∧
    ∃ c : Calendar,
      (Builder.processCalendar twoExceptions.index {} calendarOne).project.calendars = [] ++ [c] ∧
      c.uniqueId = 1 ∧
      c.exceptions =
        ((twoExceptions.exceptionsOf 1).filterMap exceptionRange?).eraseDups.map (⟨·, []⟩) ∧
      (c.exceptions.map (·.range)).Nodup ∧ ∀ e ∈ c.exceptions, e.hours = [] :=
  have hid : calendarOne.integer? "ID" = some 1 := by decide
  ⟨hid, twoExceptions.processCalendar_exceptions_eq_eraseDups {} hid⟩

/-- The first row ends the day before its midnight, so the second names the same range. -/
example : ((twoExceptions.exceptionsOf 1).filterMap exceptionRange?).eraseDups =
    [⟨⟨19730⟩, ⟨19731⟩⟩] := by decide

end CalendarTables

end Schedule
