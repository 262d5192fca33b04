import Mathlib.Data.List.Induction
import Mathlib.Data.List.MinMax
import Schedule.Proofs.CalendarExceptions
import Schedule.Proofs.ResourceCalendars

/-!
# The project's default calendar

Once the tasks are read, the calendar that most tasks use becomes the project's default. Tasks are
counted by the value of their calendar reference, the tasks without one sharing the value "no
calendar", which competes like any other. Of equally used values the one whose first task comes
first wins: a later value has to be used strictly more often to replace the one found so far.

When a calendar wins, the tasks that use it drop their reference to it, and nothing else changes.
When no calendar wins (most tasks have none, or there are no tasks), the default is the first
calendar named `Standard`, or, when there is none, a new calendar of that name with the standard
week, numbered one above the greatest calendar id; that sum is taken in 32-bit words.

The counts are kept as a list of values in order of first use (`calendarUse_eq`), and the winner
is the first count that no other count passes (`foldl_winner_eq_find?`); both are carried back
to the tasks by `find?_eraseDups`, since the first task of a value comes before every later task
of it.

## Main definitions

* `Project.useCount` — how many tasks use a calendar value.
* `Project.mostUsedCalendar` — the calendar value of the first task whose value no other task's
  value passes in use.

## Main statements

* `Project.calendarUse_eq` — the counts, in order of first use.
* `Project.bind_foldl_winner` — the count the fold picks belongs to the most used value.
* `Project.deriveDefaultCalendar_most_used` — the default calendar is the most used one, else the
  standard calendar.
-/

namespace Schedule

section FirstOccurrences

variable {α : Type} [BEq α] [LawfulBEq α]

/-- Keeping first occurrences does not change whether every element passes a test. -/
theorem all_eraseDups (p : α → Bool) (l : List α) : l.eraseDups.all p = l.all p :=
  Bool.eq_iff_iff.mpr (by simp [List.all_eq_true])

/-- Keeping first occurrences does not change the first element that passes a test. -/
theorem find?_eraseDups (p : α → Bool) : ∀ l : List α, l.eraseDups.find? p = l.find? p
  | [] => rfl
  | a :: as => by
    rw [List.eraseDups_cons]
    by_cases ha : p a
    · rw [List.find?_cons_of_pos ha, List.find?_cons_of_pos ha]
    · -- the copies of `a` that are dropped fail the test as `a` does
      have hdrop : (as.filter fun b => !b == a).find? p = as.find? p := by
        rw [List.find?_filter]
        congr 1
        funext b
        by_cases hb : b = a
        · subst hb
          simp [ha]
        · simp [hb]
      rw [List.find?_cons_of_neg ha, List.find?_cons_of_neg ha, find?_eraseDups p _, hdrop]
termination_by l => l.length
decreasing_by
  exact Nat.lt_of_le_of_lt (List.length_filter_le _ _) (Nat.lt_succ_self _)

end FirstOccurrences

/-- The first element that passes a test passes every test that implies it, when it passes that
one too. -/
theorem find?_eq_of_imp {α : Type} {p q : α → Bool} {c : α} (hq : q c)
    (hqp : ∀ d, q d → p d) : ∀ {l : List α}, l.find? p = some c → l.find? q = some c
  | [], h => nomatch h
  | a :: l, h => by
    by_cases ha : p a
    · rw [List.find?_cons_of_pos ha] at h
      cases h
      exact List.find?_cons_of_pos hq
    · rw [List.find?_cons_of_neg ha] at h
      rw [List.find?_cons_of_neg fun hqa => ha (hqp a hqa)]
      exact find?_eq_of_imp hq hqp h

namespace Project

/-! ### Counting the tasks of each calendar -/

/-- How many of the tasks use a calendar value; the tasks without a calendar share `none`. -/
def useCount (ts : List Task) (v : Option Int32) : Nat := ts.countP (·.calendarId == v)

/-- The most used calendar value: that of the first task whose value is used by at least as many
tasks as the value of any task; none when there are no tasks. -/
def mostUsedCalendar (ts : List Task) : Option (Option Int32) :=
  (ts.find? fun t => ts.all fun u => useCount ts u.calendarId ≤ useCount ts t.calendarId).map
    (·.calendarId)

theorem useCount_append_singleton (ts : List Task) (t : Task) (v : Option Int32) :
    useCount (ts ++ [t]) v = useCount ts v + if t.calendarId = v then 1 else 0 := by
  by_cases h : t.calendarId = v <;> simp [useCount, h]

theorem useCount_eq_zero {ts : List Task} {v : Option Int32} (h : v ∉ ts.map (·.calendarId)) :
    useCount ts v = 0 := by
  refine List.countP_eq_zero.mpr fun t ht hv => h ?_
  exact List.mem_map.mpr ⟨t, ht, beq_iff_eq.mp hv⟩

/-- Some value is most used as soon as there is a task. -/
theorem mostUsedCalendar_eq_none_iff (ts : List Task) : mostUsedCalendar ts = none ↔ ts = [] := by
  constructor
  · intro h
    by_contra hne
    -- a task of greatest use is most used, so the search finds one
    obtain ⟨m, hm⟩ := Option.ne_none_iff_exists'.mp
      (mt (List.argmax_eq_none (f := fun t => useCount ts t.calendarId)).mp hne)
    have hfound : (ts.find? fun t =>
        ts.all fun u => useCount ts u.calendarId ≤ useCount ts t.calendarId).isSome := by
      refine List.find?_isSome.mpr ⟨m, List.argmax_mem hm, ?_⟩
      simp only [List.all_eq_true, decide_eq_true_eq]
      exact fun u hu => List.le_of_mem_argmax (f := fun t : Task => useCount ts t.calendarId) hu hm
    rw [mostUsedCalendar, Option.map_eq_none_iff] at h
    rw [h] at hfound
    exact Bool.false_ne_true hfound
  · rintro rfl
    rfl

/-- The values used by some tasks, in order of first use, with their counts. -/
def useEntries (ts : List Task) : List (Option Int32 × Nat) :=
  (ts.map (·.calendarId)).eraseDups.map fun v => (v, useCount ts v)

section Counting

variable {f : List (Option Int32 × Nat) → Task → List (Option Int32 × Nat)}
  (hf : ∀ counts t, f counts t =
    if counts.any (·.1 == t.calendarId) then
      counts.map fun e => if e.1 == t.calendarId then (e.1, e.2 + 1) else e
    else counts ++ [(t.calendarId, 1)])
include hf

/-- Counting one more task raises the count of its value, or adds its value with count one. -/
theorem useEntries_step (ts : List Task) (t : Task) :
    f (useEntries ts) t = useEntries (ts ++ [t]) := by
  have hany : (useEntries ts).any (·.1 == t.calendarId) = true ↔
      t.calendarId ∈ ts.map (·.calendarId) := by
    simp [useEntries]
  rw [hf]
  by_cases hmem : t.calendarId ∈ ts.map (·.calendarId)
  · -- a value met before: every count is that of the longer list
    rw [if_pos (hany.mpr hmem)]
    unfold useEntries
    rw [List.map_append, List.map_singleton, eraseDups_append_singleton, if_pos hmem,
      List.map_map]
    refine List.map_congr_left fun v _ => ?_
    by_cases hv : v = t.calendarId
    · subst hv
      simp [useCount_append_singleton]
    · simp [useCount_append_singleton, hv, Ne.symm hv]
  · -- a new value: the old counts stay, and the value comes last with one task
    rw [if_neg (mt hany.mp hmem)]
    unfold useEntries
    rw [List.map_append, List.map_singleton, eraseDups_append_singleton, if_neg hmem,
      List.map_append, List.map_singleton, useCount_append_singleton, useCount_eq_zero hmem,
      if_pos rfl]
    congr 1
    refine List.map_congr_left fun v hv => ?_
    have hne : t.calendarId ≠ v := fun h => hmem (h ▸ List.mem_eraseDups.mp hv)
    simp [useCount_append_singleton, hne]

theorem foldl_useEntries : ∀ (rest ts : List Task),
    rest.foldl f (useEntries ts) = useEntries (ts ++ rest)
  | [], ts => by rw [List.foldl_nil, List.append_nil]
  | t :: rest, ts => by
    rw [List.foldl_cons, useEntries_step hf, foldl_useEntries rest (ts ++ [t]),
      List.append_assoc, List.singleton_append]

end Counting

/-- The counts of the tasks' calendar values, in order of first use. -/
theorem calendarUse_eq (ts : List Task) : calendarUse ts = useEntries ts := by
  have hnil : useEntries [] = [] := rfl
  unfold calendarUse
  rw [← hnil]
  refine (foldl_useEntries ?_ ts []).trans ?_
  · intro counts t
    rfl
  · rw [List.nil_append]

/-! ### The winner -/

section Winner

variable {α : Type} {g : Option (α × Nat) → α × Nat → Option (α × Nat)}
  (hnone : ∀ c, g none c = some c)
  (hsome : ∀ c' c, g (some c') c = if c'.2 < c.2 then some c else some c')
include hnone hsome

/-- A fold that takes the first entry and then any entry of a strictly greater count finds an
entry once it has seen one. -/
theorem foldl_winner_ne_none {L : List (α × Nat)} (hL : L ≠ []) : L.foldl g none ≠ none := by
  obtain ⟨L', x, rfl⟩ := (List.eq_nil_or_concat L).resolve_left hL
  rw [List.concat_eq_append, List.foldl_append, List.foldl_cons, List.foldl_nil]
  cases L'.foldl g none with
  | none => simp [hnone]
  | some c' =>
    rw [hsome]
    split <;> simp

/-- The fold ends at the first entry whose count no entry passes. -/
theorem foldl_winner_eq_find? (L : List (α × Nat)) :
    L.foldl g none = L.find? fun c => L.all fun d => d.2 ≤ c.2 := by
  induction L using List.reverseRecOn with
  | nil => rfl
  | append_singleton L x ih =>
    rw [List.foldl_append, List.foldl_cons, List.foldl_nil, ih, List.find?_append]
    cases hL : L.find? (fun c => L.all fun d => d.2 ≤ c.2) with
    | none =>
      -- nothing is best among no entries, so the list before is empty
      have hnil : L = [] := by
        by_contra hne
        exact foldl_winner_ne_none hnone hsome hne (ih.trans hL)
      subst hnil
      simp [hnone]
    | some c =>
      have hbest : ∀ d ∈ L, d.2 ≤ c.2 := by
        simpa using List.find?_some hL
      rw [hsome]
      by_cases hlt : c.2 < x.2
      · -- the new entry passes every entry before it, which no longer counts as best
        have hbefore : L.find? (fun c => (L ++ [x]).all fun d => d.2 ≤ c.2) = none := by
          refine List.find?_eq_none.mpr fun d hd hall => ?_
          have hx : x.2 ≤ d.2 := by simpa using (List.all_eq_true.mp hall) x (by simp)
          have := hbest d hd
          omega
        have hx : ([x].find? fun c => (L ++ [x]).all fun d => d.2 ≤ c.2) = some x := by
          refine List.find?_cons_of_pos ?_
          simp only [List.all_append, List.all_cons, List.all_nil, Bool.and_true,
            Bool.and_eq_true, decide_eq_true_eq, Nat.le_refl, and_true, List.all_eq_true]
          exact fun d hd => Nat.le_of_lt (Nat.lt_of_le_of_lt (hbest d hd) hlt)
        rw [if_pos hlt, hbefore, hx, Option.none_or]
      · -- the best entry so far stays best, and comes before the new one
        have hstays : L.find? (fun c => (L ++ [x]).all fun d => d.2 ≤ c.2) = some c := by
          refine find?_eq_of_imp ?_ (fun d hd => ?_) hL
          · simp only [List.all_append, List.all_cons, List.all_nil, Bool.and_true,
              Bool.and_eq_true, decide_eq_true_eq, List.all_eq_true]
            exact ⟨hbest, Nat.le_of_not_lt hlt⟩
          · simp only [List.all_append, Bool.and_eq_true] at hd
            exact hd.1
        rw [if_neg hlt, hstays, Option.some_or]

end Winner

/-- The best count in order of first use is that of the first task whose value is most used. -/
theorem bind_foldl_winner {g : Option (Option Int32 × Nat) → Option Int32 × Nat →
      Option (Option Int32 × Nat)}
    (hnone : ∀ c, g none c = some c)
    (hsome : ∀ c' c, g (some c') c = if c'.2 < c.2 then some c else some c') (ts : List Task) :
    ((calendarUse ts).foldl g none).bind (·.1) = (mostUsedCalendar ts).join := by
  rw [foldl_winner_eq_find? hnone hsome, calendarUse_eq, useEntries, List.find?_map]
  -- an entry is best when its value is used at least as often as every task's value
  have hbest : ((fun c => ((ts.map (·.calendarId)).eraseDups.map fun v => (v, useCount ts v)).all
      fun d => d.2 ≤ c.2) ∘ fun v => (v, useCount ts v)) =
      fun v => ts.all fun u => useCount ts u.calendarId ≤ useCount ts v := by
    funext v
    simp [List.all_map, all_eraseDups, Function.comp_def]
  rw [hbest, find?_eraseDups, List.find?_map, mostUsedCalendar]
  have hvalue : ∀ r : Option Task,
      ((r.map (·.calendarId)).map fun v => (v, useCount ts v)).bind (·.1) =
        (r.map (·.calendarId)).join := fun r => by cases r <;> rfl
  exact hvalue _

/-! ### Choosing the default -/

/-- When a calendar is the most used value, it becomes the default and the tasks that use it drop
their reference to it. -/
theorem deriveDefaultCalendar_of_winner {p : Project} {c : Int32}
    (hc : (mostUsedCalendar p.tasks.toList).join = some c) :
    p.deriveDefaultCalendar =
      { p with
        tasks := p.tasks.map fun t => if t.calendarId = some c then { t with calendarId := none } else t
        properties := { p.properties with defaultCalendarId := some c } } := by
  simp only [deriveDefaultCalendar]
  rw [bind_foldl_winner ?_ ?_ p.tasks.toList, hc]
  · simp only [beq_iff_eq]
  · intro c'
    rfl
  · intro c' c''
    rfl

/-- When no calendar is the most used value and a calendar is named `Standard`, the first of
them becomes the default. -/
theorem deriveDefaultCalendar_of_standard {p : Project} {s : Calendar}
    (h : (mostUsedCalendar p.tasks.toList).join = none)
    (hs : p.calendarNamed? standardCalendarName = some s) :
    p.deriveDefaultCalendar =
      { p with properties := { p.properties with defaultCalendarId := some s.uniqueId } } := by
  simp only [deriveDefaultCalendar]
  rw [bind_foldl_winner ?_ ?_ p.tasks.toList, h, hs]
  · intro c'
    rfl
  · intro c' c''
    rfl

/-- When no calendar is the most used value and none is named `Standard`, a calendar of that name
with the standard week is added under the next calendar id and becomes the default. -/
theorem deriveDefaultCalendar_of_no_standard {p : Project}
    (h : (mostUsedCalendar p.tasks.toList).join = none)
    (hs : p.calendarNamed? standardCalendarName = none) :
    p.deriveDefaultCalendar =
      { p.addCalendar (Calendar.standard p.nextCalendarId standardCalendarName) with
        properties := { p.properties with defaultCalendarId := some p.nextCalendarId } } := by
  simp only [deriveDefaultCalendar]
  rw [bind_foldl_winner ?_ ?_ p.tasks.toList, h, hs]
  · rfl
  · intro c'
    rfl
  · intro c' c''
    rfl

/-- The default calendar is the most used calendar value among the tasks, the tasks without a
calendar counting as one value and ties going to the value whose first task comes first. When
that value is a calendar, it becomes the default, exactly the tasks that used it drop their
reference, and the calendars stay as they were. When it is "no calendar", or there are no tasks
(the only case without a most used value), the tasks stay as they were and the default is the
first calendar named `Standard`; when there is none, such a calendar with the standard week is
added under the next calendar id, which is one more than the greatest calendar id short of a
calendar carrying the greatest word. -/
theorem deriveDefaultCalendar_most_used (p : Project) :
    (mostUsedCalendar p.tasks.toList = none ↔ p.tasks.toList = []) ∧
    (∀ c : Int32, mostUsedCalendar p.tasks.toList = some (some c) →
      p.deriveDefaultCalendar.properties.defaultCalendarId = some c ∧
      p.deriveDefaultCalendar.calendars = p.calendars ∧
      p.deriveDefaultCalendar.tasks =
        p.tasks.map fun t => if t.calendarId = some c then { t with calendarId := none } else t) ∧
    (mostUsedCalendar p.tasks.toList = some none ∨ p.tasks.toList = [] →
      p.deriveDefaultCalendar.tasks = p.tasks ∧
      (∀ s, p.calendarNamed? standardCalendarName = some s →
        p.deriveDefaultCalendar.properties.defaultCalendarId = some s.uniqueId ∧
        p.deriveDefaultCalendar.calendars = p.calendars) ∧
      (p.calendarNamed? standardCalendarName = none →
        p.deriveDefaultCalendar.properties.defaultCalendarId = some p.nextCalendarId ∧
        p.deriveDefaultCalendar.calendars =
          p.calendars ++ [Calendar.standard p.nextCalendarId standardCalendarName] ∧
        ((∀ c ∈ p.calendars, c.uniqueId ≠ Int32.maxValue) →
          IsNextId p.calendars p.nextCalendarId))) := by
  refine ⟨mostUsedCalendar_eq_none_iff _, fun c hc => ?_, fun hw => ?_⟩
  · rw [deriveDefaultCalendar_of_winner (by rw [hc]; rfl)]
    exact ⟨rfl, rfl, rfl⟩
  · -- no calendar wins: the value "no calendar" wins, or nothing does
    have hnone : (mostUsedCalendar p.tasks.toList).join = none := by
      rcases hw with hw | hw
      · rw [hw]
        rfl
      · rw [(mostUsedCalendar_eq_none_iff _).mpr hw]
        rfl
    refine ⟨?_, fun s hs => ?_, fun hs => ?_⟩
    · cases hs : p.calendarNamed? standardCalendarName with
      | some s => rw [deriveDefaultCalendar_of_standard hnone hs]
      | none => rw [deriveDefaultCalendar_of_no_standard hnone hs]; rfl
    · rw [deriveDefaultCalendar_of_standard hnone hs]
      exact ⟨rfl, rfl⟩
    · rw [deriveDefaultCalendar_of_no_standard hnone hs]
      exact ⟨rfl, rfl, p.nextCalendarId_isNextId⟩

/-- Two tasks on calendar 1 and two without a calendar: the tie goes to calendar 1, whose first
task comes first. -/
example : mostUsedCalendar [{ calendarId := some 1 }, {}, { calendarId := some 1 }, {}] =
    some (some 1) := by decide

/-- A project without tasks whose one calendar carries the greatest word gets a `Standard`
calendar numbered with the least word, not one above the greatest id. -/
theorem standard_calendar_id_wraps :
    ({ calendars := [{ uniqueId := Int32.maxValue }] } : Project).deriveDefaultCalendar.calendars =
      [{ uniqueId := Int32.maxValue }, Calendar.standard Int32.minValue standardCalendarName] := by
  decide

end Project

end Schedule
