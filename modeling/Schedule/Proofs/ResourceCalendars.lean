import Mathlib.Data.List.GetD
import Schedule.Build.Resources
import Schedule.Build.Rollup

/-!
# A resource's calendar works as its base

A resource whose base calendar exists gets a calendar of its own: named after the resource,
inheriting from the base, and deciding no day itself. Its id is one more than the greatest
calendar id, so no calendar had it before, and the project's default calendar, when it has to be
created, is numbered the same way. The sum is taken in 32-bit words: when a calendar already
carries the greatest word, the sum wraps to the least one, which may be taken.

A fresh calendar that decides no day is invisible to working time: the chain of calendars walked
from it is the calendar followed by the chain of its base, up to the calendar itself turning up
again at the end, where it changes nothing. So the resource's calendar has the hours of its base
on every date, and working time and the stamp reached after some working hours are the same on
both.

## Main definitions

* `Calendar.Inherits` — a calendar that decides no day itself.
* `Project.unseen` — the calendars whose ids a walk of parents has not yet seen.
* `IsNextId` — an id one more than the greatest of some calendars, or 1 when there are none.

## Main statements

* `WorkingTime.rangesIn_cons_inherits`, `WorkingTime.rangesIn_append_inherits` — a calendar
  that inherits every day passes every date on.
* `Project.chainFrom_add_fuel` — the walk of parents needs no more fuel than there are unseen
  calendars.
* `Project.nextCalendarId_isNextId` — short of the greatest word, the next calendar id is one
  more than the greatest.
* `Project.ranges_addCalendar_inherits` — a fresh calendar inheriting every day from a base has
  the hours of its base.
* `Builder.addResource_calendar_inherits_base` — a resource's own calendar is fresh, inherits
  from its base and works as its base.
-/

namespace Schedule

/-- A calendar that decides no day itself: no exceptions, no dated weeks, and a default week
whose every day inherits. -/
def Calendar.Inherits (c : Calendar) : Prop :=
  c.exceptions = [] ∧ c.workWeeks = [] ∧ c.week = {}

/-! ### Working time read from the hours of each day -/

namespace WorkingTime

variable {c : Calendar}

/-- A calendar that inherits every day passes every date on to the rest of its chain. -/
theorem rangesIn_cons_inherits (hc : c.Inherits) (d : Date) (rest : List Calendar) :
    rangesIn d (c :: rest) = rangesIn d rest := by
  obtain ⟨hex, hww, hweek⟩ := hc
  have hnone : c.exception? d = none := by simp [Calendar.exception?, hex]
  have hday : (c.workWeek d).day d.weekday = {} := by
    rw [Calendar.workWeek, hww, List.find?_nil, Option.getD_none, hweek, WorkWeek.day,
      List.getD_eq_getElem?_getD]
    exact List.getElem?_getD_replicate_default_eq ({} : CalendarDay) 7 d.weekday
  rw [rangesIn, hnone]
  simp only [hday]

/-- ... and at the end of a chain it changes nothing. -/
theorem rangesIn_append_inherits (hc : c.Inherits) (d : Date) :
    ∀ cs : List Calendar, rangesIn d (cs ++ [c]) = rangesIn d cs
  | [] => rangesIn_cons_inherits hc d []
  | c' :: cs => by
    simp only [List.cons_append, rangesIn, rangesIn_append_inherits hc d cs]

section Congr

variable {w w' : WorkingTime}

theorem workDays_congr (h : ∀ d, w.ranges d = w'.ranges d) (start finish : Stamp) :
    ∀ n day acc, w.workDays start finish n day acc = w'.workDays start finish n day acc
  | 0, _, _ => rfl
  | n + 1, day, acc => by
    rw [workDays, workDays, h, workDays_congr h start finish n]

/-- Working time between two stamps reads nothing but the hours of each day. -/
theorem work_congr (h : ∀ d, w.ranges d = w'.ranges d) (start finish : Stamp) :
    w.work start finish = w'.work start finish := by
  simp only [work, workDays_congr h]

theorem walk_congr (h : ∀ d, w.ranges d = w'.ranges d) :
    ∀ fuel d lo remaining idle, w.walk fuel d lo remaining idle = w'.walk fuel d lo remaining idle
  | 0, _, _, _, _ => rfl
  | fuel + 1, d, lo, remaining, idle => by
    rw [walk, walk, h d]
    simp only [walk_congr h fuel]

/-- The stamp reached after some working hours reads nothing but the hours of each day. -/
theorem dateAfter_congr (h : ∀ d, w.ranges d = w'.ranges d) (start : Stamp) (hours : Float) :
    w.dateAfter start hours = w'.dateAfter start hours := by
  simp only [dateAfter, walk_congr h]

end Congr

end WorkingTime

/-! ### The walk of parents -/

namespace Project

/-- The calendars whose ids a walk of parents has not yet seen. -/
def unseen (p : Project) (seen : List Int32) : Nat :=
  p.calendars.countP fun c => !seen.contains c.uniqueId

theorem mem_of_calendar? {p : Project} {id : Int32} {c : Calendar} (h : p.calendar? id = some c) :
    c ∈ p.calendars ∧ c.uniqueId = id :=
  have h' : p.calendars.find? (·.uniqueId == id) = some c := h
  have hid := List.find?_some h'
  ⟨List.mem_of_find?_eq_some h', beq_iff_eq.mp hid⟩

/-- Each calendar the walk visits is one fewer unseen. -/
theorem unseen_cons_lt {p : Project} {seen : List Int32} {id : Int32} {c : Calendar}
    (hc : p.calendar? id = some c) (hid : seen.contains id = false) :
    p.unseen (id :: seen) < p.unseen seen := by
  obtain ⟨hmem, rfl⟩ := mem_of_calendar? hc
  -- the calendars unseen after the visit are those unseen before, less the one visited
  have hsub : p.calendars.filter (fun c' => !(c.uniqueId :: seen).contains c'.uniqueId) =
      (p.calendars.filter fun c' => !seen.contains c'.uniqueId).filter
        fun c' => !(c'.uniqueId == c.uniqueId) := by
    rw [List.filter_filter]
    congr 1
    funext c'
    simp only [List.contains_cons, Bool.not_or]
  simp only [unseen, List.countP_eq_length_filter, hsub]
  refine List.length_filter_lt_length_iff_exists.mpr ⟨c, ?_, by simp⟩
  exact List.mem_filter.mpr ⟨hmem, by rw [hid]; rfl⟩

/-- The walk of parents needs no more fuel than there are unseen calendars: each step visits
one of them, never to visit it again. -/
theorem chainFrom_add_fuel (p : Project) :
    ∀ (fuel e : Nat) (seen : List Int32) (id : Option Int32), p.unseen seen ≤ fuel →
      p.chainFrom (fuel + e) seen id = p.chainFrom fuel seen id := by
  intro fuel
  induction fuel with
  | zero =>
    -- no calendar is unseen, so the walk stops at once
    intro e seen id hfuel
    cases e with
    | zero => rfl
    | succ e =>
      cases id with
      | none => rfl
      | some y =>
        simp only [chainFrom]
        split
        · rfl
        · rename_i hy
          cases hc : p.calendar? y with
          | none => rfl
          | some c =>
            have := unseen_cons_lt hc (Bool.eq_false_iff.mpr hy)
            omega
  | succ fuel ih =>
    intro e seen id hfuel
    cases id with
    | none =>
      rw [show fuel + 1 + e = (fuel + e) + 1 by omega]
      rfl
    | some y =>
      rw [show fuel + 1 + e = (fuel + e) + 1 by omega, chainFrom, chainFrom]
      split
      · rfl
      · rename_i hy
        cases hc : p.calendar? y with
        | none => rfl
        | some c =>
          have := unseen_cons_lt hc (Bool.eq_false_iff.mpr hy)
          simp only
          rw [ih e (y :: seen) c.parentId (by omega)]

/-- The calendar under an id, once a calendar with another id is added at the end. -/
theorem calendar?_addCalendar_of_some {p : Project} {id : Int32} {c c' : Calendar}
    (h : p.calendar? id = some c') : (p.addCalendar c).calendar? id = some c' := by
  simp only [calendar?, addCalendar, List.find?_append] at h ⊢
  rw [h]
  rfl

/-- A calendar added with an id no calendar has is the calendar under that id. -/
theorem calendar?_addCalendar_fresh {p : Project} {c : Calendar}
    (hfresh : ∀ c' ∈ p.calendars, c'.uniqueId ≠ c.uniqueId) :
    (p.addCalendar c).calendar? c.uniqueId = some c := by
  have hnone : p.calendar? c.uniqueId = none :=
    List.find?_eq_none.mpr fun c' hc' h => hfresh c' hc' (beq_iff_eq.mp h)
  simp only [calendar?, addCalendar, List.find?_append] at hnone ⊢
  rw [hnone]
  simp

section Fresh

variable {p : Project} {r b : Calendar} {base : Int32}

/-- In a walk that has seen the base, seeing also a fresh calendar whose parent is the base
changes the chain at most by that calendar at its end: reached from elsewhere, it leads straight
back to the base, which was seen. -/
theorem chainFrom_seen_fresh (hr : p.calendar? r.uniqueId = some r)
    (hparent : r.parentId = some base) :
    ∀ (fuel : Nat) (seen seen' : List Int32) (id : Option Int32),
      (∀ y, y ∈ seen' ↔ y = r.uniqueId ∨ y ∈ seen) → base ∈ seen →
      p.chainFrom fuel seen id = p.chainFrom fuel seen' id ∨
        p.chainFrom fuel seen id = p.chainFrom fuel seen' id ++ [r] := by
  intro fuel
  induction fuel with
  | zero => intro _ _ _ _ _; exact .inl rfl
  | succ fuel ih =>
    intro seen seen' id hseen hbase
    cases id with
    | none => exact .inl rfl
    | some y =>
      by_cases hy : y ∈ seen
      · -- seen by both walks
        have hy' : y ∈ seen' := (hseen y).mpr (.inr hy)
        left
        simp [chainFrom, hy, hy']
      · by_cases hyr : y = r.uniqueId
        · -- the fresh calendar: only the first walk takes it, and stops at the base after it
          subst hyr
          have hy' : r.uniqueId ∈ seen' := (hseen _).mpr (.inl rfl)
          right
          have hstop : p.chainFrom fuel (r.uniqueId :: seen) (some base) = [] := by
            cases fuel with
            | zero => rfl
            | succ fuel => simp [chainFrom, List.mem_cons_of_mem _ hbase]
          simp [chainFrom, hy, hy', hr, hparent, hstop]
        · -- any other calendar: both walks take it and go on to its parent
          have hy' : y ∉ seen' := fun h => ((hseen y).mp h).elim hyr hy
          have hnext : ∀ y', y' ∈ y :: seen' ↔ y' = r.uniqueId ∨ y' ∈ y :: seen := by
            intro y'
            simp only [List.mem_cons, hseen y']
            exact or_left_comm
          cases hc : p.calendar? y with
          | none =>
            left
            simp [chainFrom, hy, hy', hc]
          | some c =>
            rcases ih (y :: seen) (y :: seen') c.parentId hnext (List.mem_cons_of_mem _ hbase)
              with h | h
            · left
              simp [chainFrom, hy, hy', hc, h]
            · right
              simp [chainFrom, hy, hy', hc, h]

/-- A fresh calendar that inherits every day from a base the project has, once added, has the
hours of its base on every date. -/
theorem ranges_addCalendar_inherits (hb : p.calendar? base = some b) (hr : r.Inherits)
    (hparent : r.parentId = some base) (hfresh : ∀ c ∈ p.calendars, c.uniqueId ≠ r.uniqueId)
    (d : Date) :
    (WorkingTime.ofProject (p.addCalendar r) (some r.uniqueId)).ranges d =
      (WorkingTime.ofProject (p.addCalendar r) (some base)).ranges d := by
  obtain ⟨hbmem, rfl⟩ := mem_of_calendar? hb
  have hne : b.uniqueId ≠ r.uniqueId := hfresh b hbmem
  have hr' := calendar?_addCalendar_fresh (c := r) hfresh
  have hb' := calendar?_addCalendar_of_some (c := r) hb
  have hlen : (p.addCalendar r).calendars.length = p.calendars.length + 1 := by
    simp [addCalendar]
  -- the walk from the new calendar takes it, then its base, having seen both
  have hfrom_r : (p.addCalendar r).calendarChain (some r.uniqueId) = r :: b ::
      (p.addCalendar r).chainFrom p.calendars.length [b.uniqueId, r.uniqueId] b.parentId := by
    simp [calendarChain, hlen, chainFrom, hr', hparent, hb', hne]
  -- the walk from the base takes it, having seen it alone
  have hfrom_b : (p.addCalendar r).calendarChain (some b.uniqueId) = b ::
      (p.addCalendar r).chainFrom (p.calendars.length + 1) [b.uniqueId] b.parentId := by
    simp [calendarChain, hlen, chainFrom, hb']
  -- the base's walk has the fuel it needs already one step earlier
  have hunseen : (p.addCalendar r).unseen [b.uniqueId, r.uniqueId] ≤ p.calendars.length := by
    -- the new calendar is seen, and at most every old one is not
    simp only [unseen, addCalendar, List.countP_append, List.countP_singleton,
      List.contains_cons, beq_self_eq_true, Bool.true_or, Bool.or_true, Bool.not_true,
      Bool.false_eq_true, if_false, Nat.add_zero]
    exact List.countP_le_length
  have hfuel := (p.addCalendar r).chainFrom_add_fuel p.calendars.length 1
    [b.uniqueId, r.uniqueId] b.parentId hunseen
  have hseen := chainFrom_seen_fresh hr' hparent (p.calendars.length + 1) [b.uniqueId]
    [b.uniqueId, r.uniqueId] b.parentId (fun y => by simp [or_comm]) (List.mem_singleton_self _)
  show WorkingTime.rangesIn d ((p.addCalendar r).calendarChain _) =
    WorkingTime.rangesIn d ((p.addCalendar r).calendarChain _)
  rw [hfrom_r, hfrom_b, WorkingTime.rangesIn_cons_inherits hr, ← hfuel]
  rcases hseen with h | h
  · rw [h]
  · rw [h, ← List.cons_append, WorkingTime.rangesIn_append_inherits hr]

end Fresh

/-- The chain of a calendar reads nothing of a project but its calendars. -/
theorem chainFrom_of_calendars_eq {p q : Project} (h : p.calendars = q.calendars) :
    ∀ (fuel : Nat) (seen : List Int32) (id : Option Int32),
      p.chainFrom fuel seen id = q.chainFrom fuel seen id
  | 0, _, _ => rfl
  | _ + 1, _, none => rfl
  | fuel + 1, seen, some y => by
    have hc : p.calendar? y = q.calendar? y := by simp only [calendar?, h]
    simp only [chainFrom, hc, chainFrom_of_calendars_eq h fuel]

theorem ofProject_of_calendars_eq {p q : Project} (h : p.calendars = q.calendars)
    (id : Option Int32) : WorkingTime.ofProject p id = WorkingTime.ofProject q id := by
  simp only [WorkingTime.ofProject, calendarChain, h, chainFrom_of_calendars_eq h]

end Project

/-! ### The next calendar id -/

/-- `n` is one more than the greatest id of the calendars, or 1 when there are none. -/
def IsNextId (cs : List Calendar) (n : Int32) : Prop :=
  (∀ c ∈ cs, c.uniqueId.toInt < n.toInt) ∧ (cs = [] → n.toInt = 1) ∧
    (cs ≠ [] → ∃ c ∈ cs, n.toInt = c.uniqueId.toInt + 1)

/-- An id above every calendar's is no calendar's. -/
theorem IsNextId.fresh {cs : List Calendar} {n : Int32} (h : IsNextId cs n) :
    ∀ c ∈ cs, c.uniqueId ≠ n := by
  intro c hc heq
  have := h.1 c hc
  rw [heq] at this
  exact Int.lt_irrefl _ this

/-- One more than a word short of the greatest is that number. -/
theorem toInt_toInt32_add_one {v : Int} (hlo : -2147483648 ≤ v) (hhi : v < 2147483647) :
    (v.toInt32 + 1).toInt = v + 1 := by
  have hv : v.bmod 4294967296 = v := Int.bmod_eq_of_le (by omega) (by omega)
  simp only [Int32.toInt_add, Int.toInt32, Int32.toInt_ofInt, Int32.size, hv,
    show Int32.toInt 1 = 1 by decide]
  exact Int.bmod_eq_of_le (by omega) (by omega)

namespace Project

section Greatest

variable {f : Option Int → Calendar → Option Int}

/-- Once the fold that finds the greatest id has a value, it keeps one. -/
theorem foldl_greatest_isSome
    (hf : ∀ m c, f m c = some (m.elim c.uniqueId.toInt fun v => max v c.uniqueId.toInt)) :
    ∀ (cs : List Calendar) (a : Int), (cs.foldl f (some a)).isSome
  | [], _ => rfl
  | c :: cs, a => by
    rw [List.foldl_cons, hf]
    exact foldl_greatest_isSome hf cs _

/-- The fold that finds the greatest id ends no lower than where it started and than every id it
passes, and at its start or at one of the ids. -/
theorem foldl_greatest
    (hf : ∀ m c, f m c = some (m.elim c.uniqueId.toInt fun v => max v c.uniqueId.toInt)) :
    ∀ (cs : List Calendar) (acc : Option Int) (v : Int), cs.foldl f acc = some v →
      (∀ a, acc = some a → a ≤ v) ∧ (∀ c ∈ cs, c.uniqueId.toInt ≤ v) ∧
        (acc = some v ∨ ∃ c ∈ cs, v = c.uniqueId.toInt)
  | [], acc, v, h => by
    rw [List.foldl_nil] at h
    subst h
    exact ⟨fun a ha => Int.le_of_eq (Option.some.inj ha).symm, nofun, .inl rfl⟩
  | c :: cs, acc, v, h => by
    rw [List.foldl_cons, hf] at h
    obtain ⟨hle, hall, hwhich⟩ := foldl_greatest hf cs _ v h
    -- the value after the first id is the larger of the start and that id
    have hm := hle _ rfl
    refine ⟨fun a ha => ?_, fun c' hc' => ?_, ?_⟩
    · subst ha
      exact Int.le_trans (Int.le_max_left a _) hm
    · rcases List.mem_cons.mp hc' with rfl | hc'
      · cases acc with
        | none => exact hm
        | some a => exact Int.le_trans (Int.le_max_right a _) hm
      · exact hall c' hc'
    · rcases hwhich with hv | ⟨c', hc', hv⟩
      · cases acc with
        | none => exact .inr ⟨c, List.mem_cons_self, (Option.some.inj hv).symm⟩
        | some a =>
          have hmax : max a c.uniqueId.toInt = v := Option.some.inj hv
          rcases Int.le_total a c.uniqueId.toInt with hac | hac
          · rw [Int.max_eq_right hac] at hmax
            exact .inr ⟨c, List.mem_cons_self, hmax.symm⟩
          · rw [Int.max_eq_left hac] at hmax
            exact .inl (by rw [hmax])
      · exact .inr ⟨c', List.mem_cons_of_mem c hc', hv⟩

end Greatest

/-- The next calendar id is one more than the greatest word of a fold over the calendars. -/
theorem nextCalendarId_eq (p : Project) :
    ∃ f : Option Int → Calendar → Option Int,
      (∀ m c, f m c = some (m.elim c.uniqueId.toInt fun v => max v c.uniqueId.toInt)) ∧
        p.nextCalendarId = ((p.calendars.foldl f none).getD 0).toInt32 + 1 :=
  ⟨_, fun m _ => by cases m <;> rfl, rfl⟩

/-- Short of a calendar carrying the greatest word, the next calendar id is one more than the
greatest calendar id, or 1 when there are none. -/
theorem nextCalendarId_isNextId (p : Project)
    (hmax : ∀ c ∈ p.calendars, c.uniqueId ≠ Int32.maxValue) :
    IsNextId p.calendars p.nextCalendarId := by
  obtain ⟨f, hf, heq⟩ := p.nextCalendarId_eq
  rw [heq]
  cases hcs : p.calendars with
  | nil =>
    have hone : ((0 : Int).toInt32 + 1).toInt = 1 := by decide
    exact ⟨nofun, fun _ => hone, fun h => absurd rfl h⟩
  | cons c cs =>
    obtain ⟨v, hv⟩ := Option.isSome_iff_exists.mp
      (foldl_greatest_isSome hf cs c.uniqueId.toInt)
    have hv' : (c :: cs).foldl f none = some v := by rw [List.foldl_cons, hf]; exact hv
    obtain ⟨-, hall, hwhich⟩ := foldl_greatest hf (c :: cs) none v hv'
    obtain ⟨c', hc', rfl⟩ := hwhich.resolve_left nofun
    -- the greatest id is some calendar's, which is not the greatest word
    have hne : c'.uniqueId.toInt ≠ 2147483647 := fun h =>
      hmax c' (hcs ▸ hc') (Int32.toInt_inj.mp (h.trans (by decide)))
    have hlo := Int32.le_toInt c'.uniqueId
    have hhi := Int32.toInt_lt c'.uniqueId
    have hnext := toInt_toInt32_add_one (v := c'.uniqueId.toInt) (by omega) (by omega)
    rw [hv', Option.getD_some]
    refine ⟨fun c'' hc'' => ?_, nofun, fun _ => ⟨c', hc', hnext⟩⟩
    have := hall c'' hc''
    omega

/-- Choosing the default calendar adds no calendar, or adds the standard calendar under the next
calendar id. -/
theorem deriveDefaultCalendar_calendars (p : Project) :
    p.deriveDefaultCalendar.calendars = p.calendars ∨
      p.deriveDefaultCalendar.calendars =
        p.calendars ++ [Calendar.standard p.nextCalendarId standardCalendarName] := by
  simp only [deriveDefaultCalendar]
  split
  · exact .inl rfl
  · split
    · exact .inl rfl
    · exact .inr rfl

end Project

/-! ### A resource's calendar -/

namespace Builder

/-- A resource whose base calendar exists gets a calendar under the next id, named after it and
inheriting from the base. -/
theorem resourceCalendar_of_calendar? {b : Builder} {base : Int32} {c : Calendar}
    (hc : b.project.calendar? base = some c) (name : Option String) :
    b.resourceCalendar (some base) name =
      ({ b with
          project := b.project.addCalendar
            { uniqueId := b.project.nextCalendarId, name, parentId := some base } },
        some b.project.nextCalendarId) := by
  have hbase := (Project.mem_of_calendar? hc).2
  simp only [resourceCalendar, Option.bind_some, hc, hbase]

/-- A resource row with an id whose base calendar exists adds a calendar for the resource, fresh
short of the greatest word, inheriting every day from the base, and a resource that uses it; the
resource's calendar then has the hours of its base on every date, the same working time between
any two stamps, and reaches the same stamp after any working hours. The standard calendar that
choosing the default calendar may add is fresh in the same way. -/
theorem addResource_calendar_inherits_base {b : Builder} {row : Row} (material : Bool)
    {id base : Int32} {c : Calendar} (hid : row.integer? "ID" = some id)
    (hbase : row.integer? "CALENDAR" = some base) (hc : b.project.calendar? base = some c)
    (hmax : ∀ c ∈ b.project.calendars, c.uniqueId ≠ Int32.maxValue) :
    (∃ r : Calendar, (b.addResource row material).project.calendars = b.project.calendars ++ [r] ∧
      IsNextId b.project.calendars r.uniqueId ∧ r.parentId = some base ∧ r.Inherits ∧
      r.name = row.string? "NAME" ∧
      (∃ res, (b.addResource row material).project.resources = b.project.resources ++ [res] ∧
        res.uniqueId = id ∧ res.calendarId = some r.uniqueId) ∧
      (∀ d, (WorkingTime.ofProject (b.addResource row material).project (some r.uniqueId)).ranges d =
        (WorkingTime.ofProject (b.addResource row material).project (some base)).ranges d) ∧
      (∀ s f, (WorkingTime.ofProject (b.addResource row material).project (some r.uniqueId)).work s f =
        (WorkingTime.ofProject (b.addResource row material).project (some base)).work s f) ∧
      ∀ s hours,
        (WorkingTime.ofProject (b.addResource row material).project (some r.uniqueId)).dateAfter s
          hours =
        (WorkingTime.ofProject (b.addResource row material).project (some base)).dateAfter s hours) ∧
    (∀ p : Project, (∀ c ∈ p.calendars, c.uniqueId ≠ Int32.maxValue) →
      p.deriveDefaultCalendar.calendars = p.calendars ∨
        ∃ s : Calendar, p.deriveDefaultCalendar.calendars = p.calendars ++ [s] ∧
          s.name = some standardCalendarName ∧ IsNextId p.calendars s.uniqueId) := by
  have hres := resourceCalendar_of_calendar? hc (row.string? "NAME")
  generalize hr_def :
    ({ uniqueId := b.project.nextCalendarId, name := row.string? "NAME", parentId := some base } :
      Calendar) = r at hres
  have hnext : IsNextId b.project.calendars r.uniqueId := by
    rw [← hr_def]
    exact b.project.nextCalendarId_isNextId hmax
  have hr : r.Inherits := by rw [← hr_def]; exact ⟨rfl, rfl, rfl⟩
  -- reading the row adds the calendar, then the resource
  have hcal : (b.addResource row material).project.calendars = b.project.calendars ++ [r] := by
    simp only [addResource, hid, hbase, hres]
    rfl
  have hresources : ∃ res, (b.addResource row material).project.resources =
      b.project.resources ++ [res] ∧ res.uniqueId = id ∧ res.calendarId = some r.uniqueId := by
    simp only [addResource, hid, hbase, hres]
    refine ⟨_, rfl, ?_, by rw [← hr_def]⟩
    cases material <;> rfl
  have hchain := Project.ofProject_of_calendars_eq (p := (b.addResource row material).project)
    (q := b.project.addCalendar r) hcal
  have hparent : r.parentId = some base := by rw [← hr_def]
  -- the resource's calendar has the hours of its base on every date
  have hranges : ∀ d,
      (WorkingTime.ofProject (b.addResource row material).project (some r.uniqueId)).ranges d =
        (WorkingTime.ofProject (b.addResource row material).project (some base)).ranges d := by
    intro d
    rw [hchain, hchain]
    exact Project.ranges_addCalendar_inherits hc hr hparent hnext.fresh d
  refine ⟨⟨r, hcal, hnext, hparent, hr, by rw [← hr_def], hresources, hranges,
    WorkingTime.work_congr hranges, WorkingTime.dateAfter_congr hranges⟩, fun p hmax' => ?_⟩
  rcases p.deriveDefaultCalendar_calendars with h | h
  · exact .inl h
  · exact .inr ⟨_, h, rfl, p.nextCalendarId_isNextId hmax'⟩

/-- A builder holding one calendar, with id 1. -/
def oneCalendar : Builder := { project := { calendars := [{ uniqueId := 1 }] } }

/-- A resource row with id 5 on calendar 1. -/
def resourceOnOne : Row := { fields := [("CALENDAR", .integer 1), ("ID", .integer 5)] }

/-- Resource 5 on calendar 1 gets calendar 2, which works as calendar 1. -/
theorem resource_on_one_gets_calendar_two :
    resourceOnOne.integer? "ID" = some 5 ∧ resourceOnOne.integer? "CALENDAR" = some 1 ∧
    oneCalendar.project.calendar? 1 = some { uniqueId := 1 } ∧
    (∀ c ∈ oneCalendar.project.calendars, c.uniqueId ≠ Int32.maxValue) ∧
    (∃ r : Calendar, (oneCalendar.addResource resourceOnOne false).project.calendars =
        oneCalendar.project.calendars ++ [r] ∧
      IsNextId oneCalendar.project.calendars r.uniqueId ∧ r.parentId = some 1 ∧ r.Inherits ∧
      r.name = resourceOnOne.string? "NAME" ∧
      (∃ res, (oneCalendar.addResource resourceOnOne false).project.resources =
          oneCalendar.project.resources ++ [res] ∧
        res.uniqueId = 5 ∧ res.calendarId = some r.uniqueId) ∧
      (∀ d, (WorkingTime.ofProject (oneCalendar.addResource resourceOnOne false).project
          (some r.uniqueId)).ranges d =
        (WorkingTime.ofProject (oneCalendar.addResource resourceOnOne false).project
          (some 1)).ranges d) ∧
      (∀ s f, (WorkingTime.ofProject (oneCalendar.addResource resourceOnOne false).project
          (some r.uniqueId)).work s f =
        (WorkingTime.ofProject (oneCalendar.addResource resourceOnOne false).project
          (some 1)).work s f) ∧
      ∀ s hours, (WorkingTime.ofProject (oneCalendar.addResource resourceOnOne false).project
          (some r.uniqueId)).dateAfter s hours =
        (WorkingTime.ofProject (oneCalendar.addResource resourceOnOne false).project
          (some 1)).dateAfter s hours) ∧
    (∀ p : Project, (∀ c ∈ p.calendars, c.uniqueId ≠ Int32.maxValue) →
      p.deriveDefaultCalendar.calendars = p.calendars ∨
        ∃ s : Calendar, p.deriveDefaultCalendar.calendars = p.calendars ++ [s] ∧
          s.name = some standardCalendarName ∧ IsNextId p.calendars s.uniqueId) :=
  have hid : resourceOnOne.integer? "ID" = some 5 := by decide
  have hbase : resourceOnOne.integer? "CALENDAR" = some 1 := by decide
  have hc : oneCalendar.project.calendar? 1 = some { uniqueId := 1 } := by decide
  have hmax : ∀ c ∈ oneCalendar.project.calendars, c.uniqueId ≠ Int32.maxValue := by decide
  ⟨hid, hbase, hc, hmax, addResource_calendar_inherits_base false hid hbase hc hmax⟩

example : (oneCalendar.addResource resourceOnOne false).project.calendars.map (·.uniqueId) =
    [1, 2] := by decide

end Builder

end Schedule
