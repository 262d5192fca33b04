import Schedule.Calendar.Working

/-!
# The earliest finish of working time

`dateAfter` walks forward from a stamp spending a budget of working seconds, span by span and day
by day, while `work` counts the working seconds between two stamps day by day. When every day
lists its working hours in time order the two agree: the walk stops at the earliest stamp by
which exactly the budget of working time has passed. A day that lists a later span first makes
the walk spend that span first and stop late.

The proof measures working time from midnight of a fixed day: `reach` counts the working seconds
up to a second some days later. One day of the walk spends the seconds between its start and
its stop, or the whole rest of the day; `work` between two stamps is the difference of their
`reach`.

## Main definitions

* `InTimeOrder` — the working hours of a day, each span ending by midnight and before the next.
* `WorkingTime.reach` — the working seconds from midnight of a day to a second some days later.
* `WorkingTime.workSeconds` — the working seconds that `work` counts between two stamps.

## Main statements

* `WorkingTime.consumeDay_found`, `WorkingTime.consumeDay_spent` — one day of the walk.
* `WorkingTime.walk_reaches` — a whole walk.
* `WorkingTime.workSeconds_eq_reach` — `work` as a difference of `reach`.
* `WorkingTime.dateAfter_finishes_earliest` — with days in time order, `dateAfter` gives the
  earliest stamp by which the hours of work have passed.
* `WorkingTime.afternoon_first_finishes_late` — a day listing its afternoon first overshoots.
-/

namespace Schedule

/-- The working hours of a day in time order: each span ends by midnight and before the next
span starts. -/
def InTimeOrder (rs : List TimeRange) : Prop :=
  rs.Pairwise (fun r r' => r.finishSeconds ≤ r'.startSeconds) ∧ ∀ r ∈ rs, r.finishSeconds ≤ 86400

instance (rs : List TimeRange) : Decidable (InTimeOrder rs) :=
  inferInstanceAs (Decidable (_ ∧ _))

namespace Stamp

/-- Stamps are ordered by day, then second, then nanosecond. -/
theorem le_iff {a b : Stamp} : a ≤ b ↔ a.date.day < b.date.day ∨ a.date.day = b.date.day ∧
    (a.clock.seconds < b.clock.seconds ∨
      a.clock.seconds = b.clock.seconds ∧ a.clock.nanos ≤ b.clock.nanos) := by
  show ((compare a.date.day b.date.day).then (compare a.clock.seconds b.clock.seconds)).then
    (compare a.clock.nanos b.clock.nanos) ≠ .gt ↔ _
  rw [Ne, Ordering.then_eq_gt, Ordering.then_eq_gt, Ordering.then_eq_eq, Int.compare_eq_gt,
    Int.compare_eq_eq, Nat.compare_eq_gt, Nat.compare_eq_eq, Nat.compare_eq_gt]
  omega

theorem lt_iff {a b : Stamp} : a < b ↔ a.date.day < b.date.day ∨ a.date.day = b.date.day ∧
    (a.clock.seconds < b.clock.seconds ∨
      a.clock.seconds = b.clock.seconds ∧ a.clock.nanos < b.clock.nanos) := by
  show ((compare a.date.day b.date.day).then (compare a.clock.seconds b.clock.seconds)).then
    (compare a.clock.nanos b.clock.nanos) = .lt ↔ _
  rw [Ordering.then_eq_lt, Ordering.then_eq_lt, Ordering.then_eq_eq, Int.compare_eq_lt,
    Int.compare_eq_eq, Nat.compare_eq_lt, Nat.compare_eq_eq, Nat.compare_eq_lt]
  omega

/-- Whole seconds after midnight land on a whole second of the day they reach. -/
theorem addSeconds?_atMidnight {d : Date} {x : Int} {f : Stamp}
    (h : (atMidnight d).addSeconds? x = some f) :
    f.clock.nanos = 0 ∧ f.date.day * 86400 + f.clock.seconds = d.day * 86400 + x := by
  obtain ⟨hd, hs, hn⟩ :=
    (addSeconds?_eq_some_iff (t := atMidnight d) (show 0 < 1000000000 by decide)).mp h
  have hday := Date.day_of_ofDay? hd
  simp only [atMidnight, Clock.midnight, Clock.ofSeconds_seconds, Clock.ofSeconds_nanos,
    Int.natCast_zero, Int.add_zero] at hday hs hn
  exact ⟨hn, by omega⟩

end Stamp

theorem Date.day_of_next? {d d' : Date} (h : d.next? = some d') : d'.day = d.day + 1 := by
  unfold Date.next? Date.addDays? at h
  exact Date.day_of_ofDay? h

namespace WorkingTime

/-! ### Working seconds of a day -/

/-- The seconds of one span between two seconds of its day. -/
def spanOverlap (r : TimeRange) (lo hi : Int) : Int :=
  max (min r.finishSeconds hi - max r.startSeconds lo) 0

theorem foldl_overlap (rs : List TimeRange) (lo hi : Int) :
    ∀ acc, rs.foldl (fun acc r =>
        let o := min r.finishSeconds hi - max r.startSeconds lo
        if 0 < o then acc + o else acc) acc = acc + overlapSeconds rs lo hi := by
  induction rs with
  | nil => intro acc; simp [overlapSeconds]
  | cons r rs ih =>
    intro acc
    simp only [overlapSeconds, List.foldl_cons] at ih ⊢
    rw [ih, ih (if 0 < _ then 0 + _ else 0)]
    split <;> omega

@[simp] theorem overlapSeconds_nil (lo hi : Int) : overlapSeconds [] lo hi = 0 := rfl

theorem overlapSeconds_cons (r : TimeRange) (rs : List TimeRange) (lo hi : Int) :
    overlapSeconds (r :: rs) lo hi = spanOverlap r lo hi + overlapSeconds rs lo hi := by
  have h := foldl_overlap rs lo hi
  simp only [overlapSeconds, List.foldl_cons] at h ⊢
  rw [h, spanOverlap]
  split <;> omega

theorem overlapSeconds_nonneg (rs : List TimeRange) (lo hi : Int) :
    0 ≤ overlapSeconds rs lo hi := by
  induction rs with
  | nil => simp
  | cons r rs ih =>
    rw [overlapSeconds_cons, spanOverlap]
    omega

/-- Working time splits at any second between the bounds. -/
theorem overlapSeconds_split (rs : List TimeRange) {lo m hi : Int} (hlo : lo ≤ m) (hhi : m ≤ hi) :
    overlapSeconds rs lo hi = overlapSeconds rs lo m + overlapSeconds rs m hi := by
  induction rs with
  | nil => simp
  | cons r rs ih =>
    simp only [overlapSeconds_cons, spanOverlap, ih]
    omega

/-- Working time up to any bound is at most the working time to a second after the lower bound
and on from there. -/
theorem overlapSeconds_le_add (rs : List TimeRange) {lo m : Int} (hlo : lo ≤ m) (hi : Int) :
    overlapSeconds rs lo hi ≤ overlapSeconds rs lo m + overlapSeconds rs m hi := by
  induction rs with
  | nil => simp
  | cons r rs ih =>
    simp only [overlapSeconds_cons, spanOverlap]
    omega

/-- Nothing of the spans that start at or after the upper bound falls below it. -/
theorem overlapSeconds_eq_zero {rs : List TimeRange} {lo hi : Int}
    (h : ∀ r ∈ rs, hi ≤ r.startSeconds) : overlapSeconds rs lo hi = 0 := by
  induction rs with
  | nil => rfl
  | cons r rs ih =>
    have hr := h r List.mem_cons_self
    rw [overlapSeconds_cons, ih fun r' hr' => h r' (List.mem_cons_of_mem r hr'), spanOverlap]
    omega

/-! ### One day of the walk -/

section Consume

variable (d : Date) (lo : Int)

/-- Where a day's spans in time order hold the remaining seconds after second `lo`, the walk
stops at the second `x` by which exactly that much working time has passed since `lo`, and
before which less has. -/
theorem consumeDay_found {rs : List TimeRange} (hrs : InTimeOrder rs) :
    ∀ {remaining : Int} {worked : Bool} {res : Option Stamp}, 0 ≤ remaining →
      consumeDay d lo rs remaining worked = .inl res →
      ∃ x, res = (Stamp.atMidnight d).addSeconds? x ∧ lo ≤ x ∧ x ≤ 86400 ∧
        (∃ r ∈ rs, r.startSeconds ≤ x) ∧ overlapSeconds rs lo x = remaining ∧
        (0 < remaining → ∀ y, y < x → overlapSeconds rs lo y < remaining) := by
  induction rs with
  | nil => intro _ _ _ _ h; cases h
  | cons r rs ih =>
    intro remaining worked res hrem h
    obtain ⟨hpair, hbound⟩ := hrs
    have hrest : InTimeOrder rs :=
      ⟨(List.pairwise_cons.mp hpair).2, fun r' hr' => hbound r' (List.mem_cons_of_mem r hr')⟩
    -- every later span starts after this one ends
    have hafter : ∀ r' ∈ rs, r.finishSeconds ≤ r'.startSeconds := (List.pairwise_cons.mp hpair).1
    have hfin := hbound r List.mem_cons_self
    simp only [consumeDay] at h
    split at h
    · -- an empty span: nothing of it is spent
      rename_i hempty
      obtain ⟨x, hres, hlo, hx, ⟨r', hr', hstart⟩, hspent, hless⟩ := ih hrest hrem h
      refine ⟨x, hres, hlo, hx, ⟨r', List.mem_cons_of_mem r hr', hstart⟩, ?_, ?_⟩
      · rw [overlapSeconds_cons, hspent, spanOverlap]
        omega
      · intro hpos y hy
        have := hless hpos y hy
        rw [overlapSeconds_cons, spanOverlap]
        omega
    · split at h
      · -- the budget runs out inside this span
        rename_i hne hfits
        cases h
        -- nothing of the later spans falls before the stop
        have hlater : ∀ y, y ≤ max r.startSeconds lo + remaining → overlapSeconds rs lo y = 0 :=
          fun y hy => overlapSeconds_eq_zero fun r' hr' => Int.le_trans (by omega) (hafter r' hr')
        refine ⟨max r.startSeconds lo + remaining, rfl, by omega, by omega,
          ⟨r, List.mem_cons_self, by omega⟩, ?_, ?_⟩
        · rw [overlapSeconds_cons, hlater _ (Int.le_refl _), spanOverlap]
          omega
        · intro hpos y hy
          rw [overlapSeconds_cons, hlater y (Int.le_of_lt hy), spanOverlap]
          omega
      · -- the span is spent whole and the walk goes on with the rest
        rename_i hne hover
        obtain ⟨x, hres, hlo, hx, ⟨r', hr', hstart⟩, hspent, hless⟩ := ih hrest (by omega) h
        have hrx : r.finishSeconds ≤ x := Int.le_trans (hafter r' hr') hstart
        refine ⟨x, hres, hlo, hx, ⟨r', List.mem_cons_of_mem r hr', hstart⟩, ?_, ?_⟩
        · rw [overlapSeconds_cons, hspent, spanOverlap]
          omega
        · intro _ y hy
          have := hless (by omega) y hy
          rw [overlapSeconds_cons, spanOverlap]
          omega

/-- Where a day's spans, each ending by midnight, hold less than the remaining seconds after
second `lo`, the walk spends all of them and goes on with the rest; a positive budget stays
positive. -/
theorem consumeDay_spent {rs : List TimeRange} (hbound : ∀ r ∈ rs, r.finishSeconds ≤ 86400) :
    ∀ {remaining left : Int} {worked worked' : Bool},
      consumeDay d lo rs remaining worked = .inr (left, worked') →
      left = remaining - overlapSeconds rs lo 86400 ∧ (0 ≤ remaining → 0 ≤ left) ∧
        (0 < remaining → 0 < left) := by
  induction rs with
  | nil =>
    intro remaining left worked worked' h
    cases h
    simp
  | cons r rs ih =>
    intro remaining left worked worked' h
    have hfin := hbound r List.mem_cons_self
    have ih' := @ih fun r' hr' => hbound r' (List.mem_cons_of_mem r hr')
    simp only [consumeDay] at h
    split at h
    · obtain ⟨hleft, hnonneg, hpos⟩ := ih' h
      rw [overlapSeconds_cons, spanOverlap]
      omega
    · split at h
      · cases h
      · obtain ⟨hleft, hnonneg, hpos⟩ := ih' h
        rw [overlapSeconds_cons, spanOverlap]
        omega

end Consume

/-! ### Working time over days -/

/-- The working seconds from midnight of day `a` to second `x` of the day `n` days later. -/
def reach (w : WorkingTime) (a : Int) : Nat → Int → Int
  | 0, x => overlapSeconds (w.ranges ⟨a⟩) 0 x
  | n + 1, x => overlapSeconds (w.ranges ⟨a⟩) 0 86400 + w.reach (a + 1) n x

@[simp] theorem reach_zero (w : WorkingTime) (a x : Int) :
    w.reach a 0 x = overlapSeconds (w.ranges ⟨a⟩) 0 x := rfl

@[simp] theorem reach_succ (w : WorkingTime) (a x : Int) (n : Nat) :
    w.reach a (n + 1) x = overlapSeconds (w.ranges ⟨a⟩) 0 86400 + w.reach (a + 1) n x := rfl

theorem reach_zero_zero (w : WorkingTime) (a : Int) : w.reach a 0 0 = 0 :=
  overlapSeconds_eq_zero fun r _ => Int.natCast_nonneg r.start.seconds

/-- What a walk from second `lo` of day `d` with `remaining` seconds to spend stops at: a whole
second of a day no earlier, up to which the working time since midnight of `d` is that up to
`lo` and the budget; and, for a positive budget, up to every earlier second less. Seconds after
midnight of `d` are written as a number of days on and a second of that day. -/
structure Reaches (w : WorkingTime) (d : Date) (lo remaining : Int) (f : Stamp) : Prop where
  nanos : f.clock.nanos = 0
  day_le : d.day ≤ f.date.day
  after : f.date.day = d.day → lo ≤ f.clock.seconds
  spent : w.reach d.day (f.date.day - d.day).toNat f.clock.seconds = w.reach d.day 0 lo + remaining
  earliest : 0 < remaining → ∀ (n : Nat) (y : Int), 0 ≤ y → y < 86400 →
    (d.day + n < f.date.day ∨ d.day + n = f.date.day ∧ y < f.clock.seconds) →
    w.reach d.day n y < w.reach d.day 0 lo + remaining

variable {w : WorkingTime}

/-- The walk stopping on its first day, at second `x` of it or at the midnight that ends it. -/
theorem reaches_of_found {d : Date} {lo remaining x : Int} {f : Stamp} (hlo : 0 ≤ lo)
    (hres : (Stamp.atMidnight d).addSeconds? x = some f) (hx : lo ≤ x) (hx' : x ≤ 86400)
    (hspent : overlapSeconds (w.ranges d) lo x = remaining)
    (hless : 0 < remaining → ∀ y, y < x → overlapSeconds (w.ranges d) lo y < remaining) :
    Reaches w d lo remaining f := by
  obtain ⟨hnanos, hpos⟩ := Stamp.addSeconds?_atMidnight hres
  have hsec := f.clock.seconds_lt
  -- the stop is second `x` of the day, or the next midnight when `x` ends the day
  have hday : f.date.day = d.day ∧ f.clock.seconds = x ∨
      f.date.day = d.day + 1 ∧ f.clock.seconds = 0 ∧ x = 86400 := by omega
  have hdd : (⟨d.day⟩ : Date) = d := rfl
  have hupto : w.reach d.day 0 x = w.reach d.day 0 lo + remaining := by
    rw [reach_zero, reach_zero, overlapSeconds_split _ hlo hx, hdd, hspent]
  refine ⟨hnanos, by omega, fun _ => by omega, ?_, ?_⟩
  · rcases hday with ⟨hd, hs⟩ | ⟨hd, hs, rfl⟩
    · rw [hd, hs, Int.sub_self, Int.toNat_zero, hupto]
    · rw [hd, hs, show (d.day + 1 - d.day).toNat = 0 + 1 by omega, reach_succ, Int.natCast_zero,
        reach_zero_zero, Int.add_zero, ← reach_zero, hupto]
  · intro hrem n y hy _ hbefore
    -- only seconds of the first day come before the stop
    obtain ⟨rfl, hyx⟩ : n = 0 ∧ y < x := by omega
    have hle := overlapSeconds_le_add (w.ranges d) hlo y
    have hlt := hless hrem y hyx
    rw [reach_zero, reach_zero, hdd]
    omega

/-- The walk spending the rest of day `d` and going on from the next midnight: it stops where
the walk from that midnight stops, with the rest of day `d` spent before. -/
theorem reaches_of_spent {d d' : Date} {lo remaining left : Int} {f : Stamp} (hlo : 0 ≤ lo)
    (hlo' : lo ≤ 86400) (hd' : d'.day = d.day + 1)
    (hleft : left = remaining - overlapSeconds (w.ranges d) lo 86400)
    (hleftpos : 0 < remaining → 0 < left) (r : Reaches w d' 0 left f) :
    Reaches w d lo remaining f := by
  have hdd : (⟨d.day⟩ : Date) = d := rfl
  have hfull := overlapSeconds_split (w.ranges d) hlo hlo'
  have hstart := r.spent
  have hday := r.day_le
  rw [reach_zero_zero, hd'] at hstart
  have hdays : (f.date.day - d.day).toNat = (f.date.day - (d.day + 1)).toNat + 1 := by omega
  refine ⟨r.nanos, by omega, fun _ => by omega, ?_, ?_⟩
  · rw [hdays, reach_succ, hstart, reach_zero, hdd]
    omega
  · intro hrem n y hy hy' hbefore
    cases n with
    | zero =>
      -- a second of the first day: at most the whole rest of it was spent by then
      have hle := overlapSeconds_split (w.ranges d) hy (Int.le_of_lt hy')
      have := overlapSeconds_nonneg (w.ranges d) y 86400
      have hpos := hleftpos hrem
      rw [reach_zero, reach_zero, hdd]
      omega
    | succ n =>
      have hlater := r.earliest (hleftpos hrem) n y hy hy' (by rw [hd']; omega)
      rw [reach_zero_zero, hd'] at hlater
      rw [reach_succ, reach_zero, hdd]
      omega

/-- A walk in time order stops where the working time since its start is its budget, and earlier
than anywhere else that is so. -/
theorem walk_reaches (hdays : ∀ d, InTimeOrder (w.ranges d)) :
    ∀ (fuel : Nat) (d : Date) (lo remaining : Int) (idle : Nat) (f : Stamp),
      0 ≤ lo → lo ≤ 86400 → 0 ≤ remaining → w.walk fuel d lo remaining idle = some f →
      Reaches w d lo remaining f := by
  intro fuel
  induction fuel with
  | zero => intro _ _ _ _ _ _ _ _ h; cases h
  | succ fuel ih =>
    intro d lo remaining idle f hlo hlo' hrem h
    rw [walk] at h
    split at h
    · -- the budget runs out on this day
      rename_i res hday
      subst h
      obtain ⟨x, hres, hx, hx', -, hspent, hless⟩ := consumeDay_found d lo (hdays d) hrem hday
      exact reaches_of_found hlo hres.symm hx hx' hspent hless
    · -- the day is spent and the walk goes on from the next midnight
      rename_i left worked hday
      obtain ⟨hleft, hleft₀, hleftpos⟩ := consumeDay_spent d lo (hdays d).2 hday
      simp only at h
      -- a walk that gives up for idleness or at the end of the dates stops at nothing
      by_cases hidle : maxIdleDays < if worked = true then 0 else idle + 1
      · rw [if_pos hidle] at h
        cases h
      · rw [if_neg hidle] at h
        cases hnext : d.next? with
        | none =>
          rw [hnext] at h
          cases h
        | some d' =>
          rw [hnext] at h
          exact reaches_of_spent hlo hlo' (Date.day_of_next? hnext) hleft hleftpos
            (ih d' 0 left _ f (Int.le_refl 0) (by omega) (hleft₀ hrem) h)

/-! ### Working time between stamps -/

/-- The working seconds between two stamps that `work` gives in hours. -/
def workSeconds (w : WorkingTime) (start finish : Stamp) : Int :=
  if finish ≤ start then 0
  else w.workDays start finish ((finish.date.day - start.date.day).toNat + 1) start.date.day 0

theorem work_eq_workSeconds (w : WorkingTime) {start finish : Stamp} (h : ¬finish ≤ start) :
    w.work start finish = Float.ofInt (w.workSeconds start finish) / 3600.0 := by
  rw [work, workSeconds, if_neg h, if_neg h]

/-- After the first day, `work` counts whole days and the last day up to the finish. -/
theorem workDays_tail {start finish : Stamp} :
    ∀ (n : Nat) (day acc : Int), start.date.day < day → finish.date.day = day + n →
      w.workDays start finish (n + 1) day acc = acc + w.reach day n finish.clock.seconds := by
  intro n
  induction n with
  | zero =>
    intro day acc hstart hfinish
    rw [workDays, workDays, if_neg (by omega), if_pos (by omega), reach_zero]
  | succ n ih =>
    intro day acc hstart hfinish
    rw [workDays, if_neg (by omega), if_neg (by omega), ih (day + 1) _ (by omega) (by omega),
      reach_succ, Int.add_assoc]

/-- The working seconds between two stamps of whole seconds are the difference of the working
time since midnight of the first day. -/
theorem workSeconds_eq_reach {start finish : Stamp} (hlt : ¬finish ≤ start) :
    w.workSeconds start finish = w.reach start.date.day
      (finish.date.day - start.date.day).toNat finish.clock.seconds -
        w.reach start.date.day 0 start.clock.seconds := by
  have horder := mt Stamp.le_iff.mpr hlt
  have hs := start.clock.seconds_lt
  rw [workSeconds, if_neg hlt]
  cases hn : (finish.date.day - start.date.day).toNat with
  | zero =>
    -- both stamps on one day
    have hsplit := overlapSeconds_split (w.ranges ⟨start.date.day⟩)
      (Int.natCast_nonneg start.clock.seconds)
      (show (start.clock.seconds : Int) ≤ finish.clock.seconds by omega)
    rw [workDays, workDays, if_pos rfl, if_pos (by omega), reach_zero, reach_zero]
    omega
  | succ n =>
    have hsplit := overlapSeconds_split (w.ranges ⟨start.date.day⟩)
      (Int.natCast_nonneg start.clock.seconds) (show (start.clock.seconds : Int) ≤ 86400 by omega)
    rw [workDays, if_pos rfl, if_neg (by omega), workDays_tail n _ _ (by omega) (by omega),
      reach_succ, reach_zero]
    omega

/-! ### The earliest finish -/

/-- For positive hours, `dateAfter` is a walk with the hours rounded to whole seconds. -/
theorem dateAfter_eq_walk (w : WorkingTime) (start : Stamp) {hours : Float} (h : ¬hours ≤ 0.0) :
    w.dateAfter start hours =
      w.walk maxSpanDays start.date start.clock.seconds (hours * 3600.0).round.toInt64.toInt 0 := by
  rw [dateAfter, if_neg h]

/-- When every day lists its working hours in time order, the stamp that a walk from a whole
second reaches with a budget of working seconds is what `dateAfter` gives for every positive
number of hours that rounds to the budget. It comes no earlier than the start, exactly the budget
of working time lies between the two, and for a positive budget less lies between the start and
any earlier stamp. -/
theorem dateAfter_finishes_earliest (hdays : ∀ d, InTimeOrder (w.ranges d)) {s : Stamp}
    (hn : s.clock.nanos = 0) {target : Int} (ht : 0 ≤ target)
    {f : Stamp} (hf : w.walk maxSpanDays s.date s.clock.seconds target 0 = some f) :
    (∀ hours : Float, ¬hours ≤ 0.0 → (hours * 3600.0).round.toInt64.toInt = target →
      w.dateAfter s hours = some f) ∧
    s ≤ f ∧ w.workSeconds s f = target ∧
    (0 < target → w.work s f = Float.ofInt target / 3600.0 ∧
      ∀ t : Stamp, s ≤ t → t < f → w.workSeconds s t < target) := by
  have hs := s.clock.seconds_lt
  have r := walk_reaches hdays maxSpanDays s.date s.clock.seconds target 0 f
    (Int.natCast_nonneg _) (by omega) ht hf
  have hsf : s ≤ f := Stamp.le_iff.mpr (by have := r.day_le; have := r.after; omega)
  have hspent : w.workSeconds s f = target := by
    by_cases hfs : f ≤ s
    · -- a walk that stops at its start spends nothing
      have hsame : f.date.day = s.date.day ∧ f.clock.seconds = s.clock.seconds := by
        have := Stamp.le_iff.mp hfs
        have := Stamp.le_iff.mp hsf
        omega
      have hstop := r.spent
      rw [hsame.1, hsame.2, Int.sub_self, Int.toNat_zero] at hstop
      rw [workSeconds, if_pos hfs]
      omega
    · rw [workSeconds_eq_reach hfs, r.spent]
      omega
  refine ⟨fun hours hpos hround => ?_, hsf, hspent, fun hpos => ⟨?_, ?_⟩⟩
  · rw [dateAfter_eq_walk w s hpos, hround]
    exact hf
  · have hfs : ¬f ≤ s := fun hfs => by
      rw [workSeconds, if_pos hfs] at hspent
      omega
    rw [work_eq_workSeconds w hfs, hspent]
  · intro t hst htf
    by_cases hts : t ≤ s
    · rw [workSeconds, if_pos hts]
      exact hpos
    · have h₁ := Stamp.le_iff.mp hst
      have h₂ := Stamp.lt_iff.mp htf
      have hnanos := r.nanos
      have hlt := r.earliest hpos (t.date.day - s.date.day).toNat t.clock.seconds
        (Int.natCast_nonneg _) (by have := t.clock.seconds_lt; omega) (by omega)
      rw [workSeconds_eq_reach hts]
      omega

/-- The standard week lists its hours in time order. -/
theorem inTimeOrder_standard (d : Date) : InTimeOrder (standard.ranges d) := by
  show InTimeOrder ((WorkWeek.standard.day d.weekday).hours.getD [])
  generalize d.weekday = i
  obtain _ | _ | _ | _ | _ | _ | _ | i := i
  all_goals try decide
  -- past the seven days of the week a day is left open
  rw [WorkWeek.day, List.getD_eq_getElem?_getD,
    List.getElem?_eq_none (by simp [WorkWeek.standard])]
  decide

/-- From 08:00 on Monday 2024-01-08, an hour of the standard week ends at 09:00. -/
theorem standard_hour_ends_at_nine :
    (∀ hours : Float, ¬hours ≤ 0.0 → (hours * 3600.0).round.toInt64.toInt = 3600 →
      standard.dateAfter ⟨⟨19730⟩, .ofSeconds 28800⟩ hours = some ⟨⟨19730⟩, .ofSeconds 32400⟩) ∧
    (⟨⟨19730⟩, .ofSeconds 28800⟩ : Stamp) ≤ ⟨⟨19730⟩, .ofSeconds 32400⟩ ∧
    standard.workSeconds ⟨⟨19730⟩, .ofSeconds 28800⟩ ⟨⟨19730⟩, .ofSeconds 32400⟩ = 3600 ∧
    (0 < (3600 : Int) →
      standard.work ⟨⟨19730⟩, .ofSeconds 28800⟩ ⟨⟨19730⟩, .ofSeconds 32400⟩ =
        Float.ofInt 3600 / 3600.0 ∧
      ∀ t : Stamp, ⟨⟨19730⟩, .ofSeconds 28800⟩ ≤ t → t < ⟨⟨19730⟩, .ofSeconds 32400⟩ →
        standard.workSeconds ⟨⟨19730⟩, .ofSeconds 28800⟩ t < 3600) :=
  dateAfter_finishes_earliest inTimeOrder_standard rfl (by decide) (by decide)

/-- A week whose every day lists its hours from 13:00 to midnight before those from 08:00 to
12:00. -/
def afternoonFirst : WorkingTime :=
  let day : CalendarDay :=
    { dayType := .working, hours := some [TimeRange.ofHours 13 0, TimeRange.ofHours 8 12] }
  ⟨[{ uniqueId := 1, week := { days := List.replicate 7 day } }]⟩

/-- With the afternoon listed first, an hour from 08:00 on Monday 2024-01-08 ends at 14:00,
although the hour of work from 08:00 is done at 09:00, and five have passed by 14:00. -/
theorem afternoon_first_finishes_late :
    afternoonFirst.walk maxSpanDays ⟨19730⟩ 28800 3600 0 = some ⟨⟨19730⟩, .ofSeconds 50400⟩ ∧
    afternoonFirst.workSeconds ⟨⟨19730⟩, .ofSeconds 28800⟩ ⟨⟨19730⟩, .ofSeconds 32400⟩ = 3600 ∧
    afternoonFirst.workSeconds ⟨⟨19730⟩, .ofSeconds 28800⟩ ⟨⟨19730⟩, .ofSeconds 50400⟩ = 18000 := by
  decide

end WorkingTime

end Schedule
