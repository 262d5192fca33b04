import Schedule.Time.Date
import Schedule.Time.Clock

/-!
# Date and time

A stamp is a date with a time of day, ordered by date, then second, then nanosecond. Seconds are
added to a stamp by counting whole seconds from the start of the range; a stamp inside a leap
second leaves it first. The distance between two stamps counts a leap second as part of the second
it extends.

## Main definitions

* `Stamp.addSeconds?` — a stamp moved by whole seconds, within the range of dates.
* `Stamp.nanosSince` — the signed distance between two stamps, in nanoseconds.
* `Stamp.wholeHoursSince` — that distance in whole hours, rounded toward zero.
-/

namespace Schedule

/-- A date and a time of day. -/
structure Stamp where
  date : Date
  clock : Clock
  deriving Repr, Inhabited, DecidableEq, Hashable

namespace Stamp

instance : Ord Stamp :=
  ⟨fun a b => ((compare a.date.day b.date.day).then (compare a.clock.seconds b.clock.seconds)).then
    (compare a.clock.nanos b.clock.nanos)⟩
instance : LT Stamp := ⟨fun a b => compare a b = .lt⟩
instance : LE Stamp := ⟨fun a b => compare a b ≠ .gt⟩
instance (a b : Stamp) : Decidable (a < b) := inferInstanceAs (Decidable (compare a b = .lt))
instance (a b : Stamp) : Decidable (a ≤ b) := inferInstanceAs (Decidable (compare a b ≠ .gt))

/-- The earlier of two stamps. -/
def min (a b : Stamp) : Stamp := if b < a then b else a

/-- The later of two stamps. -/
def max (a b : Stamp) : Stamp := if a < b then b else a

/-- Midnight at the start of a date. -/
def atMidnight (d : Date) : Stamp := ⟨d, Clock.midnight⟩

/-- The stamp `delta` whole seconds later, if its date is in range. A stamp inside a leap second
first steps out of it in the direction of travel. -/
def addSeconds? (t : Stamp) (delta : Int) : Option Stamp :=
  let c := t.clock
  -- leaving toward the past, the leap second counts as the next second
  let leaving := 1000000000 ≤ c.nanos ∧ delta ≠ 0
  let secs : Int := if leaving ∧ delta < 0 then c.seconds + 1 else c.seconds
  let total := t.date.day * 86400 + secs + delta
  (Date.ofDay? (total / 86400)).map fun d =>
    ⟨d, { seconds := (total % 86400).toNat
          nanos := if leaving then c.nanos - 1000000000 else c.nanos
          seconds_lt := by omega
          nanos_lt := by have := c.nanos_lt; split <;> omega
          -- a time that stays in its leap second keeps its second of the day
          leap := by
            have := c.seconds_lt
            have := c.nanos_lt
            have := c.leap
            simp only [total, secs, leaving]
            split <;> split <;> omega }⟩

/-- Outside a leap second, a stamp moved by whole seconds keeps its nanoseconds and lands that many
seconds on, counted from the start of the range, when the date it reaches is in range. -/
theorem addSeconds?_eq_some_iff {t f : Stamp} {delta : Int} (hn : t.clock.nanos < 1000000000) :
    t.addSeconds? delta = some f ↔
      Date.ofDay? ((t.date.day * 86400 + t.clock.seconds + delta) / 86400) = some f.date ∧
        f.clock.seconds = ((t.date.day * 86400 + t.clock.seconds + delta) % 86400).toNat ∧
        f.clock.nanos = t.clock.nanos := by
  have hstay : ¬(1000000000 ≤ t.clock.nanos ∧ delta ≠ 0) := fun h => by omega
  have hsecs : (if (1000000000 ≤ t.clock.nanos ∧ delta ≠ 0) ∧ delta < 0 then
      (t.clock.seconds : Int) + 1 else t.clock.seconds) = t.clock.seconds :=
    if_neg fun h => hstay h.1
  unfold addSeconds?
  dsimp only
  rw [Option.map_eq_some_iff]
  -- the clock's proofs mention the seconds, so they are rewritten only once projected out
  constructor
  · rintro ⟨d, hd, rfl⟩
    rw [hsecs] at hd
    refine ⟨hd, ?_, if_neg hstay⟩
    dsimp only
    rw [hsecs]
  · rintro ⟨hd, hs, hn'⟩
    refine ⟨f.date, by rw [hsecs]; exact hd, ?_⟩
    cases f
    congr 1
    ext
    · dsimp only at hs ⊢
      rw [hsecs, hs]
    · dsimp only at hn' ⊢
      rw [if_neg hstay, hn']

/-- The signed distance from `b` to `a` in nanoseconds. Within the time of day, a leap second of
the earlier stamp counts once toward the later one. -/
def nanosSince (a b : Stamp) : Int :=
  let sa : Int := a.clock.seconds
  let sb : Int := b.clock.seconds
  let adjust : Int :=
    if sb < sa ∧ 1000000000 ≤ b.clock.nanos then 1
    else if sa < sb ∧ 1000000000 ≤ a.clock.nanos then -1
    else 0
  ((a.date.day - b.date.day) * 86400 + (sa - sb) + adjust) * 1000000000 +
    ((a.clock.nanos : Int) - b.clock.nanos)

/-- The distance from `b` to `a` in whole hours, rounded toward zero. -/
def wholeHoursSince (a b : Stamp) : Int :=
  ((a.nanosSince b).tdiv 1000000000).tdiv 3600

end Stamp

end Schedule
