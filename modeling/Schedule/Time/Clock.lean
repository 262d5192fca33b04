/-!
# Times of day

A time of day is a count of whole seconds since midnight and a count of nanoseconds. The
nanoseconds reach past one second only during a leap second, which extends the last second of a
minute: `23:59:60.5` is the second `86399` with `1500000000` nanoseconds.
-/

namespace Schedule

/-- A time of day: whole seconds within the day and nanoseconds, which reach one second only in a
leap second, at the end of a minute. A time written out has its bounds checked by `decide`. -/
@[ext]
structure Clock where
  seconds : Nat
  nanos : Nat
  seconds_lt : seconds < 86400 := by decide
  nanos_lt : nanos < 2000000000 := by decide
  leap : 1000000000 ≤ nanos → seconds % 60 = 59 := by decide
  deriving Repr, DecidableEq, Hashable

namespace Clock

/-- The time a whole number of seconds after midnight. -/
def ofSeconds (s : Nat) (h : s < 86400 := by decide) : Clock :=
  { seconds := s, nanos := 0, seconds_lt := h, leap := fun h' => absurd h' (by decide) }

@[simp] theorem ofSeconds_seconds (s : Nat) (h : s < 86400) : (ofSeconds s h).seconds = s := rfl
@[simp] theorem ofSeconds_nanos (s : Nat) (h : s < 86400) : (ofSeconds s h).nanos = 0 := rfl

/-- Midnight. -/
def midnight : Clock := ofSeconds 0

instance : Inhabited Clock := ⟨midnight⟩

instance : Ord Clock := ⟨fun a b => (compare a.seconds b.seconds).then (compare a.nanos b.nanos)⟩

/-- The time of hour, minute, second and nanosecond, if they name one; a second of 60 is a leap
second. -/
def ofHmsNano? (h m s nano : Nat) : Option Clock :=
  if hv : h < 24 ∧ m < 60 ∧ s ≤ 60 ∧ nano < 1000000000 then
    if hs : s = 60 then
      some ⟨h * 3600 + m * 60 + 59, nano + 1000000000, by omega, by omega, fun _ => by omega⟩
    else some ⟨h * 3600 + m * 60 + s, nano, by omega, by omega, fun hn => by omega⟩
  else none

/-- The time of a whole hour. -/
def ofHour (h : Nat) : Clock := ofSeconds (h % 24 * 3600) (by omega)

/-- Hour, minute and second as written, a leap second reading 60. -/
def hms (c : Clock) : Nat × Nat × Nat :=
  let s := c.seconds % 60 + (if 1000000000 ≤ c.nanos then 1 else 0)
  (c.seconds / 3600, c.seconds / 60 % 60, s)

/-- The fraction of the second as written, without the leap second. -/
def fraction (c : Clock) : Nat :=
  if 1000000000 ≤ c.nanos then c.nanos - 1000000000 else c.nanos

end Clock

end Schedule
